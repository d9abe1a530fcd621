import Gazetteer.Value.Basic
import Gazetteer.Text.Quoted

/-!
# Json/Writer — values as JSON text

A comma or colon is followed by one space. Strings are written as they are but for the quotation
mark, the backslash and the control characters of ASCII.
-/

namespace Gazetteer.Json

/-- A character of a string. -/
def writeChar (c : Char) : List Char :=
  if c = '"' then ['\\', '"']
  else if c = '\\' then ['\\', '\\']
  else if c = '\n' then ['\\', 'n']
  else if c = '\r' then ['\\', 'r']
  else if c = '\t' then ['\\', 't']
  else if c.toNat = 0x08 then ['\\', 'b']
  else if c.toNat = 0x0c then ['\\', 'f']
  else if c.toNat < 0x20 then '\\' :: 'u' :: Text.hexPadded 4 c.toNat
  else [c]

/-- A string between quotation marks. -/
def writeString (s : String) : List Char := '"' :: s.toList.flatMap writeChar ++ ['"']

/-- A float; the values that are no numbers have names. -/
def writeFloat (x : Float) : List Char :=
  (if x.isNaN then "NaN" else if x.isInf then (if x > 0 then "Infinity" else "-Infinity")
    else Decimal.render x).toList

mutual

/-- A value. -/
def write : Value → List Char
  | .null => ['n', 'u', 'l', 'l']
  | .bool true => ['t', 'r', 'u', 'e']
  | .bool false => ['f', 'a', 'l', 's', 'e']
  | .int n => (toString n).toList
  | .float x => writeFloat x
  | .string s => writeString s
  | .array items => '[' :: writeItems items ++ [']']
  | .object members => '{' :: writeMembers members ++ ['}']

/-- The items of an array. -/
def writeItems : List Value → List Char
  | [] => []
  | [v] => write v
  | v :: rest => write v ++ ',' :: ' ' :: writeItems rest

/-- The members of an object. -/
def writeMembers : List (String × Value) → List Char
  | [] => []
  | [(k, v)] => writeString k ++ ':' :: ' ' :: write v
  | (k, v) :: rest => writeString k ++ ':' :: ' ' :: write v ++ ',' :: ' ' :: writeMembers rest

end

/-- The JSON text of a value. -/
def render (v : Value) : String := String.ofList (write v)

end Gazetteer.Json
