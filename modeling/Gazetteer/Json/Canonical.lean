import Gazetteer.Json.Writer

/-!
# Json/Canonical — one JSON text for all objects with the same members

The canonical text of a value has the members of every object sorted by their keys and holds only
characters of ASCII: every other character is written by its UTF-16 code units.
-/

namespace Gazetteer.Json

/-- A UTF-16 code unit as an escape. -/
def unitEscape (unit : Nat) : List Char := '\\' :: 'u' :: Text.hexPadded 4 unit

/-- A character in ASCII. -/
def canonicalChar (c : Char) : List Char :=
  if c.toNat < 0x7f then writeChar c
  else if c.toNat < 0x10000 then unitEscape c.toNat
  else
    let n := c.toNat - 0x10000
    unitEscape (0xd800 + n / 0x400) ++ unitEscape (0xdc00 + n % 0x400)

/-- A string in ASCII. -/
def canonicalString (s : String) : String :=
  String.ofList ('"' :: s.toList.flatMap canonicalChar ++ ['"'])

mutual

/-- The canonical text of a value. -/
def canonical : Value → String
  | .string s => canonicalString s
  | .array items => "[" ++ String.intercalate ", " (canonicalItems items) ++ "]"
  | .object members =>
    let members := (canonicalMembers members).mergeSort fun x y => x.1 ≤ y.1
    "\x7b" ++ String.intercalate ", " (members.map fun m => canonicalString m.1 ++ ": " ++ m.2)
      ++ "\x7d"
  | v => render v

/-- The canonical texts of the items of an array. -/
def canonicalItems : List Value → List String
  | [] => []
  | v :: rest => canonical v :: canonicalItems rest

/-- The keys and canonical texts of the members of an object. -/
def canonicalMembers : List (String × Value) → List (String × String)
  | [] => []
  | (k, v) :: rest => (k, canonical v) :: canonicalMembers rest

end

/-- Items in the order of the canonical texts of what they are written as. -/
def sortedBy {α : Type} (written : α → Value) (items : List α) : List α :=
  ((items.map fun x => (canonical (written x), x)).mergeSort fun x y => x.1 ≤ y.1).map (·.2)

end Gazetteer.Json
