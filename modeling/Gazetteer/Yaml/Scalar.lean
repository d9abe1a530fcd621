import Gazetteer.Json.Reader
import Gazetteer.Json.Writer
import Gazetteer.Text.Split

/-!
# Yaml/Scalar — what scalars and mappings stand for

A scalar without quotation marks is null, a truth value, an integer, a float or, if it has the form
of none of them, a string. Underscores in numbers are passed over, and numbers may be written to the
base sixty with colons. A mapping stands for an object, its keys written as texts.
-/

namespace Gazetteer.Yaml

/-! ## Plain scalars -/

/-- The words for null. -/
def nullWords : List String := ["", "~", "null", "Null", "NULL"]

/-- The words for true. -/
def trueWords : List String := ["yes", "Yes", "YES", "true", "True", "TRUE", "on", "On", "ON"]

/-- The words for false. -/
def falseWords : List String := ["no", "No", "NO", "false", "False", "FALSE", "off", "Off", "OFF"]

/-- Whether a text is not empty and all its characters pass a test or are underscores. -/
def allDigits (isDigit : Char → Bool) (cs : List Char) : Bool :=
  !cs.isEmpty && cs.all fun c => isDigit c || c = '_'

/-- The number that digits to a base stand for, underscores left out. -/
def numberOf (base : Nat) (cs : List Char) : Nat :=
  (cs.filter (· ≠ '_')).foldl (fun n c => base * n + (Json.hexDigit? c).getD 0) 0

/-- The sign in front of a number, and the rest. -/
def splitSign : List Char → Bool × List Char
  | '-' :: rest => (true, rest)
  | '+' :: rest => (false, rest)
  | cs => (false, cs)

/-- Whether a text is one or two digits below sixty. -/
def isSixtieth (cs : List Char) : Bool :=
  !cs.isEmpty && cs.length ≤ 2 && cs.all Json.isDigit && Json.digitsValue cs < 60

/-- The number of parts to the base sixty. -/
def sixtieths (parts : List (List Char)) : Nat :=
  parts.foldl (fun n part => 60 * n + numberOf 10 part) 0

/-- The size of an integer without its sign. -/
def natural? (cs : List Char) : Option Nat :=
  let isBinary (c : Char) : Bool := c = '0' || c = '1'
  let isOctal (c : Char) : Bool := '0' ≤ c && c ≤ '7'
  match cs with
  | '0' :: 'b' :: rest => if allDigits isBinary rest then some (numberOf 2 rest) else none
  | '0' :: 'x' :: rest =>
    if allDigits (fun c => (Json.hexDigit? c).isSome) rest then some (numberOf 16 rest) else none
  | ['0'] => some 0
  | '0' :: rest => if allDigits isOctal rest then some (numberOf 8 rest) else none
  | c :: _ =>
    let parts := Text.splitOnChar ':' cs
    let isWhole := Json.isDigit c && allDigits Json.isDigit (parts.headD [])
    if isWhole && (parts.drop 1).all isSixtieth then some (sixtieths parts)
    else none
  | [] => none

/-- The integer that a text stands for. -/
def integer? (cs : List Char) : Option Int :=
  let (negative, rest) := splitSign cs
  (natural? rest).map fun n => if negative then -(n : Int) else n

/-- The exponent of a float, which has to have a sign; zero if there is none. -/
def exponent? : List Char → Option Int
  | [] => some 0
  | e :: sign :: digits =>
    if (e = 'e' || e = 'E') && !digits.isEmpty && digits.all Json.isDigit then
      if sign = '-' then some (-(Json.digitsValue digits : Int))
      else if sign = '+' then some (Json.digitsValue digits)
      else none
    else none
  | [_] => none

/-- The float that a text with a dot stands for. -/
def float? (cs : List Char) : Option Float :=
  let (negative, rest) := splitSign cs
  let isPart (c : Char) : Bool := Json.isDigit c || c = '_'
  let infinite : Bool := [".inf", ".Inf", ".INF"].contains (String.ofList rest)
  if infinite then some (if negative then -1.0 / 0.0 else 1.0 / 0.0)
  else if [".nan", ".NaN", ".NAN"].contains (String.ofList cs) then some (0.0 / 0.0)
  else if !rest.contains '.' then none
  else
    let whole := Text.beforeFirst '.' rest
    let after := Text.afterFirst '.' rest
    let fraction := after.takeWhile isPart
    let wholeFits :=
      if whole.isEmpty then rest.length = cs.length && fraction.head?.any Json.isDigit
      else whole.head?.any Json.isDigit && whole.all isPart
    match exponent? (after.drop fraction.length) with
    | some exponent =>
      if wholeFits then
        let digits := (whole ++ fraction).filter (· ≠ '_')
        let places := (fraction.filter (· ≠ '_')).length
        let mantissa := Json.digitsValue digits
        some (Json.decimalFloat negative mantissa digits.length (exponent - places))
      else none
    | none => none

/-- The value that a plain scalar stands for. -/
def plainValue (cs : List Char) : Value :=
  let s := String.ofList cs
  if nullWords.contains s then .null
  else if trueWords.contains s then .bool true
  else if falseWords.contains s then .bool false
  else
    match integer? cs, float? cs with
    | some n, _ => .int n
    | none, some x => .float x
    | none, none => .string s

/-! ## Nodes, keys and tags -/

/-- What a node holds, before it is known whether the node is a key or a value. -/
inductive Content where
  /-- A scalar without quotation marks. -/
  | plain (text : List Char)
  | quoted (text : String)
  | value (v : Value)
deriving Inhabited

/-- What stands on the left in a mapping. -/
inductive Key where
  /-- The mark for taking over the members of other mappings. -/
  | merge
  | value (v : Value)

namespace Content

/-- Where nothing is written. -/
def empty : Content := plain []

/-- The value of a node; two plain scalars have a meaning only as keys. -/
def value? : Content → Option Value
  | plain ['<', '<'] | plain ['='] => none
  | plain text => some (plainValue text)
  | quoted text => some (.string text)
  | value v => some v

/-- What a node says as a key. -/
def key? : Content → Option Key
  | plain ['<', '<'] => some .merge
  | plain ['='] => some (.value (.string "="))
  | content =>
    match content.value? with
    | some v => if v.isKey then some (.value v) else none
    | none => none

/-- The text of a scalar. -/
def text? : Content → Option (List Char)
  | plain text => some text
  | quoted text => some text.toList
  | value _ => none

/-- A node with a tag, which says what the node stands for. -/
def tagged? (tag : String) (content : Content) : Option Content :=
  match content.text?, tag with
  | some text, "!" => some (plain text)
  | some text, "!!str" => some (quoted (String.ofList text))
  | some text, "!!int" => (integer? text).map fun n => value (.int n)
  | some text, "!!float" => (float? text).map fun x => value (.float x)
  | some _, "!!null" => some empty
  | none, "!" => some content
  | none, _ =>
    match content, tag with
    | value (.array items), "!!seq" => some (value (.array items))
    | value (.object members), "!!map" => some (value (.object members))
    | _, _ => none
  | _, _ => none

end Content

/-! ## Mappings -/

/-- A key as the name of a member. -/
def nameOf : Value → Option String
  | .string s => some s
  | .array _ | .object _ => none
  | v => some (Json.render v)

/-- The members that a merge takes over: of one mapping, or of several, the first coming last. -/
def mergedMembers? : Value → Option (List (String × Value))
  | .object members => some members
  | .array items =>
    items.reverse.foldlM (fun found item =>
      match item with
      | .object members => some (found ++ members)
      | _ => none) []
  | _ => none

/-- The object that a mapping stands for. What is taken over from other mappings comes first; of
entries with one key the last counts. -/
def objectOf? (entries : List (Key × Value)) : Option Value := do
  let merged ← entries.foldlM (fun found (key, v) =>
    match key with
    | .merge => (mergedMembers? v).map (found ++ ·)
    | .value _ => some found) []
  let own := entries.filterMap fun (key, v) =>
    match key with
    | .merge => none
    | .value k => some (k, v)
  let all := (merged.map fun (k, v) => (Value.string k, v)) ++ own
  let members := all.foldl (fun found (k, v) => Value.put k v found) []
  let named ← members.mapM fun (k, v) => (nameOf k).map fun name => (name, v)
  return .object (named.foldl (fun found (name, v) => Value.put name v found) [])

end Gazetteer.Yaml
