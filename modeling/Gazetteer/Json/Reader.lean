import Gazetteer.Value.Basic

/-!
# Json/Reader — values read from JSON text

The reader takes the JSON grammar and, beyond it, the names `NaN`, `Infinity` and `-Infinity`. A
number with a fraction or an exponent is a float, any other an integer. Of members with the same key
the last one counts, in the place of the first. An escaped surrogate without its partner is read as
`U+FFFD`.
-/

namespace Gazetteer.Json

/-- Blanks between the parts of a JSON text. -/
def isGap (c : Char) : Bool := c = ' ' || c = '\t' || c = '\n' || c = '\r'

/-- Drops the blanks in front. -/
def skipGap (cs : List Char) : List Char := cs.dropWhile isGap

/-- The value of a hexadecimal digit. -/
def hexDigit? (c : Char) : Option Nat :=
  if '0' ≤ c && c ≤ '9' then some (c.toNat - '0'.toNat)
  else if 'a' ≤ c && c ≤ 'f' then some (c.toNat - 'a'.toNat + 10)
  else if 'A' ≤ c && c ≤ 'F' then some (c.toNat - 'A'.toNat + 10)
  else none

/-- The code unit of four hexadecimal digits. -/
def hexUnit? (a b c d : Char) : Option Nat := do
  let a ← hexDigit? a
  let b ← hexDigit? b
  let c ← hexDigit? c
  let d ← hexDigit? d
  return a * 0x1000 + b * 0x100 + c * 0x10 + d

/-- The character of a backslash escape with one letter. -/
def escape? (c : Char) : Option Char :=
  match c with
  | '"' => some '"'
  | '\\' => some '\\'
  | '/' => some '/'
  | 'b' => some (Char.ofNat 0x08)
  | 'f' => some (Char.ofNat 0x0c)
  | 'n' => some '\n'
  | 'r' => some '\r'
  | 't' => some '\t'
  | _ => none

/-- Whether a code unit is the first, or the second, half of a surrogate pair. -/
def isHighHalf (n : Nat) : Bool := 0xd800 ≤ n && n ≤ 0xdbff

@[inherit_doc isHighHalf] def isLowHalf (n : Nat) : Bool := 0xdc00 ≤ n && n ≤ 0xdfff

/-- The character of a code unit that stands alone. -/
def unitChar (n : Nat) : Char :=
  if isHighHalf n || isLowHalf n then Char.ofNat 0xfffd else Char.ofNat n

/-- Reads a string after its opening mark; `acc` is what has been read, in reverse, and `high` a
first half that waits for its second. -/
def readString (acc : List Char) (high : Option Nat) : List Char →
    Option (List Char × List Char)
  | [] => none
  | '\\' :: 'u' :: a :: b :: c :: d :: rest =>
    match hexUnit? a b c d with
    | none => none
    | some unit =>
      match high with
      | some h =>
        if isLowHalf unit then
          let joined := 0x10000 + (h - 0xd800) * 0x400 + (unit - 0xdc00)
          readString (Char.ofNat joined :: acc) none rest
        else if isHighHalf unit then readString (unitChar h :: acc) (some unit) rest
        else readString (unitChar unit :: unitChar h :: acc) none rest
      | none =>
        if isHighHalf unit then readString acc (some unit) rest
        else readString (unitChar unit :: acc) none rest
  | '\\' :: c :: rest =>
    match escape? c with
    | none => none
    | some e => readString (e :: ((high.map unitChar).toList ++ acc)) none rest
  | c :: rest =>
    let acc := (high.map unitChar).toList ++ acc
    if c = '"' then some (acc.reverse, rest)
    else if c = '\\' || c.toNat < 0x20 then none
    else readString (c :: acc) none rest

/-- Whether a character is a digit of ASCII. -/
def isDigit (c : Char) : Bool := '0' ≤ c && c ≤ '9'

/-- The number that digits stand for. -/
def digitsValue (cs : List Char) : Nat :=
  cs.foldl (fun n c => 10 * n + (c.toNat - '0'.toNat)) 0

/-- The digits after a mark, with what follows; nothing is taken without a digit. -/
def afterMark (isMark : Char → Bool) : List Char → List Char × List Char
  | c :: rest =>
    if isMark c && (rest.head?.any isDigit) then (rest.takeWhile isDigit, rest.dropWhile isDigit)
    else ([], c :: rest)
  | [] => ([], [])

/-- The exponent of a number, with its sign, if one is written. -/
def readExponent : List Char → Option Int × List Char
  | c :: rest =>
    let signed : Option (Bool × List Char) :=
      match rest with
      | '-' :: r => some (true, r)
      | '+' :: r => some (false, r)
      | r => some (false, r)
    match signed with
    | some (negative, r) =>
      if (c = 'e' || c = 'E') && r.head?.any isDigit then
        let n : Int := digitsValue (r.takeWhile isDigit)
        (some (if negative then -n else n), r.dropWhile isDigit)
      else (none, c :: rest)
    | none => (none, c :: rest)
  | [] => (none, [])

/-- The float nearest to `mantissa * 10 ^ exponent`. -/
def decimalFloat (negative : Bool) (mantissa : Nat) (digits : Nat) (exponent : Int) : Float :=
  let size : Float :=
    if mantissa = 0 then 0.0
    else if digits + exponent > 400 then 1.0 / 0.0
    else if digits + exponent < -400 then 0.0
    else if exponent ≥ 0 then Float.ofScientific mantissa false exponent.toNat
    else Float.ofScientific mantissa true (-exponent).toNat
  if negative then -size else size

/-- The most digits an integer may have. -/
def integerDigits : Nat := 4300

/-- Reads a number without its sign. -/
def readNumber (negative : Bool) (cs : List Char) : Option (Value × List Char) :=
  let whole := cs.takeWhile isDigit
  let rest := cs.dropWhile isDigit
  match whole with
  | [] => none
  | '0' :: _ :: _ => some (.int 0, cs.drop 1)
  | _ =>
    let (fraction, afterFraction) := afterMark (· = '.') rest
    let (exponent, afterExponent) := readExponent afterFraction
    if fraction.isEmpty && exponent.isNone then
      if whole.length > integerDigits then none else
      let n : Int := digitsValue whole
      some (.int (if negative then -n else n), rest)
    else
      let digits := whole ++ fraction
      some (.float (decimalFloat negative (digitsValue digits) digits.length
        (exponent.getD 0 - fraction.length)), afterExponent)

/-- What follows a name in front of a text. -/
def afterName (name : List Char) (cs : List Char) : Option (List Char) :=
  if name.isPrefixOf cs then some (cs.drop name.length) else none

/-- Reads a name that stands for a value. -/
def readName (cs : List Char) : Option (Value × List Char) :=
  [("null", Value.null), ("true", .bool true), ("false", .bool false), ("NaN", .float (0.0 / 0.0)),
    ("Infinity", .float (1.0 / 0.0)), ("-Infinity", .float (-1.0 / 0.0))].findSome? fun (name, v) =>
      (afterName name.toList cs).map fun rest => (v, rest)

mutual

/-- Reads one value from the front of a text; `fuel` bounds how deep it is nested and how long its
arrays and objects are. -/
def readValue : Nat → List Char → Option (Value × List Char)
  | 0, _ => none
  | fuel + 1, cs =>
    match cs with
    | '"' :: rest => (readString [] none rest).map fun (s, r) => (.string (String.ofList s), r)
    | '[' :: rest =>
      match skipGap rest with
      | ']' :: r => some (.array [], r)
      | r => (readItems fuel r).map fun (items, r) => (.array items, r)
    | '{' :: rest =>
      match skipGap rest with
      | '}' :: r => some (.object [], r)
      | r => (readMembers fuel [] r).map fun (members, r) => (.object members, r)
    | '-' :: rest => readNumber true rest <|> readName cs
    | _ => readNumber false cs <|> readName cs

/-- Reads the items of an array and its closing bracket. -/
def readItems : Nat → List Char → Option (List Value × List Char)
  | 0, _ => none
  | fuel + 1, cs =>
    match readValue fuel cs with
    | none => none
    | some (v, rest) =>
      match skipGap rest with
      | ']' :: r => some ([v], r)
      | ',' :: r => (readItems fuel (skipGap r)).map fun (items, r) => (v :: items, r)
      | _ => none

/-- Reads the members of an object and its closing brace, after those already read. -/
def readMembers : Nat → List (String × Value) → List Char →
    Option (List (String × Value) × List Char)
  | 0, _, _ => none
  | fuel + 1, members, cs =>
    match cs with
    | '"' :: rest =>
      match readString [] none rest with
      | none => none
      | some (key, rest) =>
        match skipGap rest with
        | ':' :: rest =>
          match readValue fuel (skipGap rest) with
          | none => none
          | some (v, rest) =>
            let members := Value.put (String.ofList key) v members
            match skipGap rest with
            | '}' :: r => some (members, r)
            | ',' :: r => readMembers fuel members (skipGap r)
            | _ => none
        | _ => none
    | _ => none

end

/-- The value of a JSON text, with blanks around it. -/
def parse? (cs : List Char) : Option Value :=
  match readValue (cs.length + 1) (skipGap cs) with
  | some (v, rest) => if (skipGap rest).isEmpty then some v else none
  | none => none

end Gazetteer.Json
