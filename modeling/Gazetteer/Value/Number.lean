import Gazetteer.Fault
import Gazetteer.Text.Integer

/-!
# Value/Number — integers out of values

An integer is taken from a number, a fraction being cut off, or from a text that is written as one.
-/

namespace Gazetteer

/-- How many digits an integer in a text may have. -/
def integerDigitLimit : Nat := 4300

/-- The integer that a text stands for. -/
def integerOfText (s : String) : Except Fault Int :=
  match Text.readInteger? s.toList with
  | none => .error (.notAnInteger s)
  | some n =>
    let digits := (s.toList.filter fun c => (Text.digitValue? c).isSome).length
    if digits > integerDigitLimit then .error (.integerTooLong digits) else .ok n

/-- The integer part of a float. -/
def integerPart (x : Float) : Int :=
  let p := Decimal.partsOf x
  let size : Nat :=
    if p.exponent ≥ 0 then p.mantissa * Nat.pow 2 p.exponent.toNat
    else p.mantissa / Nat.pow 2 (-p.exponent).toNat
  if p.negative then -(size : Int) else size

/-- The integer that a value stands for. -/
def Value.integer : Value → Except Fault Int
  | .int n => .ok n
  | .bool b => .ok (Value.ofBool b)
  | .float x => .ok (integerPart x)
  | .string s => integerOfText s
  | v => .error (.shape (.notConvertible v.typeName))

end Gazetteer
