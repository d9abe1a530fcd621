import Gazetteer.Text.Blank
import Gazetteer.Text.Digit

/-!
# Text/Integer — integers read from text

An integer is an optional sign and decimal digits of any script; a single underscore may stand
between two digits, and blanks around the whole are passed over. The four separators `1C`–`1F` are
blanks elsewhere but not here.
-/

namespace Gazetteer.Text

/-- The blanks that may surround an integer. -/
def isIntegerMargin (c : Char) : Bool := isBlank c && !(0x1c ≤ c.toNat && c.toNat ≤ 0x1f)

/-- Reads digits from the left; `value` is the number so far and `afterDigit` tells whether the
last character was a digit. -/
def readDigits (value : Nat) (afterDigit : Bool) : List Char → Option Nat
  | [] => if afterDigit then some value else none
  | c :: rest =>
    if c = '_' then
      if afterDigit then readDigits value false rest else none
    else
      match digitValue? c with
      | some d => readDigits (10 * value + d) true rest
      | none => none

/-- The integer a text stands for, when it is written as one. -/
def readInteger? (cs : List Char) : Option Int :=
  let trimmed := ((cs.dropWhile isIntegerMargin).reverse.dropWhile isIntegerMargin).reverse
  match trimmed with
  | '-' :: rest => (readDigits 0 false rest).map fun n => -(n : Int)
  | '+' :: rest => (readDigits 0 false rest).map fun n => (n : Int)
  | rest => (readDigits 0 false rest).map fun n => (n : Int)

end Gazetteer.Text
