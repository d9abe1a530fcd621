import Gazetteer.Text.Interval

/-!
# Text/Blank — blanks, and texts with their runs of blanks collapsed

Blanks are the white space of Unicode together with the four separators `1C`–`1F`. Collapsing
writes one space for each maximal run of them, so two texts that differ only in layout become equal.
-/

namespace Gazetteer.Text

/-- The blanks, as intervals of code points. -/
def blankIntervals : List (Nat × Nat) :=
  [
    (0x9, 0xd), (0x1c, 0x20), (0x85, 0x85), (0xa0, 0xa0), (0x1680, 0x1680), (0x2000, 0x200a),
    (0x2028, 0x2029), (0x202f, 0x202f), (0x205f, 0x205f), (0x3000, 0x3000)]

/-- Whether a character is white space. -/
def isBlank (c : Char) : Bool := inIntervals c.toNat blankIntervals

/-- Writes one space for each maximal run of blanks. -/
def collapseBlanks : List Char → List Char
  | [] => []
  | c :: rest =>
    if isBlank c then
      match rest with
      | [] => [' ']
      | d :: _ => if isBlank d then collapseBlanks rest else ' ' :: collapseBlanks rest
    else c :: collapseBlanks rest

/-- The text without the blanks at its two ends. -/
def trimBlanks (cs : List Char) : List Char :=
  ((cs.dropWhile isBlank).reverse.dropWhile isBlank).reverse

@[simp] theorem collapseBlanks_nil : collapseBlanks [] = [] := rfl

end Gazetteer.Text
