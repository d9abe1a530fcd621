import Gazetteer.Text.Word
import Gazetteer.Text.LowerCase
import Gazetteer.Text.Split

/-!
# Lexeme — the words of a text, and the keys that aliases are found by

The lexemes of a text are its maximal runs of word characters, each with the span it covers;
positions count code points. The key of an alias is its lexemes, one space between every two, in
lower case; an alias without lexemes has the empty key.
-/

namespace Gazetteer

/-- A word of a text, and the span it covers. -/
structure Lexeme where
  text : List Char
  start : Nat
  stop : Nat
deriving Repr, DecidableEq

namespace Lexeme

/-- The lexemes of a text whose first character has a given position. -/
def scanFrom (position : Nat) : List Char → List Lexeme
  | [] => []
  | c :: rest =>
    if Text.isWord c then
      let word := c :: rest.takeWhile Text.isWord
      ⟨word, position, position + word.length⟩
        :: scanFrom (position + word.length) (rest.dropWhile Text.isWord)
    else scanFrom (position + 1) rest
termination_by cs => cs.length
decreasing_by
  · have := (List.dropWhile_suffix (l := rest) Text.isWord).length_le
    simp only [List.length_cons]; omega
  · simp

/-- The lexemes of a text, from left to right. -/
def scan (cs : List Char) : List Lexeme := scanFrom 0 cs

@[simp] theorem scanFrom_nil (position : Nat) : scanFrom position [] = [] := by
  rw [scanFrom]

theorem scanFrom_cons_of_not {c : Char} (h : Text.isWord c = false) (position : Nat)
    (rest : List Char) : scanFrom position (c :: rest) = scanFrom (position + 1) rest := by
  rw [scanFrom]; simp [h]

theorem scanFrom_cons {c : Char} (h : Text.isWord c = true) (position : Nat) (rest : List Char) :
    scanFrom position (c :: rest)
      = ⟨c :: rest.takeWhile Text.isWord, position,
          position + (c :: rest.takeWhile Text.isWord).length⟩
        :: scanFrom (position + (c :: rest.takeWhile Text.isWord).length)
            (rest.dropWhile Text.isWord) := by
  rw [scanFrom]; simp [h]

end Lexeme

namespace Alias

/-- The key of an alias. -/
def keyChars (label : List Char) : List Char :=
  Text.lower (Text.joinWith [' '] ((Lexeme.scan label).map Lexeme.text))

/-- The key that an alias is stored and found by. -/
def key (label : String) : String := String.ofList (keyChars label.toList)

/-- The key of a stretch of lexemes, each put in lower case by itself. -/
def keyOf (lexemes : List Lexeme) : String :=
  String.ofList (Text.joinWith [' '] (lexemes.map fun l => Text.lower l.text))

/-- How many lexemes a key that is not empty stands for. -/
def keySize (key : String) : Nat := key.toList.count ' ' + 1

end Alias

end Gazetteer
