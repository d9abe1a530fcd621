/-!
# Text/Split — texts cut at a character

`splitAt c` cuts a text at every occurrence of a character, and `joinWith` puts the pieces together
again. `beforeFirst` and `afterFirst` are what stands on either side of the first occurrence.
-/

namespace Gazetteer.Text

/-- The pieces of a text between the occurrences of a character. -/
def splitOnChar (c : Char) : List Char → List (List Char)
  | [] => [[]]
  | d :: rest =>
    if d = c then [] :: splitOnChar c rest
    else
      match splitOnChar c rest with
      | [] => [[d]]
      | piece :: pieces => (d :: piece) :: pieces

/-- Pieces with a text between every two of them. -/
def joinWith (between : List Char) : List (List Char) → List Char
  | [] => []
  | [piece] => piece
  | piece :: pieces => piece ++ between ++ joinWith between pieces

/-- What stands before the first occurrence of a character: everything, if there is none. -/
def beforeFirst (c : Char) (cs : List Char) : List Char := cs.takeWhile (· ≠ c)

/-- What stands after the first occurrence of a character: nothing, if there is none. -/
def afterFirst (c : Char) (cs : List Char) : List Char := (cs.dropWhile (· ≠ c)).drop 1

/-- Whether one text occurs in another. -/
def occursIn (part : List Char) : List Char → Bool
  | [] => part.isEmpty
  | c :: rest => part.isPrefixOf (c :: rest) || occursIn part rest

theorem splitOnChar_ne_nil (c : Char) : ∀ cs : List Char, splitOnChar c cs ≠ []
  | [] => by simp [splitOnChar]
  | d :: rest => by
      by_cases h : d = c
      · simp [splitOnChar, h]
      · simp only [splitOnChar, h, if_false]
        split <;> simp

/-- **Joining the pieces gives the text back.** -/
theorem joinWith_splitOnChar (c : Char) : ∀ cs : List Char,
    joinWith [c] (splitOnChar c cs) = cs
  | [] => rfl
  | d :: rest => by
      have ih := joinWith_splitOnChar c rest
      have hne := splitOnChar_ne_nil c rest
      cases hs : splitOnChar c rest with
      | nil => exact absurd hs hne
      | cons piece pieces =>
        rw [hs] at ih
        by_cases h : d = c
        · simp [splitOnChar, h, hs, joinWith, ih]
        · cases pieces with
          | nil => simp_all [splitOnChar, joinWith]
          | cons q qs =>
            simp only [splitOnChar, h, if_false, hs, joinWith] at ih ⊢
            simp [← ih]

end Gazetteer.Text
