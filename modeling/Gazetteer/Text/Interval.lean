/-!
# Text/Interval — membership in a sorted list of code point intervals

A property of characters is given as the list of the closed intervals of code points that have it,
from low to high. `inIntervals` searches such a list: a point of the first interval is found
(`inIntervals_head`), and what is found lies in one of them (`exists_of_inIntervals`).
-/

namespace Gazetteer.Text

/-- Whether `n` lies in one of the closed intervals of a list sorted from low to high. -/
def inIntervals (n : Nat) : List (Nat × Nat) → Bool
  | [] => false
  | (lo, hi) :: rest => if n < lo then false else n ≤ hi || inIntervals n rest

@[simp] theorem inIntervals_nil (n : Nat) : inIntervals n [] = false := rfl

/-- A point of an interval is found, whatever follows. -/
theorem inIntervals_head {n lo hi : Nat} (h : lo ≤ n ∧ n ≤ hi) (rest : List (Nat × Nat)) :
    inIntervals n ((lo, hi) :: rest) = true := by
  have h1 : ¬ n < lo := by omega
  simp [inIntervals, h1, h.2]

/-- What is found lies in one of the intervals. -/
theorem exists_of_inIntervals {n : Nat} : ∀ {l : List (Nat × Nat)}, inIntervals n l = true →
    ∃ p ∈ l, p.1 ≤ n ∧ n ≤ p.2
  | [], h => by simp at h
  | (lo, hi) :: rest, h => by
      by_cases h1 : n < lo
      · simp [inIntervals, h1] at h
      · by_cases h2 : n ≤ hi
        · exact ⟨(lo, hi), by simp, by omega, h2⟩
        · have hr : inIntervals n rest = true := by simpa [inIntervals, h1, h2] using h
          obtain ⟨p, hp, hb⟩ := exists_of_inIntervals hr
          exact ⟨p, List.mem_cons_of_mem _ hp, hb⟩

end Gazetteer.Text
