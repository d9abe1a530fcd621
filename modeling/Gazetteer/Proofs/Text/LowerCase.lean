import Gazetteer.Text.LowerCase
import Gazetteer.Text.Split

/-!
# Proofs/Text/LowerCase — lower case does not look past a space

Only the capital sigma looks at its neighbours, and it looks through characters that case ignores. A
**boundary** is a character without case that case does not ignore either, and that is its own lower
case: what stands on its two sides is put in lower case independently (`lower_append_boundary`). The
space is one, so words joined by spaces can be put in lower case one by one (`lower_joinWith`), and
it is the lower case of nothing but itself (`space_mem_of_mem_lower`).
-/

namespace Gazetteer.Text

/-- A character that the lower case of its neighbours does not depend on. -/
structure IsBoundary (c : Char) : Prop where
  not_cased : isCased c = false
  not_ignored : isCaseIgnored c = false
  fixed : lowerChar c = [c]

theorem IsBoundary.ne_sigma {c : Char} (h : IsBoundary c) : c ≠ 'Σ' := by
  rintro rfl
  exact absurd h.not_cased (by decide)

theorem isBoundary_space : IsBoundary ' ' := ⟨by decide, by decide, by decide⟩

/-! ## A boundary hides what stands behind it -/

theorem meetsCased_append_boundary {c : Char} (h : IsBoundary c) (ds : List Char) :
    ∀ cs : List Char, meetsCased (cs ++ c :: ds) = meetsCased cs
  | [] => by simp [meetsCased, h.not_ignored, h.not_cased]
  | d :: rest => by
      have ih := meetsCased_append_boundary h ds rest
      by_cases hd : isCaseIgnored d = true
      · simpa [meetsCased, hd] using ih
      · simp [meetsCased, hd]

/-- What stands before a boundary does not matter after it. -/
theorem lowerFrom_append_boundary {c : Char} (h : IsBoundary c) (as : List Char) :
    ∀ cs before : List Char, lowerFrom (before ++ c :: as) cs = lowerFrom before cs
  | [], _ => rfl
  | d :: rest, before => by
      have ih := lowerFrom_append_boundary h as rest (d :: before)
      rw [List.cons_append] at ih
      rw [lowerFrom, lowerFrom, ih, meetsCased_append_boundary h]

/-- What stands after a boundary does not matter before it. -/
theorem lowerFrom_boundary {c : Char} (h : IsBoundary c) (ds : List Char) :
    ∀ cs before : List Char,
      lowerFrom before (cs ++ c :: ds) = lowerFrom before cs ++ c :: lower ds
  | [], before => by
      have hds : lowerFrom (c :: before) ds = lowerFrom [] ds :=
        lowerFrom_append_boundary h before ds []
      simp only [List.nil_append, lowerFrom, if_neg h.ne_sigma, h.fixed, hds]
      rfl
  | d :: rest, before => by
      have ih := lowerFrom_boundary h ds rest (d :: before)
      rw [List.cons_append, lowerFrom, lowerFrom, ih, meetsCased_append_boundary h,
        List.append_assoc]

/-- **The two sides of a boundary are put in lower case independently.** -/
theorem lower_append_boundary {c : Char} (h : IsBoundary c) (cs ds : List Char) :
    lower (cs ++ c :: ds) = lower cs ++ c :: lower ds :=
  lowerFrom_boundary h ds cs []

/-- **Words joined by spaces are put in lower case one by one.** -/
theorem lower_joinWith : ∀ words : List (List Char),
    lower (joinWith [' '] words) = joinWith [' '] (words.map lower)
  | [] => rfl
  | [_] => rfl
  | w :: v :: rest => by
      have ih := lower_joinWith (v :: rest)
      simp only [List.map_cons, joinWith, List.append_assoc, List.cons_append, List.nil_append]
        at ih ⊢
      rw [lower_append_boundary isBoundary_space, ih]

/-! ## Where spaces come from -/

/-- Every capital lies far enough above its distance for its lower case to be no control character
and no space. -/
theorem lowerRuns_above : ∀ r ∈ lowerRuns, 0x20 < r.first + r.up - r.down := by
  decide +kernel

theorem lowerCode_ne_space {n : Nat} (hn : n ≠ 0x20) : ∀ runs : List LowerRun,
    (∀ r ∈ runs, 0x20 < r.first + r.up - r.down) → lowerCode n runs ≠ 0x20
  | [], _ => hn
  | r :: rest, hruns => by
      have hr := hruns r List.mem_cons_self
      have ih := lowerCode_ne_space hn rest fun q hq => hruns q (List.mem_cons_of_mem r hq)
      rw [lowerCode]
      split
      · exact hn
      · split
        · omega
        · exact ih

theorem ofNat_ne_space {n : Nat} (hn : n ≠ 0x20) : Char.ofNat n ≠ ' ' := by
  intro h
  have hval : (Char.ofNat n).toNat = 0x20 := by rw [h]; rfl
  by_cases hv : n.isValidChar
  · rw [Char.ofNat, dif_pos hv] at hval
    exact hn hval
  · rw [Char.ofNat, dif_neg hv] at hval
    exact absurd hval (by decide)

theorem eq_space_of_mem_lowerChar {c : Char} (h : ' ' ∈ lowerChar c) : c = ' ' := by
  refine Decidable.byContradiction fun hc => ?_
  have hn : c.toNat ≠ 0x20 := fun e => hc (Char.toNat_inj.mp e)
  rw [lowerChar] at h
  split at h
  · exact absurd h (by decide)
  · exact ofNat_ne_space (lowerCode_ne_space hn lowerRuns lowerRuns_above)
      (List.mem_singleton.mp h).symm

theorem space_mem_of_mem_lowerFrom : ∀ cs before : List Char,
    ' ' ∈ lowerFrom before cs → ' ' ∈ cs
  | [], _, h => h
  | c :: rest, before, h => by
      rw [lowerFrom, List.mem_append] at h
      rcases h with h | h
      · split at h
        · split at h <;> exact absurd h (by decide)
        · rw [eq_space_of_mem_lowerChar h]
          exact List.mem_cons_self
      · exact List.mem_cons_of_mem c (space_mem_of_mem_lowerFrom rest (c :: before) h)

/-- **Lower case makes no space.** -/
theorem space_mem_of_mem_lower {cs : List Char} (h : ' ' ∈ lower cs) : ' ' ∈ cs :=
  space_mem_of_mem_lowerFrom cs [] h

theorem lowerChar_ne_nil (c : Char) : lowerChar c ≠ [] := by
  rw [lowerChar]
  split <;> exact List.cons_ne_nil _ _

theorem lower_ne_nil {cs : List Char} (h : cs ≠ []) : lower cs ≠ [] := by
  cases cs with
  | nil => exact absurd rfl h
  | cons c rest =>
    rw [lower, lowerFrom]
    intro hnil
    have hhead := (List.append_eq_nil_iff.mp hnil).1
    split at hhead
    · split at hhead <;> exact absurd hhead (List.cons_ne_nil _ _)
    · exact lowerChar_ne_nil c hhead

end Gazetteer.Text
