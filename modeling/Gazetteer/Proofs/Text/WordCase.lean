import Gazetteer.Proofs.Text.LowerCase
import Gazetteer.Proofs.Text.Symbols
import Gazetteer.Text.Word

/-!
# Proofs/Text/WordCase — lower case keeps word characters apart from the others

A character and its lower case are both word characters, or neither is (`lowerChar_of_ne`). The
capital I with a dot is the one exception: of its two characters the dot is no word character.

This is read off the two tables by stretches: the capitals of a run and their lower case each lie in
one interval of word characters, or each lie between such intervals (`isAlike`). The table is
sorted, so a stretch inside an interval is found there (`inIntervals_of_isWithin`).
-/

namespace Gazetteer.Text

/-! ## Stretches of code points in a table -/

/-- Whether a stretch of code points lies in one interval of a table. -/
def isWithin (lo hi : Nat) (table : List (Nat × Nat)) : Bool :=
  table.any fun p => Nat.ble p.1 lo && Nat.ble hi p.2

/-- Whether a stretch of code points meets no interval of a table. -/
def isApart (lo hi : Nat) (table : List (Nat × Nat)) : Bool :=
  table.all fun p => Nat.blt hi p.1 || Nat.blt p.2 lo

/-- Whether the intervals of a table begin one after the other. -/
def isAscending : List (Nat × Nat) → Bool
  | p :: q :: rest => Nat.ble p.1 q.1 && isAscending (q :: rest)
  | _ => true

theorem le_of_isAscending : ∀ {p : Nat × Nat} {rest : List (Nat × Nat)},
    isAscending (p :: rest) = true → ∀ q ∈ rest, p.1 ≤ q.1
  | _, [], _, _, hq => absurd hq List.not_mem_nil
  | p, r :: rest, h, q, hq => by
      obtain ⟨hpr, hrest⟩ := Bool.and_eq_true_iff.mp h
      have hle : p.1 ≤ r.1 := Nat.le_of_ble_eq_true hpr
      rcases List.mem_cons.mp hq with rfl | hq
      · exact hle
      · exact Nat.le_trans hle (le_of_isAscending hrest q hq)

theorem isAscending_tail {p : Nat × Nat} {rest : List (Nat × Nat)}
    (h : isAscending (p :: rest) = true) : isAscending rest = true := by
  cases rest with
  | nil => rfl
  | cons q rest => exact (Bool.and_eq_true_iff.mp h).2

/-- **A point of any interval is found**, if the table ascends. -/
theorem inIntervals_of_mem {n : Nat} : ∀ {table : List (Nat × Nat)}, isAscending table = true →
    ∀ p ∈ table, p.1 ≤ n → n ≤ p.2 → inIntervals n table = true
  | [], _, _, hp, _, _ => absurd hp List.not_mem_nil
  | (lo, hi) :: rest, h, p, hp, hlo, hhi => by
      rcases List.mem_cons.mp hp with rfl | hp
      · exact inIntervals_head ⟨hlo, hhi⟩ rest
      · have hle : lo ≤ p.1 := le_of_isAscending h p hp
        have ih := inIntervals_of_mem (isAscending_tail h) p hp hlo hhi
        rw [inIntervals, if_neg (by omega), ih, Bool.or_true]

theorem inIntervals_of_isWithin {lo hi n : Nat} {table : List (Nat × Nat)}
    (htable : isAscending table = true) (h : isWithin lo hi table = true) (hlo : lo ≤ n)
    (hhi : n ≤ hi) : inIntervals n table = true := by
  obtain ⟨p, hp, hspan⟩ := List.any_eq_true.mp h
  simp only [Bool.and_eq_true, Nat.ble_eq] at hspan
  exact inIntervals_of_mem htable p hp (Nat.le_trans hspan.1 hlo) (Nat.le_trans hhi hspan.2)

theorem inIntervals_of_isApart {lo hi n : Nat} {table : List (Nat × Nat)}
    (h : isApart lo hi table = true) (hlo : lo ≤ n) (hhi : n ≤ hi) :
    inIntervals n table = false := by
  refine Bool.eq_false_iff.mpr fun hfound => ?_
  obtain ⟨p, hp, hfirst, hlast⟩ := exists_of_inIntervals hfound
  have hapart := List.all_eq_true.mp h p hp
  simp only [Bool.or_eq_true, Nat.blt_eq] at hapart
  omega

/-! ## Runs of capitals -/

/-- Whether two stretches of code points both lie in intervals of word characters, or both between
them. -/
def isAlike (lo hi lo' hi' : Nat) : Bool :=
  isWithin lo hi wordIntervals && isWithin lo' hi' wordIntervals
    || isApart lo hi wordIntervals && isApart lo' hi' wordIntervals

theorem inIntervals_of_isAlike (htable : isAscending wordIntervals = true)
    {lo hi lo' hi' n n' : Nat} (h : isAlike lo hi lo' hi' = true) (hn : lo ≤ n ∧ n ≤ hi)
    (hn' : lo' ≤ n' ∧ n' ≤ hi') : inIntervals n' wordIntervals = inIntervals n wordIntervals := by
  rcases Bool.or_eq_true_iff.mp h with h | h <;> obtain ⟨h, h'⟩ := Bool.and_eq_true_iff.mp h
  · rw [inIntervals_of_isWithin htable h hn.1 hn.2, inIntervals_of_isWithin htable h' hn'.1 hn'.2]
  · rw [inIntervals_of_isApart h hn.1 hn.2, inIntervals_of_isApart h' hn'.1 hn'.2]

namespace LowerRun

/-- The capitals of a run. -/
def members (r : LowerRun) : List Nat :=
  List.range' r.first ((r.last - r.first) / r.step + 1) r.step

/-- Whether the capitals of a run and their lower case are word characters together. What a run
leaves out may be of the other sort, and then its members are gone through one by one. -/
def keepsWord (r : LowerRun) : Bool :=
  isAlike r.first r.last (r.first + r.up - r.down) (r.last + r.up - r.down)
    || r.members.all fun n => isAlike n n (n + r.up - r.down) (n + r.up - r.down)

/-- Whether the lower case of a run consists of characters. -/
def isValid (r : LowerRun) : Bool :=
  Nat.blt (r.last + r.up - r.down) 0xd800
    || Nat.ble 0xe000 (r.first + r.up - r.down) && Nat.blt (r.last + r.up - r.down) 0x110000

theorem mem_members {r : LowerRun} {n : Nat} (hlo : r.first ≤ n) (hhi : n ≤ r.last)
    (hstep : (n - r.first) % r.step = 0) : n ∈ r.members := by
  have hdvd : (n - r.first) / r.step * r.step = n - r.first :=
    Nat.div_mul_cancel (Nat.dvd_of_mod_eq_zero hstep)
  refine List.mem_range'.mpr ⟨(n - r.first) / r.step, ?_, ?_⟩
  · exact Nat.lt_succ_of_le (Nat.div_le_div_right (by omega))
  · rw [Nat.mul_comm, hdvd]
    omega

end LowerRun

/-- The two tables fit together. -/
theorem lowerRuns_fit : (isAscending wordIntervals
    && lowerRuns.all fun r => r.keepsWord && r.isValid) = true := by
  decide +kernel

theorem lowerRun_cases {r : LowerRun} (hr : r ∈ lowerRuns) {n : Nat} (hlo : r.first ≤ n)
    (hhi : n ≤ r.last) (hstep : (n - r.first) % r.step = 0) :
    inIntervals (n + r.up - r.down) wordIntervals = inIntervals n wordIntervals ∧
      (n + r.up - r.down < 0xd800 ∨ 0xe000 ≤ n + r.up - r.down ∧ n + r.up - r.down < 0x110000) := by
  obtain ⟨htable, hruns⟩ := Bool.and_eq_true_iff.mp lowerRuns_fit
  obtain ⟨hword, hvalid⟩ := Bool.and_eq_true_iff.mp (List.all_eq_true.mp hruns r hr)
  constructor
  · rcases Bool.or_eq_true_iff.mp hword with h | h
    · exact inIntervals_of_isAlike htable h ⟨hlo, hhi⟩ (by omega)
    · have hn := List.all_eq_true.mp h n (LowerRun.mem_members hlo hhi hstep)
      exact inIntervals_of_isAlike htable hn ⟨Nat.le_refl n, Nat.le_refl n⟩ (by omega)
  · simp only [LowerRun.isValid, Bool.or_eq_true, Bool.and_eq_true, Nat.blt_eq,
      Nat.ble_eq] at hvalid
    omega

/-- **The lower case of a code point** is itself, or what its run makes of it. -/
theorem lowerCode_cases (n : Nat) : ∀ runs : List LowerRun, lowerCode n runs = n ∨
    ∃ r ∈ runs, r.first ≤ n ∧ n ≤ r.last ∧ (n - r.first) % r.step = 0 ∧
      lowerCode n runs = n + r.up - r.down
  | [] => .inl rfl
  | r :: rest => by
      rw [lowerCode]
      split
      · exact .inl rfl
      · split
        · rename_i hlo hin
          simp only [Bool.and_eq_true, decide_eq_true_eq, beq_iff_eq] at hin
          exact .inr ⟨r, List.mem_cons_self, by omega, hin.1, hin.2, rfl⟩
        · rcases lowerCode_cases n rest with h | ⟨q, hq, h⟩
          · exact .inl h
          · exact .inr ⟨q, List.mem_cons_of_mem r hq, h⟩

/-! ## Characters -/

theorem lowerChar_dotted : lowerChar 'İ' = ['i', '\u0307'] := by decide

/-- **A character and its lower case** are both word characters, or neither is. -/
theorem lowerChar_of_ne {c : Char} (h : c ≠ 'İ') :
    ∃ d, lowerChar c = [d] ∧ isWord d = isWord c := by
  have hcode : c.toNat ≠ 0x130 := fun hc => h (Char.toNat_inj.mp hc)
  refine ⟨Char.ofNat (lowerCode c.toNat lowerRuns), by rw [lowerChar, if_neg hcode], ?_⟩
  rcases lowerCode_cases c.toNat lowerRuns with heq | ⟨r, hr, hlo, hhi, hstep, heq⟩
  · rw [heq, Char.ofNat_toNat]
  · obtain ⟨hword, hvalid⟩ := lowerRun_cases hr hlo hhi hstep
    rw [heq, isWord, isWord, toNat_ofNat_of_valid hvalid, hword]

theorem isWord_dotted : isWord 'İ' = true ∧ isWord 'i' = true ∧ isWord '\u0307' = false := by
  decide +kernel

theorem isWord_sigma : isWord 'Σ' = true ∧ isWord 'σ' = true ∧ isWord 'ς' = true := by
  decide +kernel

end Gazetteer.Text
