import Gazetteer.Proofs.Lexeme.Span
import Mathlib.Data.List.Pairwise

/-!
# Proofs/Lexeme/Runs — the lexemes of a text are its maximal runs of word characters

Nothing here looks at how a text is scanned, up to the last section. `IsRun` says that a lexeme is a
stretch of word characters that goes on neither before nor after it. `AreRuns` says of lexemes that
each is a stretch of word characters, that every word character of the text is in exactly one of
them, and that something stands between every two; such lexemes are the runs of the text
(`AreRuns.mem_iff`) from left to right, so there is one list of them only (`AreRuns.unique`).

Scanning finds it: `areRuns_scan`, by induction along the scan.
-/

namespace Gazetteer.Lexeme

/-! ## Runs -/

/-- Whether the character at an offset is a word character. -/
def isWordAt (cs : List Char) (i : Nat) : Bool := cs[i]?.any Text.isWord

/-- Whether an offset lies in a lexeme. -/
def covers (i : Nat) (l : Lexeme) : Bool := l.start ≤ i && i < l.stop

theorem covers_iff {i : Nat} {l : Lexeme} : covers i l = true ↔ l.start ≤ i ∧ i < l.stop := by
  simp [covers]

/-- Whether a lexeme is what a text has between two of its offsets, all of it word characters. -/
structure StandsIn (cs : List Char) (l : Lexeme) : Prop where
  start_lt_stop : l.start < l.stop
  stop_le : l.stop ≤ cs.length
  text_eq : l.text = cs.extract l.start l.stop
  all : ∀ c ∈ l.text, Text.isWord c = true

/-- Whether a lexeme is a run of word characters that cannot be made longer. -/
structure IsRun (cs : List Char) (l : Lexeme) : Prop extends StandsIn cs l where
  before : ∀ i, i + 1 = l.start → isWordAt cs i = false
  after : isWordAt cs l.stop = false

variable {cs : List Char} {l m : Lexeme} {ls ms : List Lexeme} {i : Nat}

theorem StandsIn.isWordAt_of_covers (h : StandsIn cs l) (hi : covers i l = true) :
    isWordAt cs i = true := by
  obtain ⟨hstart, hstop⟩ := covers_iff.mp hi
  have hlength : i < cs.length := Nat.lt_of_lt_of_le hstop h.stop_le
  have hmem : cs[i] ∈ l.text := by
    refine List.mem_of_getElem? (i := i - l.start) ?_
    rw [h.text_eq, List.extract_eq_take_drop, List.getElem?_take_of_lt (by omega),
      List.getElem?_drop, Nat.add_sub_cancel' hstart, List.getElem?_eq_getElem hlength]
  simp [isWordAt, hlength, h.all _ hmem]

theorem IsRun.start_le (hl : IsRun cs l) (hm : IsRun cs m) (hil : covers i l = true)
    (him : covers i m = true) : l.start ≤ m.start := by
  rw [covers_iff] at hil him
  by_contra hlt
  have hword := hm.isWordAt_of_covers (i := l.start - 1) (covers_iff.mpr (by omega))
  rw [hl.before (l.start - 1) (by omega)] at hword
  exact Bool.false_ne_true hword

theorem IsRun.stop_le_stop (hl : IsRun cs l) (hm : IsRun cs m) (hil : covers i l = true)
    (him : covers i m = true) : m.stop ≤ l.stop := by
  rw [covers_iff] at hil him
  by_contra hlt
  have hword := hm.isWordAt_of_covers (i := l.stop) (covers_iff.mpr (by omega))
  rw [hl.after] at hword
  exact Bool.false_ne_true hword

/-- **Runs that share a character are the same.** -/
theorem IsRun.eq_of_covers (hl : IsRun cs l) (hm : IsRun cs m) (hil : covers i l = true)
    (him : covers i m = true) : l = m := by
  have hstart : l.start = m.start :=
    Nat.le_antisymm (hl.start_le hm hil him) (hm.start_le hl him hil)
  have hstop : l.stop = m.stop :=
    Nat.le_antisymm (hm.stop_le_stop hl him hil) (hl.stop_le_stop hm hil him)
  have htext : l.text = m.text := by rw [hl.text_eq, hm.text_eq, hstart, hstop]
  cases l
  cases m
  exact Lexeme.mk.injEq .. ▸ ⟨htext, hstart, hstop⟩

/-! ## All runs of a text -/

/-- Whether lexemes are stretches of word characters of a text from left to right, with something
between every two, so that every word character of the text is in exactly one. -/
structure AreRuns (cs : List Char) (ls : List Lexeme) : Prop where
  stands : ∀ l ∈ ls, StandsIn cs l
  covered : ∀ i, isWordAt cs i = true → ls.countP (covers i) = 1
  apart : ls.IsChain fun l m => l.stop < m.start

namespace AreRuns

theorem pairwise_of_isChain (hlt : ∀ l ∈ ls, l.start < l.stop)
    (h : ls.IsChain fun l m => l.stop < m.start) : ls.Pairwise fun l m => l.stop < m.start := by
  induction h with
  | nil => exact .nil
  | singleton l => exact List.pairwise_singleton _ l
  | @cons_cons l m ls hlm _ ih =>
    have hpairwise := ih fun k hk => hlt k (List.mem_cons_of_mem l hk)
    refine List.pairwise_cons.mpr ⟨fun k hk => ?_, hpairwise⟩
    rcases List.mem_cons.mp hk with rfl | hk
    · exact hlm
    · have hmk := (List.pairwise_cons.mp hpairwise).1 k hk
      have hm := hlt m (by simp)
      omega

theorem pairwise (h : AreRuns cs ls) : ls.Pairwise fun l m => l.stop < m.start :=
  pairwise_of_isChain (fun l hl => (h.stands l hl).start_lt_stop) h.apart

theorem apart_of_ne (h : AreRuns cs ls) (hl : l ∈ ls) (hm : m ∈ ls) (hne : l ≠ m) :
    l.stop < m.start ∨ m.stop < l.start := by
  let either (l m : Lexeme) : Prop := l.stop < m.start ∨ m.stop < l.start
  have : Std.Symm either := ⟨fun _ _ => Or.symm⟩
  exact (h.pairwise.imp (S := either) Or.inl).forall hl hm hne

theorem exists_covers (h : AreRuns cs ls) (hi : isWordAt cs i = true) :
    ∃ l ∈ ls, covers i l = true :=
  List.countP_pos_iff.mp (by rw [h.covered i hi]; exact Nat.one_pos)

/-- **A word character outside of a lexeme is not next to it**: it is in another one, which stands
apart. -/
theorem far_of_not_covers (h : AreRuns cs ls) (hl : l ∈ ls) (hword : isWordAt cs i = true)
    (hi : ¬ covers i l = true) : i + 1 < l.start ∨ l.stop < i := by
  obtain ⟨m, hm, him⟩ := h.exists_covers hword
  have hne : l ≠ m := by
    rintro rfl
    exact hi him
  rw [covers_iff] at him
  rcases h.apart_of_ne hl hm hne with hapart | hapart
  · exact .inr (by omega)
  · exact .inl (by omega)

theorem isRun (h : AreRuns cs ls) (hl : l ∈ ls) : IsRun cs l where
  toStandsIn := h.stands l hl
  before i hi := Bool.eq_false_iff.mpr fun hword => by
    have hlt := (h.stands l hl).start_lt_stop
    have hfar := h.far_of_not_covers hl hword fun hi => by rw [covers_iff] at hi; omega
    omega
  after := Bool.eq_false_iff.mpr fun hword => by
    have hlt := (h.stands l hl).start_lt_stop
    have hfar := h.far_of_not_covers hl hword fun hi => by rw [covers_iff] at hi; omega
    omega

/-- **They are the runs of the text**, all of them. -/
theorem mem_iff (h : AreRuns cs ls) : l ∈ ls ↔ IsRun cs l := by
  refine ⟨h.isRun, fun hl => ?_⟩
  have hstart : covers l.start l = true := covers_iff.mpr ⟨Nat.le_refl _, hl.start_lt_stop⟩
  obtain ⟨m, hm, hcovers⟩ := h.exists_covers (hl.isWordAt_of_covers hstart)
  rwa [hl.eq_of_covers (h.isRun hm) hstart hcovers]

theorem pairwise_start (h : AreRuns cs ls) : ls.Pairwise fun l m => l.start < m.start :=
  h.pairwise.imp_of_mem fun hl _ hlm => Nat.lt_trans (h.stands _ hl).start_lt_stop hlm

theorem nodup (h : AreRuns cs ls) : ls.Nodup := by
  refine h.pairwise_start.imp fun {l m} hlt => ?_
  rintro rfl
  exact Nat.lt_irrefl _ hlt

/-- **There is only one such list**: both have the same members, from left to right. -/
theorem unique (h : AreRuns cs ls) (h' : AreRuns cs ms) : ls = ms :=
  List.Perm.eq_of_pairwise (fun _ _ _ _ hlt hgt => absurd hgt (Nat.lt_asymm hlt))
    h.pairwise_start h'.pairwise_start
    ((List.perm_ext_iff_of_nodup h.nodup h'.nodup).mpr fun _ => h.mem_iff.trans h'.mem_iff.symm)

end AreRuns

/-! ## Scanning finds the runs -/

theorem start_le_of_mem_scanFrom {p : Nat} (hl : l ∈ scanFrom p cs) : p ≤ l.start := by
  obtain ⟨us, vs, heq⟩ := List.append_of_mem hl
  exact (scanFrom_of_suffix p cs ⟨us, heq.symm⟩).1

/-- The lexemes stand in the text; the induction is on what is left of it behind `before`. -/
theorem standsIn_of_mem_scanFrom (p : Nat) (cs : List Char) :
    ∀ before : List Char, before.length = p → ∀ l ∈ scanFrom p cs, StandsIn (before ++ cs) l := by
  induction p, cs using scan_induction with
  | nil p => intro before _ l hl; simp at hl
  | gap p c cs hc ih =>
    intro before hbefore l hl
    rw [scanFrom_cons_of_not hc] at hl
    have hstands := ih (before ++ [c]) (by simp [hbefore]) l hl
    rwa [List.append_assoc] at hstands
  | word p w cs hw hcs ih =>
    intro before hbefore l hl
    rw [scanFrom_append hw hcs] at hl
    rcases List.mem_cons.mp hl with rfl | hl
    · have hpos := List.length_pos_iff.mpr hw.ne_nil
      refine ⟨by simpa using hpos, by simp [hbefore], ?_, hw.all⟩
      rw [List.extract_eq_take_drop, ← hbefore, List.drop_left, Nat.add_sub_cancel_left,
        List.take_left]
    · have hstands := ih (before ++ w) (by simp [hbefore]) l hl
      rwa [List.append_assoc] at hstands

theorem isWordAt_cons_succ (c : Char) (cs : List Char) (i : Nat) :
    isWordAt (c :: cs) (i + 1) = isWordAt cs i := rfl

theorem isWordAt_append_add (ds cs : List Char) (i : Nat) :
    isWordAt (ds ++ cs) (ds.length + i) = isWordAt cs i := by
  rw [isWordAt, List.getElem?_append_right (Nat.le_add_right _ _), Nat.add_sub_cancel_left,
    isWordAt]

/-- **Every word character is in exactly one lexeme.** -/
theorem countP_covers_scanFrom (p : Nat) (cs : List Char) : ∀ i, isWordAt cs i = true →
    (scanFrom p cs).countP (covers (p + i)) = 1 := by
  induction p, cs using scan_induction with
  | nil p => intro i hi; simp [isWordAt] at hi
  | gap p c cs hc ih =>
    intro i hi
    rw [scanFrom_cons_of_not hc]
    cases i with
    | zero => simp [isWordAt, hc] at hi
    | succ i =>
      rw [← Nat.add_assoc, Nat.add_right_comm]
      exact ih i (isWordAt_cons_succ c cs i ▸ hi)
  | word p w cs hw hcs ih =>
    intro i hi
    rw [scanFrom_append hw hcs, List.countP_cons]
    rcases Nat.lt_or_ge i w.length with hlt | hge
    · -- the word itself, and no lexeme behind it
      have hrest : (scanFrom (p + w.length) cs).countP (covers (p + i)) = 0 := by
        refine List.countP_eq_zero.mpr fun l hl hcovers => ?_
        have hstart := start_le_of_mem_scanFrom hl
        rw [covers_iff] at hcovers
        omega
      rw [hrest, if_pos (covers_iff.mpr (by simp only; omega))]
    · obtain ⟨j, rfl⟩ := Nat.exists_eq_add_of_le hge
      rw [isWordAt_append_add] at hi
      rw [← Nat.add_assoc, ih j hi, if_neg fun h => by simp only [covers_iff] at h; omega]

theorem isChain_scanFrom (p : Nat) (cs : List Char) :
    (scanFrom p cs).IsChain fun l m => l.stop < m.start := by
  induction p, cs using scan_induction with
  | nil p => rw [scanFrom_nil]; exact .nil
  | gap p c cs hc ih => rwa [scanFrom_cons_of_not hc]
  | word p w cs hw hcs ih =>
    rw [scanFrom_append hw hcs]
    cases hrest : scanFrom (p + w.length) cs with
    | nil => exact .singleton _
    | cons m ms =>
      rw [hrest] at ih
      refine .cons_cons ?_ ih
      -- the character behind the word is in no lexeme
      cases cs with
      | nil => simp at hrest
      | cons c cs =>
        rw [scanFrom_cons_of_not (hcs c rfl)] at hrest
        exact start_le_of_mem_scanFrom (hrest ▸ List.mem_cons_self)

/-- **The lexemes of a text are its runs.** -/
theorem areRuns_scan (cs : List Char) : AreRuns cs (scan cs) where
  stands := standsIn_of_mem_scanFrom 0 cs [] rfl
  covered i hi := by
    have hcount := countP_covers_scanFrom 0 cs i hi
    rwa [Nat.zero_add] at hcount
  apart := isChain_scanFrom 0 cs

/-- **The lexemes of a text** are exactly its maximal runs of word characters, and the only list of
stretches of word characters, with something between every two, in which every word character of
the text is exactly once. -/
theorem scan_exact (text : String) :
    (∀ l, l ∈ scan text.toList ↔ IsRun text.toList l) ∧
    ∀ ls, AreRuns text.toList ls ↔ ls = scan text.toList := by
  have hruns := areRuns_scan text.toList
  refine ⟨fun l => hruns.mem_iff, fun ls => ⟨fun h => h.unique hruns, ?_⟩⟩
  rintro rfl
  exact hruns

/-- The accent of this text is a mark of its own, which is no word character. -/
example : scan "re\u0301sum".toList = [⟨"re".toList, 0, 2⟩, ⟨"sum".toList, 3, 6⟩] := by
  decide +kernel

end Gazetteer.Lexeme
