import Gazetteer.Text.Template
import Mathlib.Data.List.Basic

/-!
# Proofs/Text/Directive — how the directives of a template are written

A directive is read character by character, and what a character means depends on the phase of the
reading. Here the same directives are described by how they are written: a `Spelling` has flags, a
width, a precision and a size letter. `Read` tells in which phase the reading of a spelling is: each
further character keeps it (`Read.next`), and every spelling is read to its end (`exists_walk`).
-/

namespace Gazetteer.Text.Template

/-! ## Numerals -/

/-- The number that decimal digits stand for, behind those of another one. -/
def valueFrom (m : Nat) (digits : List Char) : Nat :=
  digits.foldl (fun m c => m * 10 + (digit? c).getD 0) m

/-- Decimal digits, if any, of a number within a limit. -/
structure Numeral (limit : Nat) where
  digits : List Char
  isSome : ∀ c ∈ digits, (digit? c).isSome
  le : valueFrom 0 digits ≤ limit

theorem digit?_le {c : Char} {n : Nat} (h : digit? c = some n) : n ≤ 9 := by
  rw [digit?] at h
  split at h
  · rename_i hc
    have hle : c.toNat ≤ '9'.toNat := by
      have := (Bool.and_eq_true_iff.mp hc).2
      exact Char.le_def.mp (of_decide_eq_true this)
    obtain rfl := Option.some.inj h
    simp at hle ⊢
    omega
  · exact absurd h (by simp)

theorem valueFrom_cons {c : Char} {n : Nat} (hn : digit? c = some n) (m : Nat)
    (digits : List Char) : valueFrom m (c :: digits) = valueFrom (m * 10 + n) digits := by
  rw [valueFrom, List.foldl_cons, hn]
  rfl

theorem valueFrom_append_singleton {c : Char} {n : Nat} (hn : digit? c = some n) (m : Nat)
    (digits : List Char) : valueFrom m (digits ++ [c]) = valueFrom m digits * 10 + n := by
  rw [valueFrom, List.foldl_append, List.foldl_cons, hn]
  rfl

theorem le_valueFrom (digits : List Char) (m : Nat) : m ≤ valueFrom m digits := by
  induction digits generalizing m with
  | nil => exact Nat.le_refl m
  | cons c cs ih =>
    have hle : m * 10 + (digit? c).getD 0 ≤ valueFrom m (c :: cs) := ih _
    omega

namespace Numeral

variable {limit : Nat}

/-- No digits. -/
def empty (limit : Nat) : Numeral limit := ⟨[], by simp, Nat.zero_le limit⟩

/-- The number that a numeral stands for. -/
def value (m : Numeral limit) : Nat := valueFrom 0 m.digits

/-- A numeral with one more digit. -/
def push (m : Numeral limit) {c : Char} {n : Nat} (hn : digit? c = some n)
    (hle : m.value * 10 + n ≤ limit) : Numeral limit where
  digits := m.digits ++ [c]
  isSome c' hc' := by
    rcases List.mem_append.mp hc' with hc' | hc'
    · exact m.isSome c' hc'
    · rw [List.mem_singleton.mp hc', hn]
      rfl
  le := (valueFrom_append_singleton hn 0 m.digits).symm ▸ hle

theorem value_push (m : Numeral limit) {c : Char} {n : Nat} (hn : digit? c = some n)
    (hle : m.value * 10 + n ≤ limit) : (m.push hn hle).value = m.value * 10 + n :=
  valueFrom_append_singleton hn 0 m.digits

theorem value_of_digits_eq_nil {m : Numeral limit} (h : m.digits = []) : m.value = 0 :=
  congrArg (valueFrom 0) h

end Numeral

/-! ## Spellings -/

/-- Whether a character is a flag. -/
def IsFlag (c : Char) : Prop := c = '-' ∨ c = '+' ∨ c = ' ' ∨ c = '#' ∨ c = '0'

/-- Whether a letter says a size. -/
def IsSize (c : Char) : Prop := c = 'h' ∨ c = 'l' ∨ c = 'L'

/-- How a directive is written between the percent sign and its conversion letter. -/
structure Spelling where
  flags : List Char := []
  width : Numeral widthLimit := .empty widthLimit
  /-- What is behind the point, if there is one. -/
  precision : Option (Numeral precisionLimit) := none
  size : Option Char := none
  isFlag : ∀ c ∈ flags, IsFlag c := by simp
  /-- A zero would be a flag. -/
  width_head : width.digits.head? ≠ some '0' := by simp [Numeral.empty]
  isSize : ∀ c ∈ size, IsSize c := by simp

namespace Spelling

/-- The text of a spelling. -/
def text (s : Spelling) : List Char :=
  s.flags ++ s.width.digits ++ s.precision.elim [] ('.' :: ·.digits) ++ s.size.toList

/-- What a spelling says. -/
def directive (s : Spelling) : Directive :=
  ⟨s.flags.contains '-', s.width.value, s.precision.map Numeral.value⟩

end Spelling

/-- Whether a phase has been reached by reading a spelling. -/
def Read (s : Spelling) : Phase → Prop
  | .text => False
  | .opened => s.text = []
  | .flags d => d = s.directive ∧ s.width.digits = [] ∧ s.precision = none ∧ s.size = none
  | .width d => d = s.directive ∧ s.width.digits ≠ [] ∧ s.precision = none ∧ s.size = none
  | .point d => d = s.directive ∧ (∃ m ∈ s.precision, m.digits = []) ∧ s.size = none
  | .precision d => d = s.directive ∧ (∃ m ∈ s.precision, m.digits ≠ []) ∧ s.size = none
  | .modified d => d = s.directive ∧ s.size.isSome

/-- What a phase knows of its directive. -/
def Phase.directive : Phase → Directive
  | .text | .opened => {}
  | .flags d | .width d | .point d | .precision d | .modified d => d

theorem read_flags_of_text_eq_nil {s : Spelling} (h : s.text = []) : Read s (.flags {}) := by
  simp only [Spelling.text, List.append_eq_nil_iff] at h
  obtain ⟨⟨⟨hflags, hwidth⟩, hprecision⟩, hsize⟩ := h
  have hnone : s.precision = none := by
    cases hp : s.precision with
    | none => rfl
    | some m => exact absurd (hp ▸ hprecision) (by simp)
  refine ⟨?_, hwidth, hnone, by simpa using hsize⟩
  rw [Spelling.directive, hflags, Numeral.value_of_digits_eq_nil hwidth, hnone]
  rfl

theorem Read.directive_eq {s : Spelling} {phase : Phase} (h : Read s phase) :
    phase.directive = s.directive := by
  cases phase with
  | text => exact h.elim
  | opened => exact (read_flags_of_text_eq_nil h).1
  | _ => exact h.1

/-! ## One character more -/

section Extend

variable {s : Spelling} {c : Char} {n : Nat}

theorem exists_flag (hwidth : s.width.digits = []) (hprecision : s.precision = none)
    (hsize : s.size = none) (hc : IsFlag c) : ∃ s' : Spelling,
      Read s' (.flags { s.directive with leftAligned := s.directive.leftAligned || c == '-' }) ∧
      s'.text = s.text ++ [c] := by
  refine ⟨{ s with flags := s.flags ++ [c], isFlag := fun c' hc' => ?_ },
    ⟨?_, hwidth, hprecision, hsize⟩, by simp [Spelling.text, hwidth, hprecision, hsize]⟩
  · rcases List.mem_append.mp hc' with hc' | hc'
    · exact s.isFlag c' hc'
    · obtain rfl := List.mem_singleton.mp hc'
      exact hc
  · by_cases hdash : c = '-'
    · simp [Spelling.directive, hdash]
    · simp [Spelling.directive, hdash, Ne.symm hdash]

theorem exists_width (hprecision : s.precision = none) (hsize : s.size = none)
    (hn : digit? c = some n) (hhead : s.width.digits = [] → c ≠ '0')
    (hle : s.width.value * 10 + n ≤ widthLimit) : ∃ s' : Spelling,
      Read s' (.width { s.directive with width := s.width.value * 10 + n }) ∧
      s'.text = s.text ++ [c] := by
  have hzero : (s.width.push hn hle).digits.head? ≠ some '0' := by
    have hkept := s.width_head
    change (s.width.digits ++ [c]).head? ≠ some '0'
    cases hwidth : s.width.digits with
    | nil => simpa using hhead hwidth
    | cons c' rest =>
      rw [hwidth] at hkept
      exact hkept
  refine ⟨{ s with width := s.width.push hn hle, width_head := hzero },
    ⟨?_, List.append_ne_nil_of_right_ne_nil _ (List.cons_ne_nil _ _), hprecision, hsize⟩,
    by simp [Spelling.text, Numeral.push, hprecision, hsize]⟩
  rw [Spelling.directive, Spelling.directive, Numeral.value_push]

theorem exists_point (hprecision : s.precision = none) (hsize : s.size = none) :
    ∃ s' : Spelling, Read s' (.point { s.directive with precision := some 0 }) ∧
      s'.text = s.text ++ ['.'] :=
  ⟨{ s with precision := some (.empty precisionLimit) }, ⟨rfl, ⟨_, rfl, rfl⟩, hsize⟩,
    by simp [Spelling.text, Numeral.empty, hprecision, hsize]⟩

theorem exists_precision {m : Numeral precisionLimit} (hprecision : s.precision = some m)
    (hsize : s.size = none) (hn : digit? c = some n)
    (hle : m.value * 10 + n ≤ precisionLimit) : ∃ s' : Spelling,
      Read s' (.precision { s.directive with precision := some (m.value * 10 + n) }) ∧
      s'.text = s.text ++ [c] := by
  refine ⟨{ s with precision := some (m.push hn hle) },
    ⟨?_, ⟨_, rfl, List.append_ne_nil_of_right_ne_nil _ (List.cons_ne_nil _ _)⟩, hsize⟩,
    by simp [Spelling.text, Numeral.push, hprecision, hsize]⟩
  rw [Spelling.directive, Spelling.directive, Option.map_some, Numeral.value_push]

theorem exists_size (hsize : s.size = none) (hc : IsSize c) : ∃ s' : Spelling,
    Read s' (.modified s.directive) ∧ s'.text = s.text ++ [c] :=
  ⟨{ s with size := some c, isSize := by rintro _ ⟨⟩; exact hc }, ⟨rfl, rfl⟩,
    by simp [Spelling.text, hsize]⟩

end Extend

section Go

variable {d : Directive} {c : Char} {phase : Phase}

theorem afterPrecision_eq_go (h : afterPrecision d c = .go phase) :
    IsSize c ∧ phase = .modified d := by
  rw [afterPrecision] at h
  split at h
  · rename_i hc
    exact ⟨by simpa [IsSize, or_assoc] using hc, (Step.go.inj h).symm⟩
  · exact absurd h (by simp)

theorem afterWidth_eq_go (h : afterWidth d c = .go phase) :
    (c = '.' ∧ phase = .point { d with precision := some 0 }) ∨
      (IsSize c ∧ phase = .modified d) := by
  rw [afterWidth] at h
  split at h
  · exact .inl ⟨‹_›, (Step.go.inj h).symm⟩
  · exact .inr (afterPrecision_eq_go h)

theorem amongFlags_eq_go (h : amongFlags false d c = .go phase) :
    (IsFlag c ∧ phase = .flags { d with leftAligned := d.leftAligned || c == '-' }) ∨
    (∃ n, digit? c = some n ∧ c ≠ '0' ∧ phase = .width { d with width := n }) ∨
    afterWidth d c = .go phase := by
  rw [amongFlags] at h
  split at h
  · rename_i hc
    obtain rfl := Step.go.inj h
    exact .inl ⟨.inl hc, by simp [hc]⟩
  · rename_i hdash
    split at h
    · rename_i hc
      obtain rfl := Step.go.inj h
      have hleft : (d.leftAligned || c == '-') = d.leftAligned := by simp [hdash]
      exact .inl ⟨.inr (by simpa [or_assoc] using hc), by rw [hleft]⟩
    · rename_i hflag
      split at h
      · exact absurd h (by simp)
      · split at h
        · rename_i n hn
          refine .inr (.inl ⟨n, hn, fun hzero => hflag (by simp [hzero]), ?_⟩)
          exact (Step.go.inj h).symm
        · exact .inr (.inr h)

/-- How the limit on a number is kept while its digits are read. -/
theorem not_lt_iff_le {m n limit : Nat} (hn : n ≤ 9) (hlimit : 9 ≤ limit) :
    ¬ m > (limit - n) / 10 ↔ m * 10 + n ≤ limit := by
  omega

theorem next_width_eq_go (h : next false (.width d) c = .go phase) :
    (∃ n, digit? c = some n ∧ d.width * 10 + n ≤ widthLimit ∧
      phase = .width { d with width := d.width * 10 + n }) ∨ afterWidth d c = .go phase := by
  rw [next] at h
  split at h
  · rename_i n hn
    split at h
    · exact absurd h (by simp)
    · rename_i hfits
      exact .inl ⟨n, hn, (not_lt_iff_le (digit?_le hn) (by decide)).mp hfits,
        (Step.go.inj h).symm⟩
  · exact .inr h

theorem next_point_eq_go (h : next false (.point d) c = .go phase) :
    (∃ n, digit? c = some n ∧ phase = .precision { d with precision := some n }) ∨
      afterPrecision d c = .go phase := by
  rw [next] at h
  split at h
  · exact absurd h (by simp)
  · split at h
    · exact .inl ⟨_, ‹_›, (Step.go.inj h).symm⟩
    · exact .inr h

theorem next_precision_eq_go (h : next false (.precision d) c = .go phase) :
    (∃ n, digit? c = some n ∧ d.precision.getD 0 * 10 + n ≤ precisionLimit ∧
      phase = .precision { d with precision := some (d.precision.getD 0 * 10 + n) }) ∨
      afterPrecision d c = .go phase := by
  rw [next] at h
  split at h
  · rename_i n hn
    split at h
    · exact absurd h (by simp)
    · rename_i hfits
      exact .inl ⟨n, hn, (not_lt_iff_le (digit?_le hn) (by decide)).mp hfits,
        (Step.go.inj h).symm⟩
  · exact .inr h

/-- A directive that has begun goes on until its conversion. -/
theorem ne_of_next_eq_go {phase' : Phase} {used : Bool} (h : next used phase c = .go phase')
    (hphase : phase ≠ .text) : phase' ≠ .text ∧ phase' ≠ .opened := by
  cases phase with
  | text => exact absurd rfl hphase
  | _ =>
    simp only [next, amongFlags, afterWidth, afterPrecision] at h
    repeat' split at h
    all_goals first
      | cases h; exact ⟨Phase.noConfusion, Phase.noConfusion⟩
      | cases h

end Go

section Next

variable {s : Spelling} {phase : Phase} {c : Char}

theorem exists_afterWidth (hprecision : s.precision = none) (hsize : s.size = none)
    (h : afterWidth s.directive c = .go phase) :
    ∃ s' : Spelling, Read s' phase ∧ s'.text = s.text ++ [c] := by
  rcases afterWidth_eq_go h with ⟨rfl, rfl⟩ | ⟨hc, rfl⟩
  · exact exists_point hprecision hsize
  · exact exists_size hsize hc

theorem exists_afterPrecision (hsize : s.size = none)
    (h : afterPrecision s.directive c = .go phase) :
    ∃ s' : Spelling, Read s' phase ∧ s'.text = s.text ++ [c] := by
  obtain ⟨hc, rfl⟩ := afterPrecision_eq_go h
  exact exists_size hsize hc

theorem exists_amongFlags (hwidth : s.width.digits = []) (hprecision : s.precision = none)
    (hsize : s.size = none) (h : amongFlags false s.directive c = .go phase) :
    ∃ s' : Spelling, Read s' phase ∧ s'.text = s.text ++ [c] := by
  rcases amongFlags_eq_go h with ⟨hc, rfl⟩ | ⟨n, hn, hzero, rfl⟩ | hafter
  · exact exists_flag hwidth hprecision hsize hc
  · have hnone := Numeral.value_of_digits_eq_nil hwidth
    have hle : s.width.value * 10 + n ≤ widthLimit := by
      have := digit?_le hn
      rw [hnone, widthLimit]
      omega
    simpa [hnone] using exists_width hprecision hsize hn (fun _ => hzero) hle
  · exact exists_afterWidth hprecision hsize hafter

/-- **Step**: one more character of a directive belongs to its spelling. -/
theorem Read.next {phase' : Phase} (h : Read s phase)
    (hnext : Template.next false phase c = .go phase') :
    ∃ s' : Spelling, Read s' phase' ∧ s'.text = s.text ++ [c] := by
  cases phase with
  | text => exact h.elim
  | opened =>
    obtain ⟨hdirective, hwidth, hprecision, hsize⟩ := read_flags_of_text_eq_nil h
    rw [Template.next] at hnext
    split at hnext
    · exact absurd hnext (by simp)
    · exact exists_amongFlags hwidth hprecision hsize (hdirective ▸ hnext)
  | flags d =>
    obtain ⟨rfl, hwidth, hprecision, hsize⟩ := h
    exact exists_amongFlags hwidth hprecision hsize hnext
  | width d =>
    obtain ⟨rfl, hwidth, hprecision, hsize⟩ := h
    rcases next_width_eq_go hnext with ⟨n, hn, hle, rfl⟩ | hafter
    · exact exists_width hprecision hsize hn (fun hnil => absurd hnil hwidth) hle
    · exact exists_afterWidth hprecision hsize hafter
  | point d =>
    obtain ⟨rfl, ⟨m, hprecision, hm⟩, hsize⟩ := h
    rcases next_point_eq_go hnext with ⟨n, hn, rfl⟩ | hafter
    · have hnone := Numeral.value_of_digits_eq_nil hm
      have hle : m.value * 10 + n ≤ precisionLimit := by
        have := digit?_le hn
        rw [hnone, precisionLimit]
        omega
      simpa [hnone] using exists_precision hprecision hsize hn hle
    · exact exists_afterPrecision hsize hafter
  | precision d =>
    obtain ⟨rfl, ⟨m, hprecision, -⟩, hsize⟩ := h
    have hvalue : s.directive.precision.getD 0 = m.value := by
      rw [Spelling.directive, hprecision]
      rfl
    rcases next_precision_eq_go hnext with ⟨n, hn, hle, rfl⟩ | hafter
    · rw [hvalue] at hle ⊢
      exact exists_precision hprecision hsize hn hle
    · exact exists_afterPrecision hsize hafter
  | modified d => exact absurd hnext (by simp [Template.next])

end Next

/-! ## The end of a directive -/

section Convert

variable {d d' : Directive} {c : Char} {phase : Phase}

theorem afterPrecision_eq_convert (h : afterPrecision d' c = .convert d) : d = d' := by
  rw [afterPrecision] at h
  split at h
  · exact absurd h (by simp)
  · exact (Step.convert.inj h).symm

theorem afterWidth_eq_convert (h : afterWidth d' c = .convert d) : d = d' := by
  rw [afterWidth] at h
  split at h
  · exact absurd h (by simp)
  · exact afterPrecision_eq_convert h

theorem amongFlags_eq_convert (h : amongFlags false d' c = .convert d) : d = d' := by
  rw [amongFlags] at h
  repeat' split at h
  all_goals first | exact afterWidth_eq_convert h | exact absurd h (by simp)

/-- A conversion has the directive that its phase knows. -/
theorem directive_eq_of_convert (h : next false phase c = .convert d) : d = phase.directive := by
  cases phase with
  | text => exact absurd h (by simp [next])
  | opened =>
    rw [next] at h
    split at h
    · exact absurd h (by simp)
    · exact amongFlags_eq_convert h
  | flags d' => exact amongFlags_eq_convert h
  | width d' =>
    rw [next] at h
    repeat' split at h
    all_goals first | exact afterWidth_eq_convert h | exact absurd h (by simp)
  | point d' =>
    rw [next] at h
    repeat' split at h
    all_goals first | exact afterPrecision_eq_convert h | exact absurd h (by simp)
  | precision d' =>
    rw [next] at h
    repeat' split at h
    all_goals first | exact afterPrecision_eq_convert h | exact absurd h (by simp)
  | modified d' => exact (Step.convert.inj h).symm

end Convert

/-- The letters of the conversions that print a text. -/
def IsLetter (c : Char) : Prop := c = 's' ∨ c = 'r' ∨ c = 'a' ∨ c = 'c'

theorem next_of_isLetter {phase : Phase} (hphase : phase ≠ .text) {c : Char} (hc : IsLetter c) :
    next false phase c = .convert phase.directive := by
  cases phase with
  | text => exact absurd rfl hphase
  | _ =>
    rcases hc with rfl | rfl | rfl | rfl <;>
      simp [next, amongFlags, afterWidth, afterPrecision, digit?, Phase.directive]

/-! ## Reading a whole spelling -/

/-- The phase that some characters of a directive lead to. -/
def walk (phase : Phase) : List Char → Option Phase
  | [] => some phase
  | c :: cs =>
    match next false phase c with
    | .go phase => walk phase cs
    | _ => none

theorem walk_cons_of_go {phase phase' : Phase} {c : Char}
    (h : next false phase c = .go phase') (cs : List Char) :
    walk phase (c :: cs) = walk phase' cs := by
  rw [walk, h]

theorem walk_append (phase : Phase) (cs ds : List Char) :
    walk phase (cs ++ ds) = (walk phase cs).bind fun phase => walk phase ds := by
  induction cs generalizing phase with
  | nil => rfl
  | cons c cs ih =>
    rw [List.cons_append, walk, walk]
    cases next false phase c with
    | go phase' => exact ih phase'
    | _ => rfl

theorem next_flags_of_isFlag (d : Directive) {c : Char} (hc : IsFlag c) :
    next false (.flags d) c
      = .go (.flags { d with leftAligned := d.leftAligned || c == '-' }) := by
  rcases hc with rfl | rfl | rfl | rfl | rfl <;> simp [next, amongFlags]

theorem walk_flags : ∀ (cs : List Char) (d : Directive), (∀ c ∈ cs, IsFlag c) →
    walk (.flags d) cs
      = some (.flags { d with leftAligned := d.leftAligned || cs.contains '-' })
  | [], d, _ => by simp [walk]
  | c :: cs, d, hcs => by
      rw [walk_cons_of_go (next_flags_of_isFlag d (hcs c List.mem_cons_self)),
        walk_flags cs _ fun c' hc' => hcs c' (List.mem_cons_of_mem _ hc')]
      rw [List.contains_cons, Bool.or_assoc, BEq.comm]

section Digits

variable {d : Directive} {c : Char} {n : Nat}

theorem next_flags_of_digit (hn : digit? c = some n) (hzero : c ≠ '0') :
    next false (.flags d) c = .go (.width { d with width := n }) := by
  have hne : ∀ c', digit? c' = none → c ≠ c' := by
    rintro c' hc' rfl
    exact absurd (hn.symm.trans hc') (by simp)
  have hdash := hne '-' (by decide)
  have hplus := hne '+' (by decide)
  have hspace := hne ' ' (by decide)
  have hhash := hne '#' (by decide)
  have hstar := hne '*' (by decide)
  simp [next, amongFlags, hdash, hplus, hspace, hhash, hstar, hzero, hn]

theorem next_width_of_digit (hn : digit? c = some n) (hle : d.width * 10 + n ≤ widthLimit) :
    next false (.width d) c = .go (.width { d with width := d.width * 10 + n }) := by
  simp only [next, hn, if_neg ((not_lt_iff_le (digit?_le hn) (by decide)).mpr hle)]

theorem next_point_of_digit (hn : digit? c = some n) :
    next false (.point d) c = .go (.precision { d with precision := some n }) := by
  have hstar : c ≠ '*' := by
    rintro rfl
    exact absurd (hn.symm.trans (by decide : digit? '*' = none)) (by simp)
  simp [next, hstar, hn]

theorem next_precision_of_digit (hn : digit? c = some n)
    (hle : d.precision.getD 0 * 10 + n ≤ precisionLimit) : next false (.precision d) c
      = .go (.precision { d with precision := some (d.precision.getD 0 * 10 + n) }) := by
  simp only [next, hn, if_neg ((not_lt_iff_le (digit?_le hn) (by decide)).mpr hle)]

/-- **The digits of a number** are read one after the other, as long as it stays within its
limit. -/
theorem walk_digits {limit : Nat} (phaseAt : Nat → Phase)
    (hdigit : ∀ {c : Char} {n : Nat} (m : Nat), digit? c = some n → m * 10 + n ≤ limit →
      next false (phaseAt m) c = .go (phaseAt (m * 10 + n))) :
    ∀ (cs : List Char) (m : Nat), (∀ c ∈ cs, (digit? c).isSome) → valueFrom m cs ≤ limit →
      walk (phaseAt m) cs = some (phaseAt (valueFrom m cs))
  | [], _, _, _ => rfl
  | c :: cs, m, hcs, hle => by
      obtain ⟨n, hn⟩ := Option.isSome_iff_exists.mp (hcs c List.mem_cons_self)
      rw [valueFrom_cons hn] at hle ⊢
      rw [walk_cons_of_go (hdigit m hn (Nat.le_trans (le_valueFrom cs _) hle))]
      exact walk_digits phaseAt hdigit cs _ (fun c' hc' => hcs c' (List.mem_cons_of_mem _ hc')) hle

/-- The first digit of a numeral, and what the others make of it. -/
theorem Numeral.exists_of_cons {limit : Nat} {m : Numeral limit} {cs : List Char}
    (h : m.digits = c :: cs) : ∃ n, digit? c = some n ∧ valueFrom n cs = m.value ∧
      ∀ c' ∈ cs, (digit? c').isSome := by
  obtain ⟨n, hn⟩ := Option.isSome_iff_exists.mp (m.isSome c (h ▸ List.mem_cons_self))
  refine ⟨n, hn, ?_, fun c' hc' => m.isSome c' (h ▸ List.mem_cons_of_mem _ hc')⟩
  rw [value, h, valueFrom_cons hn, Nat.zero_mul, Nat.zero_add]

end Digits

theorem next_of_isSize {s : Spelling} {phase : Phase} (h : Read s phase) (hsize : s.size = none)
    {c : Char} (hc : IsSize c) : next false phase c = .go (.modified phase.directive) := by
  cases phase with
  | text => exact h.elim
  | modified d => exact absurd h.2 (by simp [hsize])
  | _ =>
    rcases hc with rfl | rfl | rfl <;>
      simp [next, amongFlags, afterWidth, afterPrecision, digit?, Phase.directive]

theorem exists_walk_width (s : Spelling) (hprecision : s.precision = none) (hsize : s.size = none) :
    ∃ phase, walk (.flags {}) (s.flags ++ s.width.digits) = some phase ∧ Read s phase ∧
      next false phase '.' = .go (.point { s.directive with precision := some 0 }) := by
  have hdirective : s.directive = ⟨s.flags.contains '-', s.width.value, none⟩ := by
    rw [Spelling.directive, hprecision]
    rfl
  have hflags : walk (.flags {}) s.flags = some (.flags ⟨s.flags.contains '-', 0, none⟩) := by
    simpa using walk_flags s.flags {} s.isFlag
  rw [walk_append, hflags, Option.bind_some, hdirective]
  cases hwidth : s.width.digits with
  | nil =>
    rw [Numeral.value_of_digits_eq_nil hwidth] at hdirective ⊢
    exact ⟨_, rfl, ⟨hdirective.symm, hwidth, hprecision, hsize⟩, rfl⟩
  | cons c cs =>
    obtain ⟨n, hn, hvalue, hcs⟩ := Numeral.exists_of_cons hwidth
    have hzero : c ≠ '0' := fun hzero => s.width_head (by rw [hwidth, hzero]; rfl)
    have hwalk := walk_digits (fun m => .width ⟨s.flags.contains '-', m, none⟩)
      (fun _ hn hle => next_width_of_digit hn hle) cs n hcs (hvalue.symm ▸ s.width.le)
    rw [walk_cons_of_go (next_flags_of_digit hn hzero), hwalk, hvalue]
    exact ⟨_, rfl, ⟨hdirective.symm, by simp [hwidth], hprecision, hsize⟩, rfl⟩

theorem exists_walk_precision (s : Spelling) (hsize : s.size = none) :
    ∃ phase, walk (.flags {}) s.text = some phase ∧ Read s phase := by
  have htext : s.text = s.flags ++ s.width.digits ++ s.precision.elim [] ('.' :: ·.digits) := by
    rw [Spelling.text, hsize]
    exact List.append_nil _
  obtain ⟨phase, hwalk, hread, hpoint⟩ :=
    exists_walk_width { s with precision := none, size := none, isSize := by simp } rfl rfl
  have hfront : walk (.flags {}) (s.flags ++ s.width.digits) = some phase := hwalk
  rw [htext, walk_append, hfront, Option.bind_some]
  cases hprecision : s.precision with
  | none =>
    refine ⟨phase, rfl, ?_⟩
    obtain ⟨_, _, _, _⟩ := s
    obtain rfl : _ = none := hprecision
    obtain rfl : _ = none := hsize
    exact hread
  | some m =>
    have hdirective : s.directive = ⟨s.flags.contains '-', s.width.value, some m.value⟩ := by
      rw [Spelling.directive, hprecision]
      rfl
    rw [Option.elim_some, walk_cons_of_go hpoint]
    cases hm : m.digits with
    | nil =>
      rw [Numeral.value_of_digits_eq_nil hm] at hdirective
      exact ⟨_, rfl, hdirective.symm, ⟨m, hprecision, hm⟩, hsize⟩
    | cons c cs =>
      obtain ⟨n, hn, hvalue, hcs⟩ := Numeral.exists_of_cons hm
      have hwalk := walk_digits
        (fun m => .precision ⟨s.flags.contains '-', s.width.value, some m⟩)
        (fun _ hn hle => next_precision_of_digit hn hle) cs n hcs (hvalue.symm ▸ m.le)
      have hdigit : next false (.point ⟨s.flags.contains '-', s.width.value, some 0⟩) c
          = .go (.precision ⟨s.flags.contains '-', s.width.value, some n⟩) :=
        next_point_of_digit hn
      refine ⟨_, (walk_cons_of_go hdigit cs).trans hwalk, ?_, ⟨m, hprecision, by simp [hm]⟩, hsize⟩
      rw [hdirective, hvalue]

theorem exists_walk_flags (s : Spelling) :
    ∃ phase, walk (.flags {}) s.text = some phase ∧ Read s phase := by
  cases hsize : s.size with
  | none => exact exists_walk_precision s hsize
  | some c =>
    obtain ⟨phase, hwalk, hread⟩ :=
      exists_walk_precision { s with size := none, isSize := by simp } rfl
    have htext : s.text = { s with size := none, isSize := by simp }.text ++ [c] := by
      simp [Spelling.text, hsize]
    refine ⟨.modified s.directive, ?_, rfl, by simp [hsize]⟩
    rw [htext, walk_append, hwalk, Option.bind_some,
      walk_cons_of_go (next_of_isSize hread rfl (s.isSize c hsize)), hread.directive_eq]
    rfl

/-- **Run**: a spelling is read to its end. -/
theorem exists_walk (s : Spelling) : ∃ phase, walk .opened s.text = some phase ∧ Read s phase := by
  obtain ⟨phase, hwalk, hread⟩ := exists_walk_flags s
  cases htext : s.text with
  | nil => exact ⟨.opened, rfl, htext⟩
  | cons c cs =>
    refine ⟨phase, ?_, hread⟩
    rw [← hwalk, htext]
    -- A parenthesis would open a key, but no spelling has one.
    have hparen : c ≠ '(' := by
      rintro rfl
      rw [htext, walk] at hwalk
      exact absurd hwalk (by simp [next, amongFlags, afterWidth, afterPrecision, digit?])
    rw [walk, walk]
    simp only [next, if_neg hparen]

end Gazetteer.Text.Template
