import Gazetteer.Proofs.Text.Directive

/-!
# Proofs/Text/Template — which templates take their argument

A template is described by how it is written: `Plain` text takes no argument, and `OneSlot` is plain
text with one directive in it. A template takes an argument just if it is the latter, and the
directive prints the argument (`fill_eq_ok_iff`). So a template that takes any text does it with
a directive that prints texts (`exists_fill_iff`), and one that cuts nothing off leaves the text
whole (`infix_of_carries`).
-/

namespace Gazetteer.Text.Template

/-! ## How templates are written -/

/-- Text that takes no argument, with what it is shown as: two percent signs stand for one. -/
inductive Plain : List Char → List Char → Prop where
  | nil : Plain [] []
  | char {c : Char} {t shown : List Char} : c ≠ '%' → Plain t shown → Plain (c :: t) (c :: shown)
  | percent {t shown : List Char} : Plain t shown → Plain ('%' :: '%' :: t) ('%' :: shown)

/-- A template that is plain text with one directive in it: what is shown before the directive, what
the directive says, its conversion letter, and what is shown after it. -/
inductive OneSlot : List Char → List Char → Directive → Char → List Char → Prop where
  | intro {t u before after : List Char} (s : Spelling) (conversion : Char) : Plain t before →
      Plain u after →
      OneSlot (t ++ '%' :: (s.text ++ conversion :: u)) before s.directive conversion after

/-! ## Filling a template -/

section Fill

variable {arg t u shown out : List Char} {index : Nat} {phase phase' : Phase} {used : Bool}
  {c c' : Char} {d : Directive}

theorem fillFrom_text_cons (hc : c ≠ '%') : fillFrom arg index .text used (c :: t)
    = (fillFrom arg (index + 1) .text used t).map (c :: ·) := by
  rw [fillFrom, if_neg hc]

theorem fillFrom_cons (hphase : phase ≠ .text) : fillFrom arg index phase used (c :: t) =
    match next used phase c with
    | .fail flaw => .error flaw
    | .go phase => fillFrom arg (index + 1) phase used t
    | .convert d =>
      if c = '%' && phase = .opened then (fillFrom arg (index + 1) .text used t).map ('%' :: ·)
      else if used then .error .notEnoughArguments
      else
        match convert d c index arg with
        | .error flaw => .error flaw
        | .ok text => (fillFrom arg (index + 1) .text true t).map (text ++ ·) := by
  cases phase with
  | text => exact absurd rfl hphase
  | _ => rfl

theorem fillFrom_nil_ne_ok (hphase : phase ≠ .text) :
    fillFrom arg index phase used [] ≠ .ok out := by
  cases phase with
  | text => exact absurd rfl hphase
  | _ => simp [fillFrom]

theorem fillFrom_percent : fillFrom arg index .text used ('%' :: '%' :: t)
    = (fillFrom arg (index + 2) .text used t).map ('%' :: ·) := by
  rw [fillFrom, if_pos rfl, fillFrom_cons (by simp)]
  simp [next, amongFlags, afterWidth, afterPrecision, digit?]

/-- **Plain text** is shown as it is. -/
theorem fillFrom_plain (h : Plain t shown) : fillFrom arg index .text used (t ++ u)
    = (fillFrom arg (index + t.length) .text used u).map (shown ++ ·) := by
  induction h generalizing index with
  | nil => cases hu : fillFrom arg index .text used u <;> simp [Except.map, hu]
  | @char c t shown hc _ ih =>
    rw [List.cons_append, fillFrom_text_cons hc, ih, List.length_cons,
      Nat.add_right_comm index 1, Nat.add_assoc]
    cases fillFrom arg (index + (t.length + 1)) .text used u <;> rfl
  | @percent t shown _ ih =>
    rw [List.cons_append, List.cons_append, fillFrom_percent, ih, List.length_cons,
      List.length_cons, Nat.add_right_comm index 2, Nat.add_assoc]
    cases fillFrom arg (index + (t.length + 2)) .text used u <;> rfl

theorem fillFrom_of_go (h : next used phase c = .go phase') (hphase : phase ≠ .text) :
    fillFrom arg index phase used (c :: t) = fillFrom arg (index + 1) phase' used t := by
  rw [fillFrom_cons hphase, h]

/-- **A directive that has been read** so far. -/
theorem fillFrom_walk : ∀ {cs : List Char} {phase : Phase} {index : Nat}, phase ≠ .text →
    walk phase cs = some phase' →
    fillFrom arg index phase false (cs ++ t) = fillFrom arg (index + cs.length) phase' false t
  | [], _, _, _, h => by
      obtain rfl := Option.some.inj h
      rfl
  | c :: cs, phase, index, hphase, h => by
      rw [walk] at h
      cases hnext : next false phase c with
      | go phase₁ =>
        rw [hnext] at h
        rw [List.cons_append, fillFrom_of_go hnext hphase,
          fillFrom_walk (ne_of_next_eq_go hnext hphase).1 h, List.length_cons, Nat.add_assoc,
          Nat.add_comm 1]
      | _ =>
        rw [hnext] at h
        exact absurd h (by simp)

/-- **No second directive** takes an argument. -/
theorem fillFrom_ne_ok_of_used : ∀ {t : List Char} {phase : Phase} {index : Nat} {out : List Char},
    phase ≠ .text → (phase = .opened → t.head? ≠ some '%') →
    fillFrom arg index phase true t ≠ .ok out
  | [], _, _, _, hphase, _ => fillFrom_nil_ne_ok hphase
  | c :: t, phase, index, out, hphase, hopened => by
      rw [fillFrom_cons hphase]
      cases hnext : next true phase c with
      | fail flaw => simp
      | go phase₁ =>
        obtain ⟨htext, hopened₁⟩ := ne_of_next_eq_go hnext hphase
        exact fillFrom_ne_ok_of_used htext fun h => absurd h hopened₁
      | convert d =>
        have hplain : ¬ (c = '%' ∧ phase = .opened) := fun ⟨hc, h⟩ => hopened h (by rw [hc]; rfl)
        simp [hplain]

/-- How a template begins: with text, with a percent sign that is shown, or with a directive. -/
theorem text_cases (t : List Char) : t = [] ∨ (∃ c u, t = c :: u ∧ c ≠ '%') ∨
    (∃ u, t = '%' :: '%' :: u) ∨ ∃ u, t = '%' :: u ∧ u.head? ≠ some '%' := by
  rcases t with _ | ⟨c, u⟩
  · exact .inl rfl
  · by_cases hc : c = '%'
    · subst hc
      by_cases hu : u.head? = some '%'
      · obtain ⟨u, rfl⟩ := List.head?_eq_some_iff.mp hu
        exact .inr (.inr (.inl ⟨u, rfl⟩))
      · exact .inr (.inr (.inr ⟨u, rfl, hu⟩))
    · exact .inr (.inl ⟨c, u, rfl, hc⟩)

theorem fillFrom_opened :
    fillFrom arg index .text used ('%' :: t) = fillFrom arg (index + 1) .opened used t := by
  rw [fillFrom, if_pos rfl]

theorem exists_of_map_eq_ok {ε α β : Type} {f : α → β} {r : Except ε α} {b : β}
    (h : r.map f = .ok b) : ∃ a, r = .ok a ∧ f a = b := by
  cases r with
  | error e => exact absurd h (by simp [Except.map])
  | ok a => exact ⟨a, rfl, Except.ok.inj h⟩

/-- **After the argument has been taken**, the rest has to be plain text. -/
theorem plain_of_fillFrom (t : List Char) {index : Nat} {out : List Char}
    (h : fillFrom arg index .text true t = .ok out) : Plain t out := by
  rcases text_cases t with rfl | ⟨c, u, rfl, hc⟩ | ⟨u, rfl⟩ | ⟨u, rfl, hu⟩
  · rw [fillFrom, if_pos rfl] at h
    obtain rfl := Except.ok.inj h
    exact .nil
  · rw [fillFrom_text_cons hc] at h
    obtain ⟨shown, hshown, rfl⟩ := exists_of_map_eq_ok h
    exact .char hc (plain_of_fillFrom u hshown)
  · rw [fillFrom_percent] at h
    obtain ⟨shown, hshown, rfl⟩ := exists_of_map_eq_ok h
    exact .percent (plain_of_fillFrom u hshown)
  · rw [fillFrom_opened] at h
    exact absurd h (fillFrom_ne_ok_of_used (by simp) fun _ => hu)
termination_by t.length

/-- What a directive prints does not depend on where it stands. -/
theorem convert_eq_ok {index' : Nat} {text : List Char}
    (h : convert d c index arg = .ok text) : convert d c index' arg = .ok text := by
  unfold convert at h ⊢
  split at h <;> simp_all

/-- Only some letters print a text. -/
theorem isLetter_of_convert {text : List Char} (h : convert d c index arg = .ok text) :
    IsLetter c := by
  unfold convert at h
  split at h
  · exact .inl rfl
  · exact .inr (.inl rfl)
  · exact .inr (.inr (.inl rfl))
  · exact .inr (.inr (.inr rfl))
  all_goals exact absurd h (by simp)

/-- **A directive that takes the argument** is read to its conversion, and plain text follows. -/
theorem exists_of_fillFrom : ∀ {t : List Char} {s : Spelling} {phase : Phase} {index : Nat}
    {out : List Char}, Read s phase → (phase = .opened → t.head? ≠ some '%') →
    fillFrom arg index phase false t = .ok out →
    ∃ (s' : Spelling) (cs : List Char) (conversion : Char) (u after text : List Char),
      t = cs ++ conversion :: u ∧ s'.text = s.text ++ cs ∧ Plain u after ∧
      convert s'.directive conversion 0 arg = .ok text ∧ out = text ++ after
  | [], _, phase, _, _, hread, _, h => by
      refine absurd h (fillFrom_nil_ne_ok ?_)
      rintro rfl
      exact hread
  | c :: t, s, phase, index, out, hread, hopened, h => by
      have hphase : phase ≠ .text := by
        rintro rfl
        exact hread
      rw [fillFrom_cons hphase] at h
      cases hnext : next false phase c with
      | fail flaw =>
        rw [hnext] at h
        exact absurd h (by simp)
      | go phase₁ =>
        rw [hnext] at h
        obtain ⟨s₁, hread₁, htext₁⟩ := hread.next hnext
        obtain ⟨s', cs, conversion, u, after, text, rfl, htext, hplain, hconvert, rfl⟩ :=
          exists_of_fillFrom hread₁
            (fun h => absurd h (ne_of_next_eq_go hnext hphase).2) h
        refine ⟨s', c :: cs, conversion, u, after, text, rfl, ?_, hplain, hconvert, rfl⟩
        rw [htext, htext₁, List.append_assoc]
        rfl
      | convert d =>
        have hplain : ¬ (c = '%' ∧ phase = .opened) := fun ⟨hc, h⟩ => hopened h (by rw [hc]; rfl)
        have hd : d = s.directive := (directive_eq_of_convert hnext).trans hread.directive_eq
        subst hd
        rw [hnext] at h
        simp only [Bool.and_eq_true, decide_eq_true_eq, hplain, if_false, Bool.false_eq_true] at h
        cases hconvert : convert s.directive c index arg with
        | error flaw =>
          rw [hconvert] at h
          exact absurd h (by simp)
        | ok text =>
          rw [hconvert] at h
          obtain ⟨after, hafter, rfl⟩ := exists_of_map_eq_ok h
          exact ⟨s, [], c, t, after, text, rfl, (List.append_nil _).symm,
            plain_of_fillFrom t hafter, convert_eq_ok hconvert, rfl⟩

theorem OneSlot.char {before after : List Char} (hc : c ≠ '%') (h : OneSlot t before d c' after) :
    OneSlot (c :: t) (c :: before) d c' after := by
  cases h with
  | intro s _ hbefore hafter => exact .intro s c' (.char hc hbefore) hafter

theorem OneSlot.percent {before after : List Char} (h : OneSlot t before d c' after) :
    OneSlot ('%' :: '%' :: t) ('%' :: before) d c' after := by
  cases h with
  | intro s _ hbefore hafter => exact .intro s c' (.percent hbefore) hafter

theorem oneSlot_of_fillFrom (t : List Char) {index : Nat} {out : List Char}
    (h : fillFrom arg index .text false t = .ok out) : ∃ before d conversion after text,
      OneSlot t before d conversion after ∧ convert d conversion 0 arg = .ok text ∧
      out = before ++ text ++ after := by
  rcases text_cases t with rfl | ⟨c, u, rfl, hc⟩ | ⟨u, rfl⟩ | ⟨u, rfl, hu⟩
  · rw [fillFrom, if_neg (by simp)] at h
    exact absurd h (by simp)
  · rw [fillFrom_text_cons hc] at h
    obtain ⟨shown, hshown, rfl⟩ := exists_of_map_eq_ok h
    obtain ⟨before, d, conversion, after, text, hslot, hconvert, rfl⟩ :=
      oneSlot_of_fillFrom u hshown
    exact ⟨c :: before, d, conversion, after, text, hslot.char hc, hconvert, rfl⟩
  · rw [fillFrom_percent] at h
    obtain ⟨shown, hshown, rfl⟩ := exists_of_map_eq_ok h
    obtain ⟨before, d, conversion, after, text, hslot, hconvert, rfl⟩ :=
      oneSlot_of_fillFrom u hshown
    exact ⟨'%' :: before, d, conversion, after, text, hslot.percent, hconvert, rfl⟩
  · rw [fillFrom_opened] at h
    have hread : Read {} .opened := rfl
    obtain ⟨s, cs, conversion, v, after, text, rfl, htext, hplain, hconvert, rfl⟩ :=
      exists_of_fillFrom hread (fun _ => hu) h
    have hcs : cs = s.text := htext.symm
    refine ⟨[], s.directive, conversion, after, text, ?_, hconvert, rfl⟩
    rw [hcs]
    exact .intro s conversion .nil hplain
termination_by t.length

theorem fillFrom_of_oneSlot {before after text : List Char}
    (h : OneSlot t before d c after) (hconvert : convert d c 0 arg = .ok text) :
    fillFrom arg index .text false t = .ok (before ++ text ++ after) := by
  cases h with
  | @intro t u _ _ s _ hbefore hafter =>
    obtain ⟨phase, hwalk, hread⟩ := exists_walk s
    have hphase : phase ≠ .text := by
      rintro rfl
      exact hread
    have hletter := isLetter_of_convert hconvert
    have hpercent : c ≠ '%' := by
      rintro rfl
      exact absurd hletter (by simp [IsLetter])
    have hrest : ∀ index, fillFrom arg index .text true u = .ok after := fun index => by
      have hplain : fillFrom arg index .text true (u ++ []) = _ := fillFrom_plain hafter
      rw [List.append_nil, fillFrom, if_pos rfl] at hplain
      simpa [Except.map] using hplain
    rw [fillFrom_plain hbefore, fillFrom_opened, fillFrom_walk (by simp) hwalk,
      fillFrom_cons hphase, next_of_isLetter hphase hletter, hread.directive_eq]
    simp only [hpercent, decide_false, Bool.false_and, Bool.false_eq_true, if_false,
      convert_eq_ok hconvert, hrest]
    simp [Except.map]

/-- **A template takes its argument** just if it is plain text with one directive in it that prints
the argument; this is what then stands between the two pieces of text. -/
theorem fill_eq_ok_iff : fill t arg = .ok out ↔ ∃ before d conversion after text,
    OneSlot t before d conversion after ∧ convert d conversion 0 arg = .ok text ∧
    out = before ++ text ++ after := by
  constructor
  · exact oneSlot_of_fillFrom t
  · rintro ⟨before, d, conversion, after, text, hslot, hconvert, rfl⟩
    exact fillFrom_of_oneSlot hslot hconvert

end Fill

/-! ## What is left of the argument -/

/-- Whether a template takes any text of more than one character. -/
def Prints (t : List Char) : Prop := ∃ before d conversion after,
  OneSlot t before d conversion after ∧ (conversion = 's' ∨ conversion = 'r' ∨ conversion = 'a')

/-- Whether a template takes any text and leaves it whole. -/
def Carries (t : List Char) : Prop := ∃ before d after,
  OneSlot t before d 's' after ∧ d.precision = none

section Argument

variable {t arg text : List Char} {d : Directive} {c : Char}

theorem exists_convert_iff (harg : arg.length ≠ 1) :
    (∃ text, convert d c 0 arg = .ok text) ↔ c = 's' ∨ c = 'r' ∨ c = 'a' := by
  constructor
  · rintro ⟨text, h⟩
    rcases isLetter_of_convert h with hc | hc | hc | rfl
    · exact .inl hc
    · exact .inr (.inl hc)
    · exact .inr (.inr hc)
    · exact absurd h (by simp [convert, harg])
  · rintro (rfl | rfl | rfl) <;> exact ⟨_, rfl⟩

theorem exists_fill_iff (harg : arg.length ≠ 1) : (∃ out, fill t arg = .ok out) ↔ Prints t := by
  constructor
  · rintro ⟨out, hout⟩
    obtain ⟨before, d, c, after, text, hslot, hconvert, -⟩ := fill_eq_ok_iff.mp hout
    exact ⟨before, d, c, after, hslot, (exists_convert_iff harg).mp ⟨text, hconvert⟩⟩
  · rintro ⟨before, d, c, after, hslot, hc⟩
    obtain ⟨text, hconvert⟩ := (exists_convert_iff harg).mpr hc
    exact ⟨_, fill_eq_ok_iff.mpr ⟨before, d, c, after, text, hslot, hconvert, rfl⟩⟩

/-- A width is filled up with blanks, on one side or the other. -/
theorem exists_pad (d : Directive) (cs : List Char) :
    ∃ m n, d.pad cs = List.replicate m ' ' ++ cs ++ List.replicate n ' ' := by
  rw [Directive.pad]
  split
  · exact ⟨0, _, rfl⟩
  · exact ⟨_, 0, (List.append_nil _).symm⟩

theorem infix_pad (d : Directive) (cs : List Char) : cs <:+: d.pad cs := by
  obtain ⟨m, n, hpad⟩ := exists_pad d cs
  exact ⟨_, _, hpad.symm⟩

/-- **A template that leaves its argument whole** shows the same on either side of it. -/
theorem exists_fill_of_carries (h : Carries t) :
    ∃ before d after, ∀ arg, fill t arg = .ok (before ++ Directive.pad d arg ++ after) := by
  obtain ⟨before, d, after, hslot, hprecision⟩ := h
  refine ⟨before, d, after, fun arg => ?_⟩
  have hconvert : convert d 's' 0 arg = .ok (d.pad arg) := by
    rw [convert, Directive.show, hprecision]
  exact fill_eq_ok_iff.mpr ⟨before, d, 's', after, _, hslot, hconvert, rfl⟩

/-- **A directive that cuts nothing off** leaves the argument whole. -/
theorem infix_of_carries (h : Carries t) (arg : List Char) :
    ∃ out, fill t arg = .ok out ∧ arg <:+: out := by
  obtain ⟨before, d, after, hfill⟩ := exists_fill_of_carries h
  refine ⟨_, hfill arg, ?_⟩
  exact ((infix_pad d arg).trans (List.suffix_append _ _).isInfix).trans
    (List.prefix_append _ _).isInfix

theorem plain_of_notMem : ∀ {t : List Char}, '%' ∉ t → Plain t t
  | [], _ => .nil
  | _ :: _, h => by
      obtain ⟨hc, ht⟩ := not_or.mp (mt List.mem_cons.mpr h)
      exact .char (Ne.symm hc) (plain_of_notMem ht)

/-- A template whose only percent sign opens `%s`. -/
theorem oneSlot_of_notMem {u : List Char} (ht : '%' ∉ t) (hu : '%' ∉ u) :
    OneSlot (t ++ '%' :: 's' :: u) t ({} : Spelling).directive 's' u :=
  .intro {} 's' (plain_of_notMem ht) (plain_of_notMem hu)

theorem carries_of_notMem {u : List Char} (ht : '%' ∉ t) (hu : '%' ∉ u) :
    Carries (t ++ '%' :: 's' :: u) := ⟨t, _, u, oneSlot_of_notMem ht hu, rfl⟩

theorem fill_of_notMem {u : List Char} (ht : '%' ∉ t) (hu : '%' ∉ u) (arg : List Char) :
    fill (t ++ '%' :: 's' :: u) arg = .ok (t ++ arg ++ u) := by
  refine fill_eq_ok_iff.mpr ⟨t, _, 's', u, arg, oneSlot_of_notMem ht hu, ?_, rfl⟩
  have hdirective : ({} : Spelling).directive = ⟨false, 0, none⟩ := rfl
  simp [hdirective, convert, Directive.show, Directive.pad]

theorem count_pad (hc : c ≠ ' ') (cs : List Char) : (d.pad cs).count c = cs.count c := by
  have hblanks : ∀ n, (List.replicate n ' ').count c = 0 := fun n =>
    List.count_eq_zero.mpr fun hmem => hc (List.eq_of_mem_replicate hmem)
  obtain ⟨m, n, hpad⟩ := exists_pad d cs
  rw [hpad, List.count_append, List.count_append, hblanks, hblanks, Nat.zero_add, Nat.add_zero]

theorem count_show_le (hc : c ≠ ' ') (cs : List Char) : (d.show cs).count c ≤ cs.count c := by
  rw [Directive.show, count_pad hc]
  split
  · exact (List.take_sublist _ cs).count_le c
  · exact Nat.le_refl _

theorem count_show_le_precision {p : Nat} (hp : d.precision = some p) (hc : c ≠ ' ')
    (cs : List Char) : (d.show cs).count c ≤ p := by
  rw [Directive.show, hp, count_pad hc]
  exact Nat.le_trans List.count_le_length (List.length_take_le p cs)

end Argument

end Gazetteer.Text.Template
