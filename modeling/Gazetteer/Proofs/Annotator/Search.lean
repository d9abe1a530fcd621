import Gazetteer.Proofs.Annotator.Execution

/-!
# Proofs/Annotator/Search — annotating a document, the corpus aside

What an annotator finds in a document, and what it and its feeder have to do with each other
meanwhile, does not depend on the annotations that are there already. `survey` is annotating a
document without a corpus: its state is that of the feeder and the findings so far, which stay when
it fails. Annotating is surveying, and making the annotations of what is found, up to the fault if
there is one (`outcome_annotate`).

So what two runs have in common can be said of surveys alone (`survey_mirrors`), where results and
findings are the same and not only alike.
-/

namespace Gazetteer

open Gazetteer.Action

variable {σ τ : Type}

/-- Whether two feeders act alike in a document: their calls give the same, and states that
correspond before a call correspond after it. -/
structure Feeding.Mirrors (feeding : Feeding σ) (feeding' : Feeding τ) (document : Document)
    (before during after : σ → τ → Prop) : Prop where
  begin : ∀ {s t}, before s t → ∃ result s' t',
    outcome (feeding.begin document) s = (result, s') ∧
    outcome (feeding'.begin document) t = (result, t') ∧
    (result = .ok true → during s' t') ∧ (result ≠ .ok true → after s' t')
  ahead : ∀ {s t}, during s t → ∀ window d, ∃ result s' t' d',
    outcome (feeding.feedAhead document window) (s, d) = (result, s', d') ∧
    outcome (feeding'.feedAhead document window) (t, d) = (result, t', d') ∧ during s' t'
  finish : ∀ {s t}, during s t → ∃ result s' t',
    outcome (feeding.finish document) s = (result, s') ∧
    outcome (feeding'.finish document) t = (result, t') ∧ after s' t'

namespace Annotator

/-! ## The search, without a corpus -/

/-- The dictionary of a document after a feeder was asked, if there is one. -/
def heard (feedAhead : Option (List String → Action (σ × Dictionary) Unit)) (window : List String)
    (locals : Dictionary) : Action σ Dictionary :=
  match feedAhead with
  | none => pure locals
  | some feedAhead => Prod.snd <$> Action.withState locals (feedAhead window)

/-- What is found from a place on, after what has been found before. -/
def search (a : Annotator) (globals : Dictionary) (total : Nat)
    (feedAhead : Option (List String → Action (σ × Dictionary) Unit)) (locals : Dictionary) :
    List Lexeme → Action (σ × List Finding) Unit
  | [] => pure ()
  | l :: ls => do
    let locals ← Action.onFirst (heard feedAhead (windowOf total a.lookahead (l :: ls)) locals)
    match matchAt globals locals (l :: ls) with
    | none => search a globals total feedAhead locals ls
    | some (n, es) =>
      modify fun (s, found) => (s, found ++ es.map (Finding.mk l.start (stopOf (l :: ls) n)))
      search a globals total feedAhead locals (ls.drop (n - 1))
termination_by lexemes => lexemes.length
decreasing_by
  · simp
  · simp only [List.length_drop, List.length_cons]; omega

/-- Annotating a document, with the findings in the place of annotations. -/
def survey (a : Annotator) (globals : Dictionary) (feeding : Feeding σ) (document : Document) :
    Action (σ × List Finding) Unit := do
  let lexemes := Lexeme.scan document.content.toList
  if ← Action.onFirst (feeding.begin document) then
    Action.ensuring
      (a.search globals lexemes.length (some (feeding.feedAhead document)) .empty lexemes)
      (Action.onFirst (feeding.finish document))
  else a.search globals lexemes.length none .empty lexemes

section Cons

variable {a : Annotator} {globals locals : Dictionary} {document : Document} {total : Nat}
  {feedAhead : Option (List String → Action (σ × Dictionary) Unit)} {l : Lexeme}
  {ls : List Lexeme} {s : σ} {c : Corpus} {found : List Finding}

theorem outcome_heard_some (feedAhead : List String → Action (σ × Dictionary) Unit)
    (window : List String) (locals : Dictionary) (s : σ) :
    outcome (heard (some feedAhead) window locals) s
      = ((outcome (feedAhead window) (s, locals)).1.map
          fun _ => (outcome (feedAhead window) (s, locals)).2.2,
        (outcome (feedAhead window) (s, locals)).2.1) := by
  rw [heard, outcome_map, outcome_withState]
  rcases outcome (feedAhead window) (s, locals) with ⟨fault | _, _⟩ <;> rfl

theorem fed_eq (feedAhead : Option (List String → Action (σ × Dictionary) Unit))
    (window : List String) (locals : Dictionary) :
    fed feedAhead window locals
      = (Action.onFirst (heard feedAhead window locals) : Action (σ × Corpus) Dictionary) := by
  funext ⟨s, c⟩
  cases feedAhead with
  | none => rfl
  | some feedAhead =>
    simp only [fed, heard, bind, EStateM.bind, Functor.map, EStateM.map, Action.onFirst,
      Action.withState]
    cases feedAhead window (s, locals) <;> rfl

/-- A place of the search: the feeder comes first, and then what is found there. -/
theorem outcome_search_cons :
    outcome (a.search globals total feedAhead locals (l :: ls)) (s, found) =
      match outcome (heard feedAhead (windowOf total a.lookahead (l :: ls)) locals) s with
      | (.error fault, s') => (.error fault, s', found)
      | (.ok locals', s') =>
        match matchAt globals locals' (l :: ls) with
        | none => outcome (a.search globals total feedAhead locals' ls) (s', found)
        | some (n, es) =>
          outcome (a.search globals total feedAhead locals' (ls.drop (n - 1)))
            (s', found ++ es.map (Finding.mk l.start (stopOf (l :: ls) n))) := by
  rw [search, outcome_bind, outcome_onFirst]
  rcases outcome (heard feedAhead (windowOf total a.lookahead (l :: ls)) locals) s with
    ⟨fault | locals', s'⟩
  · rfl
  · simp only []
    rcases matchAt globals locals' (l :: ls) with _ | ⟨n, es⟩ <;> rfl

/-- **A place where the feeder fails** is the last one. -/
theorem outcome_scan_of_error {fault : Fault} {s' : σ}
    (h : outcome (heard feedAhead (windowOf total a.lookahead (l :: ls)) locals) s
      = (.error fault, s')) :
    outcome (a.scan globals document total feedAhead locals (l :: ls)) (s, c)
      = (.error fault, s', c) := by
  have hfed : outcome (fed feedAhead (windowOf total a.lookahead (l :: ls)) locals) (s, c)
      = (.error fault, s', c) := by
    rw [fed_eq, outcome_onFirst, h]
  have hbind := fun next : Dictionary → Action (σ × Corpus) (List AnnotationRef) => by
    have := outcome_bind (fed feedAhead (windowOf total a.lookahead (l :: ls)) locals) next (s, c)
    rwa [hfed] at this
  rw [scan.eq_def]
  cases feedAhead with
  | none => exact hbind _
  | some feedAhead =>
    simp only [fed, bind_assoc] at hbind
    exact hbind _

/-- A place where the feeder does not fail. -/
theorem outcome_scan_of_ok {locals' : Dictionary} {s' : σ} {set : SetRef} {c₁ : Corpus}
    (h : outcome (heard feedAhead (windowOf total a.lookahead (l :: ls)) locals) s
      = (.ok locals', s')) (hset : c.setOf document a.output = (set, c₁)) :
    outcome (a.scan globals document total feedAhead locals (l :: ls)) (s, c) =
      match matchAt globals locals' (l :: ls) with
      | none => outcome (a.scan globals document total feedAhead locals' ls) (s', c₁)
      | some (n, es) =>
        let (refs, c₂) := a.mark set l.start (stopOf (l :: ls) n) es c₁
        outcome ((refs ++ ·) <$> a.scan globals document total feedAhead locals' (ls.drop (n - 1)))
          (s', c₂) := by
  have hfed : fed feedAhead (windowOf total a.lookahead (l :: ls)) locals (s, c)
      = .ok locals' (s', c) := eq_ok_of_outcome (by rw [fed_eq, outcome_onFirst, h])
  rw [outcome, scan_cons hfed hset]
  rcases matchAt globals locals' (l :: ls) with _ | ⟨n, es⟩ <;> rfl

end Cons

/-- **Run**: scanning is searching, and making the annotations of what is found. -/
theorem outcome_scan (a : Annotator) (globals : Dictionary) (document : Document) (total : Nat)
    (feedAhead : Option (List String → Action (σ × Dictionary) Unit)) :
    ∀ (lexemes : List Lexeme) (locals : Dictionary) (s : σ) (c : Corpus) (found : List Finding),
      ∃ refs c' news,
        outcome (a.scan globals document total feedAhead locals lexemes) (s, c)
          = ((outcome (a.search globals total feedAhead locals lexemes) (s, found)).1.map
              fun _ => refs,
            (outcome (a.search globals total feedAhead locals lexemes) (s, found)).2.1, c') ∧
        (outcome (a.search globals total feedAhead locals lexemes) (s, found)).2.2
          = found ++ news ∧
        c.Grown c' refs (a.marks c.nextId news)
  | [], locals, s, c, found => by
      refine ⟨[], c, [], ?_, ?_, Corpus.Grown.refl c⟩
      · rw [scan, search]
        rfl
      · rw [search, List.append_nil]
        rfl
  | l :: ls, locals, s, c, found => by
      rw [outcome_search_cons]
      rcases hheard : outcome (heard feedAhead (windowOf total a.lookahead (l :: ls)) locals) s with
        ⟨fault | locals', s'⟩
      · refine ⟨[], c, [], outcome_scan_of_error hheard, ?_, Corpus.Grown.refl c⟩
        simp
      · obtain ⟨⟨set, c₁⟩, hset⟩ : ∃ x, c.setOf document a.output = x := ⟨_, rfl⟩
        have hgrown₁ : c.Grown c₁ [] [] := by
          simpa only [hset] using c.grown_setOf document a.output
        rw [outcome_scan_of_ok hheard hset]
        simp only []
        rcases matchAt globals locals' (l :: ls) with _ | ⟨n, es⟩
        · obtain ⟨refs, c', news, hscan, hnews, hgrown⟩ :=
            outcome_scan a globals document total feedAhead ls locals' s' c₁ found
          refine ⟨refs, c', news, hscan, hnews, ?_⟩
          simpa [hgrown₁.nextId] using hgrown₁.trans hgrown
        · obtain ⟨⟨marked, c₂⟩, hmark⟩ :
            ∃ x, a.mark set l.start (stopOf (l :: ls) n) es c₁ = x := ⟨_, rfl⟩
          have hgrown₂ : c₁.Grown c₂ marked
              (a.marks c₁.nextId (es.map (Finding.mk l.start (stopOf (l :: ls) n)))) := by
            simpa only [hmark] using grown_mark a set l.start (stopOf (l :: ls) n) es c₁
          obtain ⟨refs, c', news, hscan, hnews, hgrown⟩ :=
            outcome_scan a globals document total feedAhead (ls.drop (n - 1)) locals' s' c₂
              (found ++ es.map (Finding.mk l.start (stopOf (l :: ls) n)))
          refine ⟨marked ++ refs, c', es.map (Finding.mk l.start (stopOf (l :: ls) n)) ++ news, ?_,
            by rw [← List.append_assoc]; exact hnews, ?_⟩
          · simp only [hmark, outcome_map, hscan]
            cases (outcome (a.search globals total feedAhead locals' (ls.drop (n - 1)))
              (s', found ++ es.map (Finding.mk l.start (stopOf (l :: ls) n)))).1 <;> rfl
          · rw [marks_append]
            simpa [hgrown₁.nextId, hgrown₂.nextId] using hgrown₁.trans (hgrown₂.trans hgrown)
termination_by lexemes => lexemes.length
decreasing_by
  · simp
  · simp only [List.length_drop, List.length_cons]; omega

/-- **Annotating is surveying**, and making the annotations of what is found, also where it ends
with a fault. -/
theorem outcome_annotate (a : Annotator) (globals : Dictionary) (feeding : Feeding σ)
    (document : Document) (s : σ) (c : Corpus) :
    ∃ refs c', outcome (a.annotate globals feeding document) (s, c)
        = ((outcome (a.survey globals feeding document) (s, [])).1.map fun _ => refs,
          (outcome (a.survey globals feeding document) (s, [])).2.1, c') ∧
      c.Grown c' refs (a.marks c.nextId
        (outcome (a.survey globals feeding document) (s, [])).2.2) := by
  simp only [annotate, survey, outcome_bind, outcome_onFirst]
  rcases outcome (feeding.begin document) s with ⟨fault | fed, s₁⟩
  · exact ⟨[], c, rfl, Corpus.Grown.refl c⟩
  have hscan := fun feedAhead => outcome_scan a globals document
    (Lexeme.scan document.content.toList).length feedAhead (Lexeme.scan document.content.toList)
    .empty s₁ c []
  simp only [List.nil_append] at hscan
  cases fed with
  | false =>
    obtain ⟨refs, c', _, hscan, rfl, hgrown⟩ := hscan none
    exact ⟨refs, c', hscan, hgrown⟩
  | true =>
    obtain ⟨refs, c', _, hscan, rfl, hgrown⟩ := hscan (some (feeding.feedAhead document))
    simp only [if_true, outcome_ensuring_eq, hscan]
    revert hgrown
    rcases outcome (a.search globals (Lexeme.scan document.content.toList).length
      (some (feeding.feedAhead document)) .empty (Lexeme.scan document.content.toList))
      (s₁, []) with ⟨result, s₂, found⟩
    intro hgrown
    simp only [outcome_onFirst]
    refine ⟨refs, c', ?_, hgrown⟩
    rcases outcome (feeding.finish document) s₂ with ⟨fault | _, s₃⟩ <;> rfl

/-! ## Feeders that act alike -/

/-- **Run**: with feeders that act alike, the same is found from a place on. -/
theorem search_mirrors (a : Annotator) (globals : Dictionary) (total : Nat)
    {feedAhead : Option (List String → Action (σ × Dictionary) Unit)}
    {feedAhead' : Option (List String → Action (τ × Dictionary) Unit)} {R : σ → τ → Prop}
    (hheard : ∀ {s t}, R s t → ∀ window locals, ∃ result s' t',
      outcome (heard feedAhead window locals) s = (result, s') ∧
      outcome (heard feedAhead' window locals) t = (result, t') ∧ R s' t') :
    ∀ (lexemes : List Lexeme) (locals : Dictionary) (s : σ) (t : τ) (found : List Finding),
      R s t → ∃ result found' s' t',
        outcome (a.search globals total feedAhead locals lexemes) (s, found)
          = (result, s', found') ∧
        outcome (a.search globals total feedAhead' locals lexemes) (t, found)
          = (result, t', found') ∧ R s' t'
  | [], locals, s, t, found, hR => by
      refine ⟨.ok (), found, s, t, ?_, ?_, hR⟩ <;> rw [search] <;> rfl
  | l :: ls, locals, s, t, found, hR => by
      obtain ⟨result, s', t', hs, ht, hR'⟩ :=
        hheard hR (windowOf total a.lookahead (l :: ls)) locals
      rw [outcome_search_cons, outcome_search_cons, hs, ht]
      cases result with
      | error fault => exact ⟨.error fault, found, s', t', rfl, rfl, hR'⟩
      | ok locals' =>
        simp only []
        rcases matchAt globals locals' (l :: ls) with _ | ⟨n, es⟩
        · exact search_mirrors a globals total hheard ls locals' s' t' found hR'
        · exact search_mirrors a globals total hheard (ls.drop (n - 1)) locals' s' t'
            (found ++ es.map (Finding.mk l.start (stopOf (l :: ls) n))) hR'
termination_by lexemes => lexemes.length
decreasing_by
  · simp
  · simp only [List.length_drop, List.length_cons]; omega

/-- **With feeders that act alike, documents are surveyed alike**: the same is found, and the same
comes of it. -/
theorem survey_mirrors {feeding : Feeding σ} {feeding' : Feeding τ} {document : Document}
    {before during after : σ → τ → Prop} (h : feeding.Mirrors feeding' document before during after)
    (a : Annotator) (globals : Dictionary) {s : σ} {t : τ} (hst : before s t) :
    ∃ result found s' t',
      outcome (a.survey globals feeding document) (s, []) = (result, s', found) ∧
      outcome (a.survey globals feeding' document) (t, []) = (result, t', found) ∧
      after s' t' := by
  obtain ⟨begun, s₁, t₁, hs, ht, hduring, hafter⟩ := h.begin hst
  simp only [survey, outcome_bind, outcome_onFirst, hs, ht]
  rcases begun with fault | _ | _
  · exact ⟨.error fault, [], s₁, t₁, rfl, rfl, hafter (by simp)⟩
  · have hheard : ∀ {s : σ} {t : τ}, after s t → ∀ (window : List String) locals,
        ∃ result s' t', outcome (heard none window locals) s = (result, s') ∧
          outcome (heard none window locals) t = (result, t') ∧ after s' t' :=
      fun {s t} hst _ locals => ⟨.ok locals, s, t, rfl, rfl, hst⟩
    exact search_mirrors a globals _ hheard _ .empty s₁ t₁ [] (hafter (by simp))
  · have hheard : ∀ {s t}, during s t → ∀ window locals, ∃ result s' t',
        outcome (heard (some (feeding.feedAhead document)) window locals) s = (result, s') ∧
        outcome (heard (some (feeding'.feedAhead document)) window locals) t = (result, t') ∧
        during s' t' := by
      intro s t hst window locals
      obtain ⟨result, s', t', locals', hs, ht, hst'⟩ := h.ahead hst window locals
      exact ⟨_, s', t', by rw [outcome_heard_some, hs], by rw [outcome_heard_some, ht], hst'⟩
    obtain ⟨result, found, s₂, t₂, hs, ht, hduring⟩ :=
      search_mirrors a globals (Lexeme.scan document.content.toList).length hheard
        (Lexeme.scan document.content.toList) .empty s₁ t₁ [] (hduring rfl)
    obtain ⟨ended, s₃, t₃, hs', ht', hafter⟩ := h.finish hduring
    refine ⟨ended >>= fun _ => result, found, s₃, t₃, ?_, ?_, hafter⟩
    · simp only [if_true, outcome_ensuring_eq, hs, outcome_onFirst, hs']
    · simp only [if_true, outcome_ensuring_eq, ht, outcome_onFirst, ht']

/-! ## An annotator at work -/

/-- Annotates a document with the dictionary that the annotator has by now. -/
def executeIn (a : Annotator) (feeding : Feeding σ) (document : Document) :
    Action ((σ × Option Dictionary) × Corpus) (List AnnotationRef) := do
  let ((_, dictionary), _) ← get
  Action.zoom (fun ((s, _), c) => (s, c)) (fun (s, c) ((_, dictionary), _) => ((s, dictionary), c))
    (a.execute dictionary feeding document)

/-- **Annotating leaves the dictionary** of the annotator as it is. -/
theorem outcome_executeIn (a : Annotator) (feeding : Feeding σ) (document : Document) (s : σ)
    (dictionary : Option Dictionary) (c : Corpus) :
    outcome (a.executeIn feeding document) ((s, dictionary), c)
      = ((outcome (a.execute dictionary feeding document) (s, c)).1,
        ((outcome (a.execute dictionary feeding document) (s, c)).2.1, dictionary),
        (outcome (a.execute dictionary feeding document) (s, c)).2.2) :=
  outcome_zoom (fun s : (σ × Option Dictionary) × Corpus => (s.1.1, s.2))
    (fun t s => ((t.1, s.1.2), t.2)) (a.execute dictionary feeding document) ((s, dictionary), c)

end Annotator

end Gazetteer
