import Gazetteer.Proofs.Action
import Gazetteer.Proofs.Annotation.Growth
import Gazetteer.Proofs.Annotator.Greedy

/-!
# Proofs/Annotator/Execution — annotating a document is the greedy search

A feeder may do anything to its own state, but all it does to a document is to answer with records.
`Feeding.Follows` compares it with a machine that only answers: the feeder never fails, and adds the
records that the machine says. Whatever the machine, annotating a document then gives the
annotations of what the greedy search finds with these answers.

One place of a document is `scan_cons`; the run over all places is `scan_follows`.
-/

namespace Gazetteer

variable {σ τ : Type}

/-- A feeder that adds to a document what a machine answers, with the states that correspond. -/
structure Feeding.Follows (feeding : Feeding σ) (document : Document)
    (ask : List String → τ → List Entity × τ) (R : σ → τ → Prop) : Prop where
  ahead : ∀ {s t}, R s t → ∀ window, (∀ w ∈ window, Lexeme.IsWord w.toList) → ∀ d, ∃ s' d',
    feeding.feedAhead document window (s, d) = .ok () (s', d') ∧
      d.addAll (ask window t).1 = .ok d' ∧ R s' (ask window t).2
  finish : ∀ {s t}, R s t → ∃ s', feeding.finish document s = .ok () s'

/-- The feeder that answers as a machine does. -/
def Feeding.answering (ask : List String → τ → List Entity × τ) : Feeding τ where
  setUp _ := pure ()
  feedAll := pure ()
  begin _ := pure true
  feedAhead _ window := fun (t, d) =>
    match d.addAll (ask window t).1 with
    | .ok d' => .ok () ((ask window t).2, d')
    | .error fault => .error fault (t, d)
  finish _ := pure ()

theorem Feeding.answering_follows {ask : List String → τ → List Entity × τ}
    (h : ∀ window t, ∀ e ∈ (ask window t).1, e.key?.isSome) (document : Document) :
    (answering ask).Follows document ask Eq where
  ahead := by
    rintro s _ rfl window - d
    obtain ⟨d', hd'⟩ := Dictionary.exists_addAll (h window s) d
    refine ⟨(ask window s).2, d', ?_, hd', rfl⟩
    simp only [answering, hd']
  finish := fun {s _} _ => ⟨s, rfl⟩

namespace Annotator

/-! ## Making annotations -/

theorem marks_append (a : Annotator) : ∀ (id : Int) (xs ys : List Finding),
    a.marks id (xs ++ ys) = a.marks id xs ++ a.marks (id + xs.length) ys
  | id, [], ys => by simp [marks]
  | id, x :: xs, ys => by
      have hid : id + ((x :: xs).length : Int) = id + 1 + xs.length := by
        rw [List.length_cons]
        omega
      rw [List.cons_append, marks, marks_append a (id + 1) xs ys, hid]
      rfl

@[simp] theorem length_marks (a : Annotator) : ∀ (id : Int) (xs : List Finding),
    (a.marks id xs).length = xs.length
  | _, [] => rfl
  | id, _ :: xs => congrArg (· + 1) (length_marks a (id + 1) xs)

/-- **Marking a stretch** makes one annotation for each record, in order. -/
theorem grown_mark (a : Annotator) (set : SetRef) (start stop : Nat) :
    ∀ (es : List Entity) (c : Corpus),
      c.Grown (a.mark set start stop es c).2 (a.mark set start stop es c).1
        (a.marks c.nextId (es.map (Finding.mk start stop)))
  | [], c => Corpus.Grown.refl c
  | e :: es, c => by
      have hcreate := c.grown_create set a.type start stop (featuresOf e)
      have ih := grown_mark a set start stop es (c.create set a.type start stop (featuresOf e)).2
      rw [hcreate.nextId] at ih
      exact hcreate.trans ih

/-! ## One place -/

/-- What a place does first: the records for the document are added to. -/
def fed (feedAhead : Option (List String → Action (σ × Dictionary) Unit)) (window : List String)
    (locals : Dictionary) : Action (σ × Corpus) Dictionary :=
  match feedAhead with
  | none => pure locals
  | some feedAhead => do
    let (_, locals) ← Action.onFirst (Action.withState locals (feedAhead window))
    pure locals

theorem fed_some {feedAhead : List String → Action (σ × Dictionary) Unit} {window : List String}
    {s s' : σ} {locals locals' : Dictionary}
    (h : feedAhead window (s, locals) = .ok () (s', locals')) (c : Corpus) :
    fed (some feedAhead) window locals (s, c) = .ok locals' (s', c) := by
  rw [fed, Action.bind_ok (Action.onFirst_ok (Action.withState_ok h) c)]
  rfl

section Scan

variable {a : Annotator} {globals locals locals' : Dictionary} {document : Document} {total : Nat}
variable {feedAhead : Option (List String → Action (σ × Dictionary) Unit)}
variable {l : Lexeme} {ls : List Lexeme} {s s' : σ} {c c₁ c₂ : Corpus} {set : SetRef}

/-- A place takes in the records for the document before anything else. -/
theorem scan_cons
    (hfed : fed feedAhead (windowOf total a.lookahead (l :: ls)) locals (s, c)
      = .ok locals' (s', c))
    (hset : c.setOf document a.output = (set, c₁)) :
    a.scan globals document total feedAhead locals (l :: ls) (s, c) =
      match matchAt globals locals' (l :: ls) with
      | none => a.scan globals document total feedAhead locals' ls (s', c₁)
      | some (n, es) =>
        let (refs, c₂) := a.mark set l.start (stopOf (l :: ls) n) es c₁
        ((refs ++ ·) <$> a.scan globals document total feedAhead locals' (ls.drop (n - 1)))
          (s', c₂) := by
  have hnext := fun next : Dictionary → Action (σ × Corpus) (List AnnotationRef) =>
    Action.bind_ok hfed next
  rw [scan.eq_def]
  cases feedAhead with
  | none =>
    refine (hnext _).trans ((Action.get_bind _ _).trans ?_)
    simp only [hset]
    cases matchAt globals locals' (l :: ls) <;> rfl
  | some feedAhead =>
    simp only [fed, bind_assoc] at hnext
    refine (hnext _).trans ((Action.get_bind _ _).trans ?_)
    simp only [hset]
    cases matchAt globals locals' (l :: ls) <;> rfl

/-- **Step without a match**: the search goes on at the next lexeme. -/
theorem scan_cons_of_none
    (hfed : fed feedAhead (windowOf total a.lookahead (l :: ls)) locals (s, c)
      = .ok locals' (s', c))
    (hset : c.setOf document a.output = (set, c₁))
    (h : matchAt globals locals' (l :: ls) = none) :
    a.scan globals document total feedAhead locals (l :: ls) (s, c)
      = a.scan globals document total feedAhead locals' ls (s', c₁) := by
  rw [scan_cons hfed hset, h]

/-- **Step with a match**: the stretch is marked, and the search goes on after it. -/
theorem scan_cons_of_some {n : Nat} {es : List Entity} {refs : List AnnotationRef}
    (hfed : fed feedAhead (windowOf total a.lookahead (l :: ls)) locals (s, c)
      = .ok locals' (s', c))
    (hset : c.setOf document a.output = (set, c₁))
    (h : matchAt globals locals' (l :: ls) = some (n, es))
    (hmark : a.mark set l.start (stopOf (l :: ls) n) es c₁ = (refs, c₂)) :
    a.scan globals document total feedAhead locals (l :: ls) (s, c)
      = ((refs ++ ·) <$> a.scan globals document total feedAhead locals' (ls.drop (n - 1)))
          (s', c₂) := by
  rw [scan_cons hfed hset, h]
  simp only [hmark]

end Scan

/-! ## The whole document -/

/-- **Run**: the search over all places finds what the greedy search finds. -/
theorem scan_follows (a : Annotator) (document : Document) {content : List Char} (total : Nat)
    {feedAhead : Option (List String → Action (σ × Dictionary) Unit)}
    {ask : List String → τ → List Entity × τ} {R : σ → τ → Prop}
    (hahead : ∀ {s t}, R s t → ∀ window, (∀ w ∈ window, Lexeme.IsWord w.toList) →
      ∀ locals (c : Corpus), ∃ s' locals',
        fed feedAhead window locals (s, c) = .ok locals' (s', c) ∧
          locals.addAll (ask window t).1 = .ok locals' ∧ R s' (ask window t).2)
    {calls : List Entity} {globals : Dictionary}
    (hg : Dictionary.empty.addAll calls = .ok globals) :
    ∀ (lexemes : List Lexeme) (received : List Entity) (locals : Dictionary) (s : σ) (t : τ)
      (c : Corpus), lexemes <:+ Lexeme.scan content →
      Dictionary.empty.addAll received = .ok locals → R s t →
      ∃ refs s' t' c', a.scan globals document total feedAhead locals lexemes (s, c)
          = .ok refs (s', c') ∧ R s' t' ∧
        c.Grown c' refs (a.marks c.nextId
          (findings a.lookahead content total ask (calls ++ received) t lexemes))
  | [], received, locals, s, t, c, _, _, hR => by
      refine ⟨[], s, t, c, ?_, hR, ?_⟩
      · rw [scan]
        rfl
      · rw [findings]
        exact Corpus.Grown.refl c
  | l :: ls, received, locals, s, t, c, hsuffix, hl, hR => by
      obtain ⟨s₁, locals₁, hfed, hadd, hR₁⟩ :=
        hahead hR (windowOf total a.lookahead (l :: ls)) (isWord_of_mem_windowOf hsuffix) locals c
      obtain ⟨⟨news, t₁⟩, hask⟩ : ∃ answer, ask (windowOf total a.lookahead (l :: ls)) t = answer :=
        ⟨_, rfl⟩
      rw [hask] at hadd hR₁
      have hl₁ : Dictionary.empty.addAll (received ++ news) = .ok locals₁ :=
        (Dictionary.addAll_append hl news).trans hadd
      have hmatch := matchAt_eq hg hl₁ hsuffix
      obtain ⟨n, hn⟩ : ∃ n, reach content (calls ++ (received ++ news)) (l :: ls) = n := ⟨_, rfl⟩
      rw [hn] at hmatch
      obtain ⟨⟨set, c₁⟩, hset⟩ : ∃ x, c.setOf document a.output = x := ⟨_, rfl⟩
      have hgrown₁ : c.Grown c₁ [] [] := by
        simpa only [hset] using c.grown_setOf document a.output
      have htail : ls <:+ Lexeme.scan content := (List.suffix_cons l ls).trans hsuffix
      rcases Nat.eq_zero_or_pos n with h0 | hpos
      · rw [if_pos h0] at hmatch
        obtain ⟨refs, s₂, t₂, c₂, hscan, hR₂, hgrown⟩ :=
          scan_follows a document total hahead hg ls _ locals₁ s₁ t₁ c₁ htail hl₁ hR₁
        refine ⟨refs, s₂, t₂, c₂, (scan_cons_of_none hfed hset hmatch).trans hscan, hR₂, ?_⟩
        rw [findings_cons_of_zero hask (by rw [List.append_assoc, hn, h0]), List.append_assoc]
        simpa [hgrown₁.nextId] using hgrown₁.trans hgrown
      · have h0 := Nat.ne_of_gt hpos
        rw [if_neg h0] at hmatch
        obtain ⟨es, hes⟩ : ∃ es, namedBy (calls ++ (received ++ news)) (covered content (l :: ls) n)
          = es := ⟨_, rfl⟩
        rw [hes] at hmatch
        obtain ⟨⟨marked, c₂⟩, hmark⟩ : ∃ x, a.mark set l.start (stopOf (l :: ls) n) es c₁ = x :=
          ⟨_, rfl⟩
        have hgrown₂ : c₁.Grown c₂ marked
            (a.marks c₁.nextId (es.map (Finding.mk l.start (stopOf (l :: ls) n)))) := by
          simpa only [hmark] using grown_mark a set l.start (stopOf (l :: ls) n) es c₁
        obtain ⟨refs, s₃, t₃, c₃, hscan, hR₃, hgrown⟩ := scan_follows a document total hahead hg
          (ls.drop (n - 1)) _ locals₁ s₁ t₁ c₂ ((List.drop_suffix _ ls).trans htail) hl₁ hR₁
        refine ⟨marked ++ refs, s₃, t₃, c₃,
          (scan_cons_of_some hfed hset hmatch hmark).trans (Action.map_ok hscan _), hR₃, ?_⟩
        rw [findings_cons_of_ne_zero hask (by rw [List.append_assoc, hn]) h0,
          List.append_assoc, hes, marks_append]
        simpa [hgrown₁.nextId, hgrown₂.nextId] using hgrown₁.trans (hgrown₂.trans hgrown)
termination_by lexemes => lexemes.length
decreasing_by
  · simp
  · simp only [List.length_drop, List.length_cons]; omega

theorem fed_none (window : List String) (locals : Dictionary) (s : σ) (c : Corpus) :
    fed none window locals (s, c) = .ok locals (s, c) := rfl

/-- A document that the feeder adds nothing to. -/
theorem annotate_unfed {feeding : Feeding σ} {document : Document} {s s₁ : σ}
    (hbegin : feeding.begin document s = .ok false s₁) {calls : List Entity}
    {globals : Dictionary} (hg : Dictionary.empty.addAll calls = .ok globals) (a : Annotator)
    (c : Corpus) :
    ∃ refs c', a.annotate globals feeding document (s, c) = .ok refs (s₁, c') ∧
      c.Grown c' refs (a.marks c.nextId
        (found a.lookahead document.content silent none calls)) := by
  have hahead : ∀ {s : σ} {t : Unit}, s = s₁ → ∀ window,
      (∀ w ∈ window, Lexeme.IsWord w.toList) → ∀ locals (c : Corpus), ∃ s' locals',
        fed none window locals (s, c) = .ok locals' (s', c) ∧
          locals.addAll (silent window t).1 = .ok locals' ∧ s' = s₁ :=
    fun {s _} h window _ locals c => ⟨s, locals, fed_none window locals s c, rfl, h⟩
  obtain ⟨refs, s₂, _, c₂, hscan, rfl, hgrown⟩ := scan_follows a document
    (Lexeme.scan document.content.toList).length (R := fun s _ => s = s₁) hahead hg
    (Lexeme.scan document.content.toList) [] .empty s₁ () c List.suffix_rfl rfl rfl
  refine ⟨refs, c₂, ?_, by simpa [found] using hgrown⟩
  rw [annotate, Action.bind_ok (Action.onFirst_ok hbegin c)]
  exact hscan

/-- A document that the feeder adds to. -/
theorem annotate_fed {feeding : Feeding σ} {document : Document}
    {ask : List String → τ → List Entity × τ} {R : σ → τ → Prop}
    (hfeed : feeding.Follows document ask R) {s s₁ : σ} {t : τ}
    (hbegin : feeding.begin document s = .ok true s₁) (hR : R s₁ t) {calls : List Entity}
    {globals : Dictionary} (hg : Dictionary.empty.addAll calls = .ok globals) (a : Annotator)
    (c : Corpus) :
    ∃ refs s' c', a.annotate globals feeding document (s, c) = .ok refs (s', c') ∧
      c.Grown c' refs (a.marks c.nextId
        (found a.lookahead document.content ask (some t) calls)) := by
  have hahead : ∀ {s t}, R s t → ∀ window, (∀ w ∈ window, Lexeme.IsWord w.toList) →
      ∀ locals (c : Corpus), ∃ s' locals',
        fed (some (feeding.feedAhead document)) window locals (s, c) = .ok locals' (s', c) ∧
          locals.addAll (ask window t).1 = .ok locals' ∧ R s' (ask window t).2 := by
    intro s t hR window hwords locals c
    obtain ⟨s', locals', hahead, hadd, hR'⟩ := hfeed.ahead hR window hwords locals
    exact ⟨s', locals', fed_some hahead c, hadd, hR'⟩
  obtain ⟨refs, s₂, t₂, c₂, hscan, hR₂, hgrown⟩ := scan_follows a document
    (Lexeme.scan document.content.toList).length hahead hg
    (Lexeme.scan document.content.toList) [] .empty s₁ t c List.suffix_rfl rfl hR
  obtain ⟨s₃, hfinish⟩ := hfeed.finish hR₂
  refine ⟨refs, s₃, c₂, ?_, by simpa [found] using hgrown⟩
  rw [annotate, Action.bind_ok (Action.onFirst_ok hbegin c)]
  exact Action.ensuring_ok hscan (Action.onFirst_ok hfinish c₂)

/-- **Annotating a document is the greedy search.** Whatever records a dictionary was built from
and whatever the feeder answers, a document is annotated to its end; the annotations returned are
those of what the greedy search finds, and no others are made. -/
theorem execute_eq_greedy {feeding : Feeding σ} {document : Document}
    {ask : List String → τ → List Entity × τ} {R : σ → τ → Prop}
    (hfeed : feeding.Follows document ask R) {s s₁ : σ} {start : Option τ}
    (hbegin : feeding.begin document s = .ok start.isSome s₁) (hstart : ∀ t ∈ start, R s₁ t)
    {calls : List Entity} {globals : Dictionary}
    (hglobals : Dictionary.empty.addAll calls = .ok globals) (a : Annotator) (c : Corpus) :
    ∃ refs s' c', a.execute (some globals) feeding document (s, c) = .ok refs (s', c') ∧
      refs.map c'.markAt
        = a.marks c.nextId (found a.lookahead document.content ask start calls) ∧
      c'.annotations.toList = c.annotations.toList ++ refs.map c'.markAt := by
  cases start with
  | none =>
    obtain ⟨refs, c', hrun, hgrown⟩ := annotate_unfed hbegin hglobals a c
    refine ⟨refs, s₁, c', hrun, hgrown.map_markAt, ?_⟩
    rw [hgrown.map_markAt, hgrown.annotations]
  | some t =>
    obtain ⟨refs, s', c', hrun, hgrown⟩ :=
      annotate_fed hfeed hbegin (hstart t rfl) hglobals a c
    refine ⟨refs, s', c', hrun, hgrown.map_markAt, ?_⟩
    rw [hgrown.map_markAt, hgrown.annotations]

/-- A feeder that knows a place, and hands it on when its first word comes next. -/
def guide (place : Entity) (window : List String) (asked : Nat) : List Entity × Nat :=
  (if window.head? = some "New" then [place] else [], asked + 1)

/-- The longer alias comes late, from the feeder, and wins over the shorter one. -/
theorem execute_new_york :
    ∃ refs s' c', execute { directory := default }
        (some ((Dictionary.empty.insert "york" (.ofStrings "y" "city" "York")).insert "new york"
          (.ofStrings "n" "city" "new York")))
        (Feeding.answering (guide (.ofStrings "m" "city" "New York"))) ⟨0, 0, "a", "in New  York"⟩
        (0, {}) = .ok refs (s', c') ∧
      refs.map c'.markAt
        = [⟨1, "Lookup", 3, 12, [("inst", .string "n"), ("class", .string "city"),
            ("alias", .string "new York")]⟩,
          ⟨2, "Lookup", 3, 12, [("inst", .string "m"), ("class", .string "city"),
            ("alias", .string "New York")]⟩] := by
  have htexts : ∀ window asked, ∀ e ∈ (guide (.ofStrings "m" "city" "New York") window asked).1,
      e.key?.isSome := by
    intro window asked e he
    rw [guide] at he
    split at he <;> simp_all
  have hbegin : (Feeding.answering (guide (.ofStrings "m" "city" "New York"))).begin
      ⟨0, 0, "a", "in New  York"⟩ 0 = .ok (some 0).isSome 0 := rfl
  have hglobals : Dictionary.empty.addAll [.ofStrings "y" "city" "York",
      .ofStrings "b" "none" " - ", .ofStrings "n" "city" "new York"]
      = .ok ((Dictionary.empty.insert "york" (.ofStrings "y" "city" "York")).insert "new york"
        (.ofStrings "n" "city" "new York")) := by with_unfolding_all rfl
  obtain ⟨refs, s', c', hrun, hmarks, -⟩ :=
    execute_eq_greedy (Feeding.answering_follows htexts ⟨0, 0, "a", "in New  York"⟩) hbegin
      (fun t ht => by simpa using ht) hglobals { directory := default } {}
  exact ⟨refs, s', c', hrun, hmarks.trans (by with_unfolding_all rfl)⟩

end Annotator

end Gazetteer
