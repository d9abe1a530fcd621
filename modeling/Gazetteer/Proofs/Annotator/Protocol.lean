import Gazetteer.Proofs.Annotator.OnDemand
import Gazetteer.Proofs.Annotator.Search
import Gazetteer.Proofs.Feeder.FeedAll

/-!
# Proofs/Annotator/Protocol — the calls that a feeder gets for a document

`Feeding.logged` is a feeder that keeps a log of its calls, each with what came of it, and is the
same otherwise (`goesAlong_logged`). `Protocol` says which log annotating a document leaves, and how
it then ends.

The feeder is asked where the greedy search comes by, and `Visits` goes along with that search: the
next place depends on what the listener has after the call, so the call comes before the match. A
place of the search is one constructor of `Visits`, and the run is `search_visits`.
-/

namespace Gazetteer

open Gazetteer.Action

variable {σ τ : Type}

/-! ## A feeder that keeps a log -/

/-- A call that a feeder gets for a document, with what came of it. A call when lexemes lie ahead
has a listener: the dictionary as it was before the call, and as it was after it. -/
inductive FeederCall where
  | begin (document : Document) (result : Except Fault Bool)
  | ahead (document : Document) (window : List String) (before : Dictionary)
    (result : Except Fault Unit) (after : Dictionary)
  | finish (document : Document) (result : Except Fault Unit)

/-- Runs an action and writes down how it ended, whichever way. -/
def Action.recorded {α ι : Type} (action : Action σ α) (entry : σ → Except Fault α → σ → ι) :
    Action (σ × List ι) α := do
  let (before, _) ← get
  let result ← Action.attempt (Action.onFirst action)
  modify fun (after, log) => (after, log ++ [entry before result after])
  Action.ofExcept result

theorem Action.outcome_recorded {α ι : Type} (action : Action σ α)
    (entry : σ → Except Fault α → σ → ι) (s : σ) (log : List ι) :
    outcome (action.recorded entry) (s, log)
      = ((outcome action s).1, (outcome action s).2,
        log ++ [entry s (outcome action s).1 (outcome action s).2]) := by
  rw [recorded, outcome_get_bind, outcome_bind, outcome_attempt, outcome_onFirst]
  exact outcome_ofExcept _ _

/-- A feeder that keeps a log of the calls for documents. -/
def Feeding.logged (feeding : Feeding σ) : Feeding (σ × List FeederCall) where
  setUp options := Action.onFirst (feeding.setUp options)
  feedAll := Action.zoom (fun ((s, _), d) => (s, d)) (fun (s, d) ((_, log), _) => ((s, log), d))
    feeding.feedAll
  begin document := (feeding.begin document).recorded fun _ result _ => .begin document result
  feedAhead document window :=
    Action.zoom (fun ((s, log), d) => ((s, d), log)) (fun ((s, d), log) _ => ((s, log), d))
      ((feeding.feedAhead document window).recorded fun (_, before) result (_, after) =>
        .ahead document window before result after)
  finish document := (feeding.finish document).recorded fun _ result _ => .finish document result

theorem Feeding.outcome_logged_begin (feeding : Feeding σ) (document : Document) (s : σ)
    (log : List FeederCall) :
    outcome (feeding.logged.begin document) (s, log)
      = ((outcome (feeding.begin document) s).1, (outcome (feeding.begin document) s).2,
        log ++ [.begin document (outcome (feeding.begin document) s).1]) := by
  rw [logged, outcome_recorded]

theorem Feeding.outcome_logged_finish (feeding : Feeding σ) (document : Document) (s : σ)
    (log : List FeederCall) :
    outcome (feeding.logged.finish document) (s, log)
      = ((outcome (feeding.finish document) s).1, (outcome (feeding.finish document) s).2,
        log ++ [.finish document (outcome (feeding.finish document) s).1]) := by
  rw [logged, outcome_recorded]

theorem Feeding.outcome_logged_feedAhead (feeding : Feeding σ) (document : Document)
    (window : List String) (s : σ) (log : List FeederCall) (d : Dictionary) :
    outcome (feeding.logged.feedAhead document window) ((s, log), d)
      = ((outcome (feeding.feedAhead document window) (s, d)).1,
        ((outcome (feeding.feedAhead document window) (s, d)).2.1,
          log ++ [.ahead document window d (outcome (feeding.feedAhead document window) (s, d)).1
            (outcome (feeding.feedAhead document window) (s, d)).2.2]),
        (outcome (feeding.feedAhead document window) (s, d)).2.2) := by
  rw [logged, outcome_zoom, outcome_recorded]

/-- Whether a feeder does what another does to its states seen through a map, in a document. -/
structure Feeding.Along (f : σ → τ) (feeding : Feeding σ) (feeding' : Feeding τ)
    (document : Document) : Prop where
  begin : GoesAlong f (feeding.begin document) (feeding'.begin document)
  ahead : ∀ window, GoesAlong (Prod.map f id) (feeding.feedAhead document window)
    (feeding'.feedAhead document window)
  finish : GoesAlong f (feeding.finish document) (feeding'.finish document)

/-- **The log changes nothing**: a feeder does what it does with a log, and the log forgotten. -/
theorem Feeding.along_logged (feeding : Feeding σ) (document : Document) :
    feeding.logged.Along Prod.fst feeding document where
  begin := by
    rintro ⟨s, log⟩
    rw [outcome_logged_begin]
  ahead := by
    rintro window ⟨⟨s, log⟩, d⟩
    rw [outcome_logged_feedAhead]
    rfl
  finish := by
    rintro ⟨s, log⟩
    rw [outcome_logged_finish]

namespace Annotator

section Along

variable {f : σ → τ} {feeding : Feeding σ} {feeding' : Feeding τ} {document : Document}

theorem goesAlong_heard {feedAhead : List String → Action (σ × Dictionary) Unit}
    {feedAhead' : List String → Action (τ × Dictionary) Unit}
    (h : ∀ window, GoesAlong (Prod.map f id) (feedAhead window) (feedAhead' window))
    (window : List String) (locals : Dictionary) :
    GoesAlong f (heard (some feedAhead) window locals) (heard (some feedAhead') window locals) := by
  intro s
  have hs : outcome (feedAhead' window) (f s, locals) = _ := h window (s, locals)
  rw [outcome_heard_some, outcome_heard_some, hs]
  rfl

theorem goesAlong_scan (a : Annotator) (globals : Dictionary) (document : Document) (total : Nat)
    {feedAhead : Option (List String → Action (σ × Dictionary) Unit)}
    {feedAhead' : Option (List String → Action (τ × Dictionary) Unit)}
    (h : ∀ window locals, GoesAlong f (heard feedAhead window locals)
      (heard feedAhead' window locals)) :
    ∀ (lexemes : List Lexeme) (locals : Dictionary),
      GoesAlong (Prod.map f id) (a.scan globals document total feedAhead locals lexemes)
        (a.scan globals document total feedAhead' locals lexemes)
  | [], locals => by
      rw [scan, scan]
      exact goesAlong_pure []
  | l :: ls, locals => by
      rintro ⟨s, c⟩
      have hs := h (windowOf total a.lookahead (l :: ls)) locals s
      rcases hheard : outcome (heard feedAhead (windowOf total a.lookahead (l :: ls)) locals) s with
        ⟨fault | locals', s'⟩
      · rw [hheard] at hs
        rw [outcome_scan_of_error hheard]
        exact outcome_scan_of_error hs
      · rw [hheard] at hs
        obtain ⟨⟨set, c₁⟩, hset⟩ : ∃ x, c.setOf document a.output = x := ⟨_, rfl⟩
        rw [outcome_scan_of_ok hheard hset]
        refine (outcome_scan_of_ok hs hset).trans ?_
        rcases matchAt globals locals' (l :: ls) with _ | ⟨n, es⟩
        · exact goesAlong_scan a globals document total h ls locals' (s', c₁)
        · have hrest := goesAlong_scan a globals document total h (ls.drop (n - 1)) locals'
            (s', (a.mark set l.start (stopOf (l :: ls) n) es c₁).2)
          rw [Prod.map, id] at hrest
          simp only [outcome_map, hrest]
termination_by lexemes => lexemes.length
decreasing_by
  · simp
  · simp only [List.length_drop, List.length_cons]; omega

/-- **Annotating goes along** with what the feeder does. -/
theorem goesAlong_execute (h : feeding.Along f feeding' document) (a : Annotator)
    (dictionary : Option Dictionary) :
    GoesAlong (Prod.map f id) (a.execute dictionary feeding document)
      (a.execute dictionary feeding' document) := by
  cases dictionary with
  | none => exact goesAlong_throw _
  | some globals =>
    refine (goesAlong_onFirst h.begin).bind fun fed => ?_
    cases fed with
    | false => exact goesAlong_scan a globals document _ (fun _ locals => goesAlong_pure locals) _ _
    | true =>
      have hscan := goesAlong_scan a globals document (Lexeme.scan document.content.toList).length
        (goesAlong_heard h.ahead) (Lexeme.scan document.content.toList) .empty
      exact hscan.ensuring (goesAlong_onFirst h.finish)

end Along

/-! ## The places where a feeder is asked -/

/-- What is found at the beginning of some lexemes: the longest alias there, for every record. -/
def foundAt (content : List Char) (candidates : List Entity) : List Lexeme → List Finding
  | [] => []
  | l :: ls =>
    let n := reach content candidates (l :: ls)
    if n = 0 then []
    else (namedBy candidates (covered content (l :: ls) n)).map
      (Finding.mk l.start (stopOf (l :: ls) n))

/-- A place of a document where the feeder is asked: what its listener has before and after, and
how the call ends. -/
structure Visit where
  place : Nat
  before : Dictionary
  result : Except Fault Unit
  after : Dictionary

namespace Visit

/-- The lexemes that lie ahead: as many as the lookahead says, or all there are. -/
def window (lookahead : Int) (content : List Char) (v : Visit) : List String :=
  (((Lexeme.scan content).drop v.place).take lookahead.toNat).map fun l => String.ofList l.text

/-- The call that the feeder gets. -/
def call (lookahead : Int) (document : Document) (v : Visit) : FeederCall :=
  .ahead document (v.window lookahead document.content.toList) v.before v.result v.after

/-- What is found at the place after a call that did not fail, with what the listener then has. -/
def found (globals : Dictionary) (content : List Char) (v : Visit) : List Finding :=
  match v.result with
  | .error _ => []
  | .ok () => foundAt content (globals.records ++ v.after.records)
      ((Lexeme.scan content).drop v.place)

end Visit

/-- The places where a feeder is asked, from a place on and with what its listener has until then:
the first one is this place, unless the document ends there. If the call fails there are no others;
else the search goes on behind the longest alias at the place, or by one lexeme if there is none,
and the listener stays the same. -/
inductive Visits (globals : Dictionary) (content : List Char) :
    Nat → Dictionary → List Visit → Prop where
  | done {place : Nat} {locals : Dictionary} : (Lexeme.scan content).length ≤ place →
      Visits globals content place locals []
  | failed {place : Nat} {locals after : Dictionary} {fault : Fault} :
      place < (Lexeme.scan content).length →
      Visits globals content place locals [⟨place, locals, .error fault, after⟩]
  | next {place : Nat} {locals after : Dictionary} {rest : List Visit} :
      place < (Lexeme.scan content).length →
      Visits globals content (place + max 1 (reach content (globals.records ++ after.records)
        ((Lexeme.scan content).drop place))) after rest →
      Visits globals content place locals (⟨place, locals, .ok (), after⟩ :: rest)

/-- How the last call of some visits ended. -/
def lastResult (visits : List Visit) : Except Fault Unit :=
  (visits.getLast?.map Visit.result).getD (.ok ())

namespace Visits

variable {globals : Dictionary} {content : List Char} {place : Nat} {locals : Dictionary}
  {visits : List Visit}

theorem place_lt (h : Visits globals content place locals visits) :
    ∀ v ∈ visits, place ≤ v.place ∧ v.place < (Lexeme.scan content).length := by
  induction h with
  | done _ => simp
  | failed hlt => simpa using hlt
  | next hlt _ ih =>
    intro v hv
    rcases List.mem_cons.mp hv with rfl | hv
    · exact ⟨Nat.le_refl _, hlt⟩
    · obtain ⟨hle, hlt'⟩ := ih v hv
      exact ⟨by omega, hlt'⟩

/-- **The places come in order**, none of them twice. -/
theorem increasing (h : Visits globals content place locals visits) :
    (visits.map Visit.place).Pairwise (· < ·) := by
  induction h with
  | done _ => exact List.Pairwise.nil
  | failed _ => exact List.pairwise_singleton _ _
  | next hlt hrest ih =>
    refine List.pairwise_cons.mpr ⟨fun p hp => ?_, ih⟩
    obtain ⟨v, hv, rfl⟩ := List.mem_map.mp hp
    have := (hrest.place_lt v hv).1
    simp only []
    omega

/-- **There is always a lexeme ahead.** -/
theorem window_ne_nil (h : Visits globals content place locals visits) {lookahead : Int}
    (hlookahead : 1 ≤ lookahead) : ∀ v ∈ visits, v.window lookahead content ≠ [] := by
  intro v hv
  have hlt := (h.place_lt v hv).2
  rw [← List.length_pos_iff, Visit.window, List.length_map, List.length_take, List.length_drop]
  omega

theorem lastResult_cons_ok (place : Nat) (before after : Dictionary) (rest : List Visit) :
    lastResult (⟨place, before, .ok (), after⟩ :: rest) = lastResult rest := by
  cases rest with
  | nil => rfl
  | cons v rest => simp [lastResult, List.getLast?_cons_cons]

end Visits

/-! ## The search goes from visit to visit -/

section Search

variable {feeding : Feeding σ} {document : Document} {a : Annotator} {globals : Dictionary}
  {place : Nat} {l : Lexeme} {ls : List Lexeme}

/-- The window of the search is the one of the visit. -/
theorem windowOf_eq_window (hlookahead : 1 ≤ a.lookahead) {content : List Char}
    (hplace : (Lexeme.scan content).drop place = l :: ls) (v : Visit) (hv : v.place = place) :
    windowOf (Lexeme.scan content).length a.lookahead (l :: ls) = v.window a.lookahead content := by
  have hsuffix : l :: ls <:+ Lexeme.scan content := hplace ▸ List.drop_suffix place _
  rw [windowOf_eq (by omega) hsuffix.length_le, Visit.window, hv, hplace]

/-- The feeder is asked at a place, and the call is in the log. -/
theorem outcome_heard_logged (hlookahead : 1 ≤ a.lookahead)
    (hplace : (Lexeme.scan document.content.toList).drop place = l :: ls)
    {v : Visit} (hv : v.place = place) {s s' : σ}
    (hcall : outcome (feeding.feedAhead document (v.window a.lookahead document.content.toList))
      (s, v.before) = (v.result, s', v.after)) (log : List FeederCall) :
    outcome (heard (some (feeding.logged.feedAhead document))
        (windowOf (Lexeme.scan document.content.toList).length a.lookahead (l :: ls)) v.before)
        (s, log)
      = (v.result.map fun _ => v.after, s', log ++ [v.call a.lookahead document]) := by
  rw [windowOf_eq_window hlookahead hplace v hv, outcome_heard_some,
    Feeding.outcome_logged_feedAhead]
  simp only [hcall]
  rfl

/-- **Step**: where the call fails, the search ends. -/
theorem outcome_search_of_failed (hlookahead : 1 ≤ a.lookahead)
    (hplace : (Lexeme.scan document.content.toList).drop place = l :: ls)
    {locals after : Dictionary} {fault : Fault} {v : Visit}
    (hv : v = ⟨place, locals, .error fault, after⟩) {s s' : σ}
    (hcall : outcome (feeding.feedAhead document (v.window a.lookahead document.content.toList))
      (s, locals) = (.error fault, s', after)) (log : List FeederCall) (found : List Finding) :
    outcome (a.search globals (Lexeme.scan document.content.toList).length
        (some (feeding.logged.feedAhead document)) locals (l :: ls)) ((s, log), found)
      = (.error fault, (s', log ++ [v.call a.lookahead document]), found) := by
  subst hv
  rw [outcome_search_cons, outcome_heard_logged hlookahead hplace rfl hcall]
  rfl

/-- **Step**: else it takes what is found at the place after the call, and goes on behind the
longest alias. -/
theorem outcome_search_of_next (hlookahead : 1 ≤ a.lookahead)
    (hg : Dictionary.empty.addAll globals.records = .ok globals)
    (hplace : (Lexeme.scan document.content.toList).drop place = l :: ls)
    {locals after : Dictionary} {received : List Entity}
    (hafter : Dictionary.empty.addAll received = .ok after) {v : Visit}
    (hv : v = ⟨place, locals, .ok (), after⟩) {s s' : σ}
    (hcall : outcome (feeding.feedAhead document (v.window a.lookahead document.content.toList))
      (s, locals) = (.ok (), s', after)) (log : List FeederCall) (found : List Finding) :
    outcome (a.search globals (Lexeme.scan document.content.toList).length
        (some (feeding.logged.feedAhead document)) locals (l :: ls)) ((s, log), found)
      = outcome (a.search globals (Lexeme.scan document.content.toList).length
          (some (feeding.logged.feedAhead document)) after
          ((Lexeme.scan document.content.toList).drop (place + max 1
            (reach document.content.toList (globals.records ++ after.records) (l :: ls)))))
          ((s', log ++ [v.call a.lookahead document]),
            found ++ v.found globals document.content.toList) := by
  subst hv
  have hmatch := matchAt_eq hg (Dictionary.addAll_records hafter)
    (hplace ▸ List.drop_suffix place _)
  rw [outcome_search_cons, outcome_heard_logged hlookahead hplace rfl hcall]
  simp only [Except.map, Visit.found, hplace, foundAt, ← List.drop_drop]
  rcases hn : reach document.content.toList (globals.records ++ after.records) (l :: ls) with _ | n
  · rw [hn] at hmatch
    simp [hmatch]
  · rw [hn] at hmatch
    simp [hmatch]

/-- **Run**: the search asks the feeder at the places that it comes by, and takes what is found
there after each call. -/
theorem search_visits (hadds : ∀ window, Adds (feeding.feedAhead document window))
    (hlookahead : 1 ≤ a.lookahead) (hg : Dictionary.empty.addAll globals.records = .ok globals) :
    ∀ (lexemes : List Lexeme) (place : Nat) (received : List Entity) (locals : Dictionary) (s : σ)
      (log : List FeederCall) (found : List Finding),
      (Lexeme.scan document.content.toList).drop place = lexemes →
      Dictionary.empty.addAll received = .ok locals →
      ∃ visits s', Visits globals document.content.toList place locals visits ∧
        outcome (a.search globals (Lexeme.scan document.content.toList).length
            (some (feeding.logged.feedAhead document)) locals lexemes) ((s, log), found)
          = (lastResult visits, (s', log ++ visits.map (Visit.call a.lookahead document)),
            found ++ visits.flatMap (Visit.found globals document.content.toList))
  | [], place, received, locals, s, log, found, hplace, hl => by
      refine ⟨[], s, .done (List.drop_eq_nil_iff.mp hplace), ?_⟩
      rw [search, List.map_nil, List.flatMap_nil, List.append_nil, List.append_nil]
      rfl
  | l :: ls, place, received, locals, s, log, found, hplace, hl => by
      have hlt : place < (Lexeme.scan document.content.toList).length := by
        refine Nat.lt_of_not_le fun hle => ?_
        rw [List.drop_eq_nil_of_le hle] at hplace
        exact absurd hplace.symm (List.cons_ne_nil l ls)
      obtain ⟨⟨result, s₁, after⟩, hcall⟩ : ∃ x, outcome (feeding.feedAhead document
        (Visit.window a.lookahead document.content.toList ⟨place, locals, .ok (), locals⟩))
        (s, locals) = x := ⟨_, rfl⟩
      cases result with
      | error fault =>
        refine ⟨[⟨place, locals, .error fault, after⟩], s₁, .failed hlt, ?_⟩
        rw [outcome_search_of_failed hlookahead hplace rfl hcall, List.flatMap_singleton]
        simp [lastResult, Visit.found]
      | ok _ =>
        obtain ⟨news, hnews⟩ := hadds
          (Visit.window a.lookahead document.content.toList ⟨place, locals, .ok (), locals⟩)
          s locals
        rw [hcall] at hnews
        have hafter : Dictionary.empty.addAll (received ++ news) = .ok after :=
          (Dictionary.addAll_append hl news).trans hnews
        let v : Visit := ⟨place, locals, .ok (), after⟩
        obtain ⟨rest, s', hrest, hsearch⟩ := search_visits hadds hlookahead hg _ _ _ after s₁
          (log ++ [v.call a.lookahead document])
          (found ++ v.found globals document.content.toList) rfl hafter
        refine ⟨v :: rest, s', .next hlt hrest, ?_⟩
        rw [outcome_search_of_next hlookahead hg hplace hafter rfl hcall, ← hplace, hsearch,
          Visits.lastResult_cons_ok, List.map_cons, List.flatMap_cons, List.append_assoc,
          List.append_assoc]
        rfl
termination_by lexemes => lexemes.length
decreasing_by
  rw [← hplace]
  simp only [List.length_drop]
  omega

end Search

/-! ## All calls for a document -/

/-- What annotating a document comes to between an annotator with a dictionary and its feeder, from
a corpus on: the calls that the feeder gets, how it ends, and the corpus afterwards. -/
inductive Protocol (a : Annotator) (globals : Dictionary) (document : Document) (c : Corpus) :
    List FeederCall → Except Fault (List AnnotationRef) → Corpus → Prop where
  /-- The document cannot begin: the fault is handed on, and nothing else happens. -/
  | refused {fault : Fault} :
      Protocol a globals document c [.begin document (.error fault)] (.error fault) c
  /-- The feeder adds nothing to the document: it is not called again. -/
  | declined {refs : List AnnotationRef} {c' : Corpus}
      (made : c.Grown c' refs (a.marks c.nextId
        (found a.lookahead document.content silent none globals.records))) :
      Protocol a globals document c [.begin document (.ok false)] (.ok refs) c'
  /-- The feeder is asked where the search comes by, and at last the document ends, whatever came
  of the calls before. A fault of these calls is handed on, unless the last one has another. The
  annotations that are made are those of what is found after the calls that did not fail. -/
  | fed {visits : List Visit} {ended : Except Fault Unit} {refs : List AnnotationRef} {c' : Corpus}
      (follows : Visits globals document.content.toList 0 .empty visits)
      (increasing : (visits.map Visit.place).Pairwise (· < ·))
      (windows : ∀ v ∈ visits, v.window a.lookahead document.content.toList ≠ [])
      (made : c.Grown c' refs (a.marks c.nextId
        (visits.flatMap (Visit.found globals document.content.toList)))) :
      Protocol a globals document c
        (.begin document (.ok true) :: visits.map (Visit.call a.lookahead document)
          ++ [.finish document ended])
        (do ended; lastResult visits; return refs) c'

variable {feeding : Feeding σ} {document : Document} {a : Annotator} {globals : Dictionary}

/-- **Surveying a document** that the feeder adds to. -/
theorem survey_logged (hadds : ∀ window, Adds (feeding.feedAhead document window))
    (hlookahead : 1 ≤ a.lookahead) (hg : Dictionary.empty.addAll globals.records = .ok globals)
    {s s₁ : σ} (hbegin : outcome (feeding.begin document) s = (.ok true, s₁)) :
    ∃ visits ended s', Visits globals document.content.toList 0 .empty visits ∧
      outcome (a.survey globals feeding.logged document) ((s, []), [])
        = (do ended; lastResult visits,
          (s', .begin document (.ok true) :: visits.map (Visit.call a.lookahead document)
            ++ [.finish document ended]),
          visits.flatMap (Visit.found globals document.content.toList)) := by
  obtain ⟨visits, s₂, hvisits, hsearch⟩ := search_visits hadds hlookahead hg
    (Lexeme.scan document.content.toList) 0 [] .empty s₁ [.begin document (.ok true)] [] rfl rfl
  refine ⟨visits, (outcome (feeding.finish document) s₂).1,
    (outcome (feeding.finish document) s₂).2, hvisits, ?_⟩
  simp only [survey, outcome_bind, outcome_onFirst, Feeding.outcome_logged_begin, hbegin,
    List.nil_append, if_true, outcome_ensuring_eq, hsearch, Feeding.outcome_logged_finish]
  rfl

/-- **The calls of a document.** An annotator with a dictionary annotates a document with a feeder
that does to the dictionary of the document nothing but add records, and may fail whenever it is
called. Whatever the feeder does, its calls and the end they come to follow the protocol, and the
dictionary of the annotator stays what it was. -/
theorem execute_protocol (hadds : ∀ window, Adds (feeding.feedAhead document window))
    (hlookahead : 1 ≤ a.lookahead) {calls : List Entity}
    (hglobals : Dictionary.empty.addAll calls = .ok globals) (s : σ) (c : Corpus) :
    ∃ log result s' c',
      outcome (a.executeIn feeding.logged document) (((s, []), some globals), c)
        = (result, ((s', log), some globals), c') ∧
      outcome (a.executeIn feeding document) ((s, some globals), c)
        = (result, (s', some globals), c') ∧
      Protocol a globals document c log result c' := by
  have hg := Dictionary.addAll_records hglobals
  obtain ⟨result, ⟨s', log⟩, c', hrun, hprotocol⟩ : ∃ result s' c',
      outcome (a.execute (some globals) feeding.logged document) ((s, []), c) = (result, s', c') ∧
      Protocol a globals document c s'.2 result c' := by
    rcases hbegin : outcome (feeding.begin document) s with ⟨fault | fed, s₁⟩
    · refine ⟨.error fault, (s₁, [.begin document (.error fault)]), c, ?_, .refused⟩
      simp only [execute, annotate, outcome_bind, outcome_onFirst, Feeding.outcome_logged_begin,
        hbegin]
      rfl
    cases fed with
    | false =>
      have hlogged : feeding.logged.begin document (s, [])
          = .ok false (s₁, [.begin document (.ok false)]) := eq_ok_of_outcome (by
        rw [Feeding.outcome_logged_begin, hbegin]
        rfl)
      obtain ⟨refs, c', hrun, hgrown⟩ := annotate_unfed hlogged hg a c
      exact ⟨.ok refs, _, c', outcome_ok hrun, .declined hgrown⟩
    | true =>
      obtain ⟨visits, ended, s', hvisits, hsurvey⟩ := survey_logged hadds hlookahead hg hbegin
      obtain ⟨refs, c', hrun, hgrown⟩ :=
        outcome_annotate a globals feeding.logged document (s, []) c
      rw [hsurvey] at hrun hgrown
      have hprotocol : Protocol a globals document c (.begin document (.ok true)
          :: visits.map (Visit.call a.lookahead document) ++ [.finish document ended])
          (do ended; lastResult visits; return refs) c' :=
        .fed hvisits hvisits.increasing (hvisits.window_ne_nil hlookahead) hgrown
      refine ⟨_, _, c', hrun, ?_⟩
      have hresult : (do ended; lastResult visits; return refs : Except Fault (List AnnotationRef))
          = Except.map (fun _ => refs) (do ended; lastResult visits) := by
        rcases ended with fault | _
        · rfl
        · rcases lastResult visits with fault | _ <;> rfl
      rw [← hresult]
      exact hprotocol
  have hplain := goesAlong_execute (feeding.along_logged document) a (some globals) ((s, []), c)
  rw [hrun] at hplain
  refine ⟨log, result, s', c', ?_, ?_, hprotocol⟩
  · rw [outcome_executeIn, hrun]
  · have hexecute : outcome (a.execute (some globals) feeding document) (s, c)
        = (result, s', c') := hplain
    rw [outcome_executeIn, hexecute]

/-- A feeder that hands over a record at the first lexeme of a report, and crashes at another. -/
def stormFeeder : Feeder :=
  .rehearsed { scripts := [("report",
    [⟨"calm", .ok [.ofStrings "b" "place" "Calm Sea"]⟩,
      ⟨"storm", .error (.outside .runtime "crash" none)⟩])] }

/-- The record that comes with the first call leads the search on to the lexeme of the crash. -/
theorem execute_protocol_storm :
    (∀ window, Adds (Feeder.feeding.feedAhead ⟨0, 0, "report", "calm sea storm"⟩ window)) ∧
      1 ≤ Defaults.lookahead ∧
      ∃ globals, Dictionary.empty.addAll [.ofStrings "s" "state" "calm"] = .ok globals ∧
        ∃ log result s' c',
          outcome (executeIn { directory := default } Feeder.feeding.logged
              ⟨0, 0, "report", "calm sea storm"⟩)
              ((((citySite, stormFeeder), []), some globals), {})
            = (result, ((s', log), some globals), c') ∧
          outcome (executeIn { directory := default } Feeder.feeding
              ⟨0, 0, "report", "calm sea storm"⟩) (((citySite, stormFeeder), some globals), {})
            = (result, (s', some globals), c') ∧
          Protocol { directory := default } globals ⟨0, 0, "report", "calm sea storm"⟩ {} log result
            c' := by
  have hadds := Feeder.adds_feedAhead ⟨0, 0, "report", "calm sea storm"⟩
  have hlookahead : 1 ≤ Defaults.lookahead := by decide
  have hglobals : Dictionary.empty.addAll [.ofStrings "s" "state" "calm"]
      = .ok (Dictionary.empty.insert "calm" (.ofStrings "s" "state" "calm")) := by
    with_unfolding_all rfl
  exact ⟨hadds, hlookahead, _, hglobals, execute_protocol hadds hlookahead hglobals _ {}⟩

end Annotator

end Gazetteer
