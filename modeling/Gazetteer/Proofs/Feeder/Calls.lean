import Gazetteer.Feeder.Basic
import Gazetteer.Proofs.Feeder.Session

/-!
# Proofs/Feeder/Calls — calls about documents, one after the other

A document makes three kinds of calls to a feeder: it begins, it has lexemes ahead, and it ends.
`steps` is the run of any sequence of such calls, about any documents: one `Step` for each call,
with what it gave and the states around it. A run is the same seen through a map of states that
every call goes along with (`steps_map`), and so a feeder that looks up labels is its sessions
(`Feeder.goesAlong_perform_label`).
-/

namespace Gazetteer

open Gazetteer.Action

/-- A call about a document. -/
inductive DocumentCall where
  | begin
  /-- The lexemes that lie ahead. -/
  | ahead (lexemes : List String)
  | finish
deriving Repr, DecidableEq

/-- How a feeder with states of type `σ` takes the calls about documents. -/
structure DocumentFeed (σ : Type) where
  begin : Document → Action σ Bool
  checkpoint : Document → List String → Action σ (List Entity)
  finish : Document → Action σ Unit

/-- The calls to sessions. -/
def Sessions.feed {σ S : Type} (ops : SessionOps σ S) : DocumentFeed (σ × Sessions S) :=
  ⟨Sessions.begin ops, Sessions.checkpoint ops, Sessions.finish ops⟩

/-- The calls to a feeder. -/
def Feeder.feed : DocumentFeed (Site × Feeder) :=
  ⟨Feeder.begin, Feeder.checkpoint, Feeder.finish⟩

/-- Makes a call. The records for lexemes ahead are handed to the document's listener; a document
that begins gets an answer. -/
def DocumentFeed.perform {σ ℓ : Type} (feed : DocumentFeed σ) (listener : Document → Listener ℓ)
    (document : Document) : DocumentCall → Action (σ × ℓ) (Option Bool)
  | .begin => some <$> onFirst (feed.begin document)
  | .ahead lexemes => do
    let records ← onFirst (feed.checkpoint document lexemes)
    onSecond (handAll (listener document) records)
    return none
  | .finish => do
    onFirst (feed.finish document)
    return none

/-- One call of a run: what it gave, and the states before and after. -/
structure Step (σ : Type) where
  document : Document
  call : DocumentCall
  result : Except Fault (Option Bool)
  before : σ
  after : σ

/-- The calls of some documents, in the order they are made. -/
abbrev Calls := List (Document × DocumentCall)

section Runs

variable {σ τ : Type} (act : Document → DocumentCall → Action σ (Option Bool))

/-- The step that a call takes from a state. -/
def stepAt (s : σ) (document : Document) (call : DocumentCall) : Step σ where
  document
  call
  result := (outcome (act document call) s).1
  before := s
  after := (outcome (act document call) s).2

/-- The steps of a run of calls. -/
def steps : σ → Calls → List (Step σ)
  | _, [] => []
  | s, (document, call) :: rest =>
    stepAt act s document call :: steps (stepAt act s document call).after rest

/-- The state that a run of calls leaves. -/
def reached : σ → Calls → σ
  | s, [] => s
  | s, (document, call) :: rest => reached (stepAt act s document call).after rest

theorem steps_append : ∀ (s : σ) (calls rest : Calls),
    steps act s (calls ++ rest) = steps act s calls ++ steps act (reached act s calls) rest
  | _, [], _ => rfl
  | s, (document, call) :: calls, rest => by
      simp only [List.cons_append, steps, reached, steps_append _ calls rest]

theorem reached_append : ∀ (s : σ) (calls rest : Calls),
    reached act s (calls ++ rest) = reached act (reached act s calls) rest
  | _, [], _ => rfl
  | s, (document, call) :: calls, rest => by
      simp only [List.cons_append, reached, reached_append _ calls rest]

/-- **A step of a run** is a call on the state that the calls before it left. -/
theorem exists_of_steps_eq_append {before after : List (Step σ)} {step : Step σ} :
    ∀ {calls : Calls} {s : σ}, steps act s calls = before ++ step :: after →
      ∃ earlier document call later, calls = earlier ++ (document, call) :: later ∧
        before = steps act s earlier ∧ step = stepAt act (reached act s earlier) document call
  | [], _, h => absurd h (by simp [steps])
  | (document, call) :: rest, s, h => by
      cases before with
      | nil => exact ⟨[], document, call, rest, rfl, rfl, (List.cons.inj h).1.symm⟩
      | cons first before =>
        obtain ⟨rfl, hrest⟩ := List.cons.inj h
        obtain ⟨earlier, document', call', later, rfl, rfl, rfl⟩ := exists_of_steps_eq_append hrest
        exact ⟨(document, call) :: earlier, document', call', later, rfl, rfl, rfl⟩

theorem mem_calls_of_mem_steps {step : Step σ} {calls : Calls} {s : σ}
    (h : step ∈ steps act s calls) : (step.document, step.call) ∈ calls := by
  obtain ⟨before, after, hsteps⟩ := List.append_of_mem h
  obtain ⟨earlier, document, call, later, rfl, -, rfl⟩ := exists_of_steps_eq_append act hsteps
  simp [stepAt]

/-- A step, seen through a map of states. -/
def Step.map (f : σ → τ) (step : Step σ) : Step τ :=
  ⟨step.document, step.call, step.result, f step.before, f step.after⟩

variable {act} {act' : Document → DocumentCall → Action τ (Option Bool)} {f : σ → τ}
variable (h : ∀ document call, GoesAlong f (act document call) (act' document call))

include h

theorem stepAt_map (s : σ) (document : Document) (call : DocumentCall) :
    stepAt act' (f s) document call = (stepAt act s document call).map f := by
  rw [stepAt, h document call s]
  rfl

/-- **A run seen through a map of states** that every call goes along with. -/
theorem steps_map : ∀ (calls : Calls) (s : σ),
    steps act' (f s) calls = (steps act s calls).map (Step.map f)
  | [], _ => rfl
  | (document, call) :: rest, s => by
      have ih := steps_map rest (stepAt act s document call).after
      rw [steps, steps, stepAt_map h, List.map_cons, ← ih]
      rfl

theorem reached_map : ∀ (calls : Calls) (s : σ),
    reached act' (f s) calls = f (reached act s calls)
  | [], _ => rfl
  | (document, call) :: rest, s => by
      rw [reached, reached, stepAt_map h]
      exact reached_map rest _

end Runs

/-! ## What a call does -/

section Perform

variable {σ τ ℓ : Type} {feed : DocumentFeed σ} {feed' : DocumentFeed τ}
  {listener : Document → Listener ℓ} {f : σ → τ}

/-- What a call gives and leaves, with the feeder's part of it done: the records, if there are any,
are handed over. -/
def handed (listener : Listener ℓ) (result : Except Fault (List Entity) × σ) (l : ℓ) :
    Except Fault (Option Bool) × (σ × ℓ) :=
  match result with
  | (.error fault, s) => (.error fault, s, l)
  | (.ok records, s) =>
    ((outcome (handAll listener records) l).1.map fun _ => none, s,
      (outcome (handAll listener records) l).2)

theorem outcome_perform_begin (document : Document) (s : σ) (l : ℓ) :
    outcome (feed.perform listener document .begin) (s, l)
      = ((outcome (feed.begin document) s).1.map some,
        (outcome (feed.begin document) s).2, l) := by
  rw [DocumentFeed.perform, outcome_map, outcome_onFirst]

theorem outcome_perform_ahead (document : Document) (lexemes : List String) (s : σ) (l : ℓ) :
    outcome (feed.perform listener document (.ahead lexemes)) (s, l)
      = handed (listener document) (outcome (feed.checkpoint document lexemes) s) l := by
  rw [DocumentFeed.perform, outcome_bind, outcome_onFirst]
  rcases outcome (feed.checkpoint document lexemes) s with ⟨fault | records, s'⟩
  · rfl
  · simp only [handed, outcome_bind, outcome_onSecond]
    rcases outcome (handAll (listener document) records) l with ⟨fault | _, l'⟩ <;> rfl

theorem outcome_perform_finish (document : Document) (s : σ) (l : ℓ) :
    outcome (feed.perform listener document .finish) (s, l)
      = ((outcome (feed.finish document) s).1.map fun _ => none,
        (outcome (feed.finish document) s).2, l) := by
  rw [DocumentFeed.perform, outcome_bind, outcome_onFirst]
  rcases outcome (feed.finish document) s with ⟨fault | _, s'⟩ <;> rfl

/-- **Feeders that go along with a map of states** do so with every call, whoever listens. -/
theorem goesAlong_perform
    (hbegin : ∀ document, GoesAlong f (feed.begin document) (feed'.begin document))
    (hahead : ∀ document lexemes,
      GoesAlong f (feed.checkpoint document lexemes) (feed'.checkpoint document lexemes))
    (hfinish : ∀ document, GoesAlong f (feed.finish document) (feed'.finish document))
    (document : Document) (call : DocumentCall) :
    GoesAlong (Prod.map f id) (feed.perform listener document call)
      (feed'.perform listener document call) := by
  rintro ⟨s, l⟩
  cases call with
  | begin =>
    simp only [Prod.map, id, outcome_perform_begin, hbegin document s]
  | ahead lexemes =>
    simp only [Prod.map, id, outcome_perform_ahead, hahead document lexemes s]
    rcases outcome (feed.checkpoint document lexemes) s with ⟨fault | records, s'⟩ <;> rfl
  | finish =>
    simp only [Prod.map, id, outcome_perform_finish, hfinish document s]

end Perform

/-- A site with the sessions of a feeder that looks up labels, as a site with this feeder. -/
def LabelFeeder.withSessions (feeder : LabelFeeder)
    (s : Site × Sessions (ConnectionId × LabelSession)) : Site × Feeder :=
  (s.1, .label { feeder with sessions := s.2 })

/-! ## The feeder that looks up labels is its sessions -/

namespace LabelFeeder

variable (feeder : LabelFeeder) (document : Document)

theorem goesAlong_onLabelSessions {α : Type}
    (action : Action (Site × Sessions (ConnectionId × LabelSession)) α)
    (s : Site × Sessions (ConnectionId × LabelSession)) :
    outcome (Feeder.onLabelSessions { feeder with sessions := s.2 } action) (feeder.withSessions s)
      = ((outcome action s).1, feeder.withSessions (outcome action s).2) := outcome_zoom _ _ _ _

theorem goesAlong_begin : GoesAlong feeder.withSessions
    (Sessions.begin feeder.ops document) (Feeder.begin document) :=
  fun s => feeder.goesAlong_onLabelSessions _ s

theorem goesAlong_checkpoint (ahead : List String) : GoesAlong feeder.withSessions
    (Sessions.checkpoint feeder.ops document ahead) (Feeder.checkpoint document ahead) :=
  fun s => feeder.goesAlong_onLabelSessions _ s

theorem goesAlong_finish : GoesAlong feeder.withSessions
    (Sessions.finish feeder.ops document) (Feeder.finish document) :=
  fun s => feeder.goesAlong_onLabelSessions _ s

end LabelFeeder

/-- **The feeder that looks up labels** takes each call as its sessions do. -/
theorem Feeder.goesAlong_perform_label {ℓ : Type} (listener : Document → Listener ℓ)
    (feeder : LabelFeeder) (document : Document) (call : DocumentCall) :
    GoesAlong (Prod.map feeder.withSessions id)
      ((Sessions.feed feeder.ops).perform listener document call)
      (Feeder.feed.perform listener document call) :=
  goesAlong_perform feeder.goesAlong_begin feeder.goesAlong_checkpoint feeder.goesAlong_finish
    document call

end Gazetteer
