import Gazetteer.Proofs.Feed.Delivery
import Gazetteer.Proofs.Feed.Push

/-!
# Proofs/Feed/Outcome — how a push ends

A feed that has rows asks its query once and delivers them up to the first bad point, and how the
push ends is known from where the delivery stops (`Yields.run`, `push_pushes`). The feed of the
service makes a failed query of every fault, those of the listener included; the feed of local files
lets a fault of the listener through.
-/

namespace Gazetteer

open Gazetteer.Action Site

/-! ## Rows without a bad point -/

/-- Whether rows have no bad point for a listener: they all carry records, no failure ends them, and
the listener takes the records. -/
def Rows.IsGood {ℓ : Type} (rows : Rows) (listener : Listener ℓ) (l : ℓ) : Prop :=
  rows.failure = none ∧
    ∃ es l', List.Forall₂ Row.Carries rows.rows es ∧ handAll listener es l = .ok () l'

variable {ℓ : Type} {listener : Listener ℓ} {rows : Rows} {l l' : ℓ} {handed : List Entity}
  {stop : Stop}

/-- **A delivery gets behind all rows** just when these have no bad point. -/
theorem Delivered.all_iff (h : Delivered listener rows l handed stop l') :
    stop = .all ↔ rows.IsGood listener l := by
  constructor
  · rintro rfl
    cases h with
    | all hrows hfailure hhand => exact ⟨hfailure, _, _, hrows, hhand⟩
  · rintro ⟨hfailure, es, l'', hrows, hhand⟩
    have hall : Delivered listener rows l es .all l'' := .all hrows hfailure hhand
    have hresult : stop.result id = .ok () := h.outcome_eq.1.symm.trans hall.outcome_eq.1
    cases stop with
    | all => rfl
    | row _ _ | failure _ | refused _ => exact absurd hresult (by simp [Stop.result])

/-- A delivery that stops at a row has come to the row with this number, and the row is bad. -/
theorem Delivered.get_of_row (h : Delivered listener rows l handed stop l') {index : Nat} {r : Row}
    (hstop : stop = .row index r) : rows.rows[index]? = some r ∧ r.IsBad := by
  cases h with
  | all | failure | refused => exact absurd hstop (by simp)
  | row hsplit hrows hbad hhand =>
    obtain ⟨rfl, rfl⟩ := Stop.row.inj hstop
    rw [hsplit]
    exact ⟨by simp, hbad⟩

theorem Stop.result_eq_ok_iff {surface : Fault → Fault} : stop.result surface = .ok () ↔
    stop = .all := by
  cases stop <;> simp [result]

namespace Feed

/-! ## Feeds with rows -/

/-- Whether a feed has rows at a site: the answer over its connection, or what the engine finds in
its graph. -/
inductive Yields (site : Site) (rows : Rows) : Feed → Prop
  | remote {id : ConnectionId} {answer : String → Except Fault Rows} {language query : String}
      (hserves : site.Serves id answer) (hlanguage : Text.lowerCase language = sparql)
      (hanswer : answer query = .ok rows) : Yields site rows (.remote id language query)
  | files {config : Resource} {query : String} {fingerprint : Option Int}
      (hrows : localRows site.engine site.files config query = .ok rows) :
      Yields site rows (.files config query fingerprint)

/-- The query of a feed. -/
def queries : Feed → List String
  | remote _ _ query | files _ query _ => [query]
  | unavailable _ => []

/-- How a fault of the rows or of the listener surfaces from a push. -/
def surface : Feed → Fault → Fault
  | remote .. => remoteFault
  | _ => id

theorem isQuery_remoteFault (fault : Fault) : (remoteFault fault).isQuery = true := by
  rw [remoteFault]
  split
  · assumption
  · rfl

/-- A bad row is a failed query already. -/
theorem mapError_remoteFault (stop : Stop) :
    (stop.result id).mapError remoteFault = stop.result remoteFault := by
  cases stop <;> rfl

/-- **Delivering an answer** ends as the place says where it stops. -/
theorem delivered_eq (h : Delivered listener rows l handed stop l') (site : Site) :
    delivered listener site l (.ok rows) = (stop.result id, site, l') := by
  rw [delivered, h.outcome_eq.1, h.outcome_eq.2]

/-- The failure of a local query is a failed evaluation. -/
theorem failure_rowsOf {columns : List String} {failure : Option Fault} {fault : Fault} :
    ∀ {rows : List (List (Option String))},
      (Rdf.Answer.rowsOf columns failure rows).failure = some fault →
        ∃ cause, fault = .evaluationFailed cause
  | [], h => by
      obtain ⟨cause, -, hcause⟩ := Option.map_eq_some_iff.mp h
      exact ⟨cause, hcause.symm⟩
  | row :: rest, h => by
      rw [Rdf.Answer.rowsOf] at h
      split at h
      · exact ⟨_, (Option.some.inj h).symm⟩
      · exact failure_rowsOf h

theorem isQuery_of_failure_localRows {engine : Rdf.Engine} {files : Files} {config : Resource}
    {query : String} {fault : Fault} (h : localRows engine files config query = .ok rows)
    (hfailure : rows.failure = some fault) : fault.isQuery = true := by
  obtain ⟨-, answer, -, -, rfl⟩ := exists_of_localRows h
  obtain ⟨cause, rfl⟩ := failure_rowsOf hfailure
  rfl

/-! ## How a push ends -/

/-- **A push follows its delivery**: the query is asked once, and whoever listens, the push ends as
the place says where the delivery stops. -/
theorem Yields.run {site : Site} {feed : Feed} (h : feed.Yields site rows) :
    ∃ site', asked site site' = feed.queries ∧
      ∀ {ℓ : Type} {listener : Listener ℓ} {l l' : ℓ} {handed : List Entity} {stop : Stop},
        Delivered listener rows l handed stop l' →
          outcome (feed.push listener) (site, l) = (stop.result feed.surface, site', l') := by
  cases h with
  | @remote id answer language query hserves hlanguage hanswer =>
    obtain ⟨site', hevaluate, hasks⟩ := hserves.outcome_evaluate query
    rw [hanswer] at hevaluate
    refine ⟨site', hasks.asked_eq hserves, fun hdelivered => ?_⟩
    rw [push, outcome_mapFault, evaluate_of_lowerCase hlanguage, outcome_ask hevaluate,
      delivered_eq hdelivered, mapError_remoteFault]
    rfl
  | @files config query fingerprint hrows =>
    obtain ⟨site', -, hasked, hrun⟩ := push_files_run site config query fingerprint
    have hqueries : localQueries site.engine site.files config query = [query] := by
      obtain ⟨graph, -, hgraph, -⟩ := exists_of_localRows hrows
      rw [localQueries, hgraph]
    refine ⟨site', hasked.trans hqueries, fun hdelivered => ?_⟩
    rw [hrun, hrows, delivered_eq hdelivered]
    rfl

/-- How a push of rows ends that takes a site to a later one. -/
structure Pushes (feed : Feed) (rows : Rows) (listener : Listener ℓ) (site : Site) (l : ℓ)
    (site' : Site) (handed : List Entity) (stop : Stop) (l' : ℓ) : Prop where
  delivered : Delivered listener rows l handed stop l'
  asked : Site.asked site site' = feed.queries
  outcome : Action.outcome (feed.push listener) (site, l) = (stop.result feed.surface, site', l')
  /-- The listener is called with the records handed over, and with no others. -/
  calls : Action.outcome (feed.push listener.noting) (site, l, [])
    = (stop.result feed.surface, site', l', handed)
  ok_iff : (Action.outcome (feed.push listener) (site, l)).1 = .ok () ↔ rows.IsGood listener l
  /-- A bad row is a failed query, which names the number of the row. -/
  row_fault : ∀ index r, stop = .row index r → rows.rows[index]? = some r ∧ r.IsBad ∧
    ∃ fault, (Action.outcome (feed.push listener) (site, l)).1 = .error fault ∧
      fault.isQuery = true ∧ ∃ rest, fault.message = "Result row " ++ toString index ++ rest
  /-- The failure behind the rows surfaces as a failed query. -/
  failure_isQuery : ∀ fault, rows.failure = some fault → (feed.surface fault).isQuery = true
  /-- From the service, every fault surfaces as a failed query. -/
  remote_isQuery : feed.variant = .remoteService → ∀ fault,
    (Action.outcome (feed.push listener) (site, l)).1 = .error fault → fault.isQuery = true
  /-- Local files let a fault of the listener through. -/
  local_refused : feed.variant = .localRepository → ∀ fault, stop = .refused fault →
    (Action.outcome (feed.push listener) (site, l)).1 = .error fault

/-- The message of a bad row names its number. -/
theorem message_incompleteRow (index : Nat) (r : Row) :
    ∃ rest, (Fault.incompleteRow index r).message = "Result row " ++ toString index ++ rest := by
  -- by evaluation: the equations of the whole function of messages are too slow to make
  have hmessage : (Fault.incompleteRow index r).message = "Result row " ++ toString index
      ++ " must bind instance, class and alias " ++ "in its first three columns: "
      ++ Fault.rowText r := rfl
  rw [hmessage, String.append_assoc, String.append_assoc]
  exact ⟨_, rfl⟩

theorem isQuery_of_result_remoteFault {fault : Fault}
    (h : stop.result remoteFault = .error fault) : fault.isQuery = true := by
  cases stop with
  | all => exact absurd h (by simp [Stop.result])
  | row index r =>
    obtain rfl := Except.error.inj h
    rfl
  | failure cause | refused cause =>
    obtain rfl := Except.error.inj h
    exact isQuery_remoteFault cause

/-- **A feed with rows** asks its query once, and delivers the rows up to the first bad point. -/
theorem push_pushes {site : Site} {feed : Feed} (h : feed.Yields site rows)
    (listener : Listener ℓ) (l : ℓ) :
    ∃ site' handed stop l', feed.Pushes rows listener site l site' handed stop l' := by
  obtain ⟨handed, stop, l', hdelivered⟩ := exists_delivered listener rows l
  obtain ⟨site', hasked, hrun⟩ := h.run
  refine ⟨site', handed, stop, l', hdelivered, hasked, hrun hdelivered, hrun hdelivered.noting,
    ?_, ?_, ?_, ?_, ?_⟩
  · rw [hrun hdelivered, Stop.result_eq_ok_iff, hdelivered.all_iff]
  · intro index r hstop
    obtain ⟨hget, hbad⟩ := hdelivered.get_of_row hstop
    rw [hrun hdelivered, hstop]
    exact ⟨hget, hbad, _, rfl, rfl, message_incompleteRow index r⟩
  · intro fault hfailure
    cases h with
    | remote => exact isQuery_remoteFault fault
    | files hrows => exact isQuery_of_failure_localRows hrows hfailure
  · intro hvariant fault hfault
    rw [hrun hdelivered] at hfault
    cases h with
    | remote => exact isQuery_of_result_remoteFault hfault
    | files => exact absurd hvariant (by simp [variant])
  · intro hvariant fault hstop
    rw [hrun hdelivered, hstop]
    cases h with
    | remote => exact absurd hvariant (by simp [variant])
    | files => rfl

/-- Four islands, the third one without a name. -/
def shelfAnswer : Rdf.Answer where
  columns := ["inst", "cls", "label"]
  rows := [[some "m", some "island", some "Malta"], [some "g", some "island", some "Gozo"],
    [some "c", some "island", none], [some "f", some "island", some "Filfla"]]

/-- An engine and a table that both have the islands, and an open connection to the table. -/
def shelfSite : Site :=
  { Site.bare with
    engine := { Rdf.Engine.blank with query := fun _ _ => .ok shelfAnswer }
    repositories := #[.table { answers := [⟨"islands", .ok shelfAnswer.toRows⟩] }]
    connections := #[{ backend := .table ⟨0⟩ }] }

/-- The first two islands, the ones before the one without a name. -/
def shelfFirst : List Entity :=
  [.ofStrings "m" "island" "Malta", .ofStrings "g" "island" "Gozo"]

/-- The listener of the service takes two islands, and the third row is bad; the listener of the
local files refuses the second island, which it has been handed by then. -/
theorem push_pushes_shelf :
    ((remote ⟨0⟩ "SPARQL" "islands").Yields shelfSite shelfAnswer.toRows ∧
      ∃ site' stop, (remote ⟨0⟩ "SPARQL" "islands").Pushes shelfAnswer.toRows (collector none)
        shelfSite [] site' shelfFirst stop shelfFirst) ∧
    (files (.path ⟨0, ["shelf.ttl"]⟩) "islands" none).Yields shelfSite shelfAnswer.toRows ∧
      ∃ site' stop, (files (.path ⟨0, ["shelf.ttl"]⟩) "islands" none).Pushes shelfAnswer.toRows
        (collector (some (1, .feederNotReady))) shelfSite [] site' shelfFirst stop
        [.ofStrings "m" "island" "Malta"] := by
  have hremote : (remote ⟨0⟩ "SPARQL" "islands").Yields shelfSite shelfAnswer.toRows :=
    .remote ⟨_, rfl, rfl, fun _ => rfl⟩ (by decide +kernel) rfl
  have hfiles : (files (.path ⟨0, ["shelf.ttl"]⟩) "islands" none).Yields shelfSite
      shelfAnswer.toRows := .files rfl
  obtain ⟨site₁, handed₁, stop₁, l₁, h₁⟩ := push_pushes hremote (collector none) []
  obtain ⟨site₂, handed₂, stop₂, l₂, h₂⟩ :=
    push_pushes hfiles (collector (some (1, .feederNotReady))) []
  -- what the listeners are called with, and what they have taken, is found by evaluation
  obtain ⟨rfl, rfl⟩ : shelfFirst = l₁ ∧ shelfFirst = handed₁ :=
    Prod.mk.inj (congrArg (fun out => out.2.2) h₁.calls)
  obtain ⟨rfl, rfl⟩ : [Entity.ofStrings "m" "island" "Malta"] = l₂ ∧ shelfFirst = handed₂ :=
    Prod.mk.inj (congrArg (fun out => out.2.2) h₂.calls)
  exact ⟨⟨hremote, site₁, stop₁, h₁⟩, hfiles, site₂, stop₂, h₂⟩

end Feed

end Gazetteer
