import Gazetteer.Feed.Basic
import Gazetteer.Proofs.Dictionary.Cache
import Gazetteer.Proofs.Feed.Listening
import Gazetteer.Proofs.Repository.Queries

/-!
# Proofs/Feed/Push — what pushing a feed does

Pushing does the same whoever listens (`impartial_push`), only adds to a dictionary (`adds_push`),
and keeps what is given of a site (`given_push`). The rows of local files depend on the engine and
the files alone: pushing them asks the query once and delivers `localRows` (`push_files_run`), so
that it succeeds just when these have no bad point and the listener takes all of their records
(`push_files_ok`, `localEntities_of_push`). All parts of these records are texts
(`isText_of_localEntities`).
-/

namespace Gazetteer.Feed

open Gazetteer.Action Site

variable {ℓ : Type} {listener : Listener ℓ}

/-! ## All feeds -/

/-- An unavailable feed cannot be pushed, and nothing is changed by trying to. -/
theorem push_unavailable (listener : Listener ℓ) (directory : Path) (s : Site × ℓ) :
    ∃ fault, push listener (.unavailable directory) s = .error fault s := by
  rw [push, get_bind]
  dsimp only
  cases s.1.absolute (missingConfig directory) with
  | error fault => exact ⟨fault, rfl⟩
  | ok config => exact ⟨.noConfiguration config, rfl⟩

theorem keeps_push_unavailable {γ : Type} {f : Site × ℓ → γ} (directory : Path) :
    Keeps f (push listener (.unavailable directory)) := by
  intro s
  obtain ⟨fault, hpush⟩ := push_unavailable listener directory s
  rw [outcome_error hpush]

/-- **Pushing does the same whoever listens.** -/
theorem impartial_push : ∀ feed : Feed, Impartial fun _ listener => feed.push listener
  | .remote _ _ _ =>
    ((impartial_onFirst _).bind fun rows =>
      (impartial_deliver rows).bind fun _ => impartial_pure ()).mapFault remoteFault
  | .files _ _ _ =>
    (impartial_onFirst _).bind fun _ => (impartial_onFirst _).bind fun _ =>
      ((impartial_onFirst _).bind fun rows =>
        (impartial_deliver rows).bind fun _ => impartial_pure ()).ensuring _
  | .unavailable directory => by
      intro ℓ listener s s' l l' a h
      obtain ⟨fault, hpush⟩ := push_unavailable listener directory (s, l)
      exact absurd (hpush.symm.trans h) (by simp)

/-- **Pushing only adds to a dictionary.** -/
theorem adds_push : ∀ feed : Feed, Adds (feed.push Dictionary.listener)
  | .remote _ _ _ =>
    ((adds_onFirst _).bind fun rows =>
      (adds_deliver rows).bind fun _ => adds_of_keeps (keeps_pure ())).mapFault remoteFault
  | .files _ _ _ =>
    (adds_onFirst _).bind fun _ => (adds_onFirst _).bind fun _ =>
      ((adds_onFirst _).bind fun rows =>
        (adds_deliver rows).bind fun _ => adds_of_keeps (keeps_pure ())).ensuring _
  | .unavailable directory => adds_of_keeps (keeps_push_unavailable directory)

/-- **Pushing keeps what is given.** -/
theorem given_push : ∀ feed : Feed, Keeps (fun s : Site × ℓ => s.1.given) (feed.push listener)
  | .remote _ _ _ =>
    keeps_mapFault ((keeps_onFirst (given_evaluate _ _ _)).bind fun _ =>
      (keeps_onSecond _).bind fun _ => keeps_pure ())
  | .files _ _ _ =>
    (keeps_onFirst (given_loadGraph _)).bind fun _ =>
      (keeps_onFirst (given_addConnection _)).bind fun _ =>
        keeps_ensuring ((keeps_onFirst (given_evaluate _ _ _)).bind fun _ =>
          (keeps_onSecond _).bind fun _ => keeps_pure ())
          (keeps_onFirst (given_closeConnection _))
  | .unavailable directory => keeps_push_unavailable directory

theorem given_close : ∀ feed : Feed, Keeps given feed.close
  | .remote connection _ _ => given_closeConnection connection
  | .files .. => keeps_pure ()
  | .unavailable _ => keeps_pure ()

/-- Closing a feed never fails. -/
theorem exists_close (feed : Feed) (site : Site) : ∃ site', feed.close site = .ok () site' := by
  cases feed with
  | remote connection _ _ => exact exists_closeConnection site connection
  | files _ _ _ | unavailable _ => exact ⟨site, rfl⟩

/-! ## Local files -/

/-- The rows that an engine finds for a query in the graph of a configuration. -/
def localRows (engine : Rdf.Engine) (files : Files) (config : Resource) (query : String) :
    Except Fault Rows :=
  match Repository.graphOf engine files config with
  | .error fault => .error fault
  | .ok graph => engine.rows graph query

/-- **Local rows** are those of an answer of the engine, to a query in a graph that is there. -/
theorem exists_of_localRows {engine : Rdf.Engine} {files : Files} {config : Resource}
    {query : String} {rows : Rows} (h : localRows engine files config query = .ok rows) :
    ∃ graph answer, Repository.graphOf engine files config = .ok graph ∧
      engine.query graph query = .ok answer ∧ rows = answer.toRows := by
  rw [localRows] at h
  split at h
  · exact absurd h (by simp)
  · rename_i graph hgraph
    rw [Rdf.Engine.rows] at h
    split at h
    · split at h <;> exact absurd h (by simp)
    · rename_i answer hanswer
      split at h
      · exact ⟨graph, answer, hgraph, hanswer, (Except.ok.inj h).symm⟩
      · exact absurd h (by simp)

/-- How delivering an answer ends, with the site that was left when it came. -/
def delivered (listener : Listener ℓ) (site : Site) (l : ℓ) :
    Except Fault Rows → Except Fault Unit × Site × ℓ
  | .error fault => (.error fault, site, l)
  | .ok rows => ((outcome (rows.deliver listener) l).1.map fun _ => (), site,
      (outcome (rows.deliver listener) l).2)

theorem site_delivered (listener : Listener ℓ) (site : Site) (l : ℓ)
    (answer : Except Fault Rows) : (delivered listener site l answer).2.1 = site := by
  cases answer <;> rfl

theorem outcome_ask {id : ConnectionId} {query : String} {site site' : Site}
    {answer : Except Fault Rows} (h : outcome (Site.evaluate id query) site = (answer, site'))
    (listener : Listener ℓ) (l : ℓ) :
    outcome (do
        let rows ← onFirst (Site.evaluate id query)
        let _ ← onSecond (rows.deliver listener)) (site, l)
      = delivered listener site' l answer := by
  rw [outcome_bind, outcome_onFirst, h]
  cases answer with
  | error fault => rfl
  | ok rows =>
    simp only [delivered]
    rw [outcome_bind, outcome_onSecond]
    cases (outcome (rows.deliver listener) l).1 <;> rfl

/-- The queries that pushing local files asks: none if there is no graph. -/
def localQueries (engine : Rdf.Engine) (files : Files) (config : Resource) (query : String) :
    List String :=
  match Repository.graphOf engine files config with
  | .error _ => []
  | .ok _ => [query]

/-- **Pushing local files** asks their query once and delivers the rows. What it adds to the site
beside that does not depend on who listens. -/
theorem push_files_run (site : Site) (config : Resource) (query : String)
    (fingerprint : Option Int) :
    ∃ site', site'.given = site.given ∧
      asked site site' = localQueries site.engine site.files config query ∧
      ∀ {ℓ : Type} (listener : Listener ℓ) (l : ℓ),
        outcome (push listener (.files config query fingerprint)) (site, l)
          = delivered listener site' l (localRows site.engine site.files config query) := by
  obtain ⟨events, graphs, hload⟩ := Repository.loadGraph_eq site config
  have hload' : outcome (Repository.loadGraph config) site
      = (Repository.graphOf site.engine site.files config, { site with events, graphs }) := by
    rw [outcome, hload]
    exact outcome_ofExcept _ _
  rw [localRows, localQueries]
  cases hgraph : Repository.graphOf site.engine site.files config with
  | error fault =>
    rw [hgraph] at hload'
    refine ⟨{ site with events, graphs }, rfl, asked_eq_nil fun _ => rfl, fun listener l => ?_⟩
    rw [push, outcome_bind, outcome_onFirst, hload']
    rfl
  | ok graph =>
    rw [hgraph] at hload'
    let site₁ : Site := { site with events, graphs }
    let id : ConnectionId := ⟨site₁.connections.size⟩
    let site₂ : Site := { site₁ with
      connections := site₁.connections.push { backend := .graph graph } }
    have hopens : Opens (.graph graph) site₁ site₂ := ⟨sameSources_with site₁ _ _ _, rfl⟩
    obtain ⟨site₃, hevaluate, hasks⟩ := hopens.serves_new.outcome_evaluate query
    obtain ⟨site₄, hclose, hcloses⟩ := exists_closes (hasks.serves hopens.serves_new)
    have hsame : SameSources site₁ site₄ := (hopens.same.trans hasks.same).trans hcloses.same
    have hasked : asked site₁ site₄ = [query] :=
      (asked_congr (fun i => (hopens.queriesAt_eq i).symm) hcloses.queriesAt_eq
        hcloses.size_eq).trans (hasks.asked_eq hopens.serves_new)
    refine ⟨site₄, hsame.given, hasked, fun listener l => ?_⟩
    have hadd : outcome (onFirst (addConnection { backend := .graph graph })) (site₁, l)
        = (.ok id, site₂, l) := rfl
    rw [push, outcome_bind, outcome_onFirst, hload']
    simp only []
    rw [outcome_bind, hadd]
    simp only []
    have hask := outcome_ask hevaluate listener l
    rw [outcome_ensuring (onFirst_ok (by rw [hask, site_delivered]; exact hclose) _), hask]
    have hreply : site₁.reply (.graph graph) query = site.engine.rows graph query := rfl
    rw [hreply]
    cases site.engine.rows graph query <;> rfl

/-- **Pushing local files** is delivering their rows. -/
theorem push_files_eq (site : Site) (config : Resource) (query : String)
    (fingerprint : Option Int) :
    ∃ site', site'.given = site.given ∧ ∀ {ℓ : Type} (listener : Listener ℓ) (l : ℓ),
      outcome (push listener (.files config query fingerprint)) (site, l)
        = delivered listener site' l (localRows site.engine site.files config query) := by
  obtain ⟨site', hgiven, -, heq⟩ := push_files_run site config query fingerprint
  exact ⟨site', hgiven, heq⟩

/-- The records that an engine finds for a query in the graph of a configuration. -/
def localEntities (engine : Rdf.Engine) (files : Files) (config : Resource) (query : String) :
    Except Fault (List Entity) :=
  match localRows engine files config query with
  | .error fault => .error fault
  | .ok rows => rows.entities

variable {site site' : Site} {config : Resource} {query : String} {fingerprint : Option Int}
  {es : List Entity}

/-- **Local files are pushed** to whoever takes their records. -/
theorem push_files_ok (h : localEntities site.engine site.files config query = .ok es)
    (fingerprint : Option Int) :
    ∃ site', site'.given = site.given ∧ ∀ {ℓ : Type} (listener : Listener ℓ) {l l' : ℓ},
      handAll listener es l = .ok () l' →
        push listener (.files config query fingerprint) (site, l) = .ok () (site', l') := by
  obtain ⟨site', hgiven, heq⟩ := push_files_eq site config query fingerprint
  refine ⟨site', hgiven, fun listener l l' hhand => eq_ok_of_outcome ?_⟩
  rw [heq]
  rw [localEntities] at h
  cases hrows : localRows site.engine site.files config query with
  | error fault =>
    rw [hrows] at h
    exact absurd h (by simp)
  | ok rows =>
    rw [hrows] at h
    have hdeliver := Rows.deliver_ok_iff.mpr ⟨es, h, hhand, rfl⟩
    rw [delivered, outcome_ok hdeliver]
    rfl

/-- **What pushing local files handed over** are their records. -/
theorem localEntities_of_push {l l' : ℓ}
    (h : push listener (.files config query fingerprint) (site, l) = .ok () (site', l')) :
    ∃ es, localEntities site.engine site.files config query = .ok es ∧
      handAll listener es l = .ok () l' := by
  obtain ⟨site₁, -, heq⟩ := push_files_eq site config query fingerprint
  have hrun := heq listener l
  rw [outcome_ok h] at hrun
  rw [localEntities]
  cases hrows : localRows site.engine site.files config query with
  | error fault =>
    rw [hrows] at hrun
    exact absurd (Prod.mk.inj hrun).1 (by simp)
  | ok rows =>
    rw [hrows, delivered] at hrun
    cases hdeliver : rows.deliver listener l with
    | error fault l₁ =>
      rw [outcome_error hdeliver] at hrun
      exact absurd (Prod.mk.inj hrun).1 (by simp [Except.map])
    | ok n l₁ =>
      rw [outcome_ok hdeliver] at hrun
      obtain ⟨es, hes, hhand, -⟩ := Rows.deliver_ok_iff.mp hdeliver
      have hl : l' = l₁ := (Prod.mk.inj (Prod.mk.inj hrun).2).2
      exact ⟨es, hes, hl ▸ hhand⟩

/-! ## The records of local files are texts -/

/-- Whether all values of a row are texts or null. -/
def IsPlain (row : Row) : Prop := ∀ cell ∈ row, cell.2 = .null ∨ ∃ s, cell.2 = .string s

theorem isPlain_put {row : Row} (h : IsPlain row) (key : Value) {v : Value}
    (hv : v = .null ∨ ∃ s, v = .string s) : IsPlain (Value.put key v row) := by
  induction row with
  | nil =>
    intro cell hcell
    rw [List.mem_singleton.mp hcell]
    exact hv
  | cons c row ih =>
    obtain ⟨k, w⟩ := c
    rw [Value.put]
    intro cell hcell
    split at hcell
    · rcases List.mem_cons.mp hcell with rfl | hcell
      · exact hv
      · exact h cell (List.mem_cons_of_mem _ hcell)
    · rcases List.mem_cons.mp hcell with rfl | hcell
      · exact h _ List.mem_cons_self
      · exact ih (fun c hc => h c (List.mem_cons_of_mem _ hc)) cell hcell

theorem isPlain_rowOf {cells : List (String × Option String)} :
    ∀ {columns : List String} {row row' : Row}, IsPlain row →
      Rdf.Answer.rowOf cells row columns = .ok row' → IsPlain row'
  | [], row, row', h, hrow => by
      obtain rfl := Except.ok.inj hrow
      exact h
  | column :: columns, row, row', h, hrow => by
      rw [Rdf.Answer.rowOf] at hrow
      split at hrow
      · exact absurd hrow (by simp)
      · rename_i value _
        refine isPlain_rowOf (isPlain_put h _ ?_) hrow
        cases value with
        | none => exact .inl rfl
        | some s => exact .inr ⟨s, rfl⟩

theorem isPlain_rowsOf {columns : List String} {failure : Option Fault} :
    ∀ {rows : List (List (Option String))},
      ∀ row ∈ (Rdf.Answer.rowsOf columns failure rows).rows, IsPlain row
  | [], row, h => absurd h (by simp [Rdf.Answer.rowsOf])
  | r :: rows, row, h => by
      rw [Rdf.Answer.rowsOf] at h
      split at h
      · exact absurd h (by simp)
      · rename_i row' hrow'
        rcases List.mem_cons.mp h with rfl | h
        · exact isPlain_rowOf (fun _ hc => absurd hc (by simp)) hrow'
        · exact isPlain_rowsOf row h

theorem isText_of_entity? {row : Row} (h : IsPlain row) {e : Entity}
    (he : Row.entity? row = some e) : e.IsText := by
  have hvalue : ∀ v ∈ (Row.values row).take 3, v = .null ∨ ∃ s, v = .string s := by
    intro v hv
    obtain ⟨cell, hcell, rfl⟩ := List.mem_map.mp (List.mem_of_mem_take hv)
    exact h cell hcell
  rw [Row.entity?] at he
  split at he
  · exact absurd he (by simp)
  · exact absurd he (by simp)
  · exact absurd he (by simp)
  · rename_i inst cls label hinst hcls hlabel htake
    obtain rfl := Option.some.inj he
    rw [htake] at hvalue
    obtain rfl | ⟨s, rfl⟩ := hvalue inst (by simp)
    · exact absurd rfl hinst
    obtain rfl | ⟨t, rfl⟩ := hvalue cls (by simp)
    · exact absurd rfl hcls
    obtain rfl | ⟨u, rfl⟩ := hvalue label (by simp)
    · exact absurd rfl hlabel
    exact ⟨s, t, u, rfl⟩
  · exact absurd he (by simp)

theorem isText_of_entitiesFrom {failure : Option Fault} : ∀ {index : Nat} {rows : List Row}
    {es : List Entity}, (∀ row ∈ rows, IsPlain row) →
      Rows.entitiesFrom failure index rows = .ok es → ∀ e ∈ es, e.IsText
  | _, [], es, _, hes => by
      cases failure with
      | some fault => exact absurd hes (by simp [Rows.entitiesFrom])
      | none =>
        obtain rfl := Except.ok.inj hes
        exact fun e he => absurd he (by simp)
  | index, row :: rows, es, h, hes => by
      rw [Rows.entitiesFrom] at hes
      cases hrow : Row.entity? row with
      | none =>
        simp only [hrow] at hes
        exact absurd hes (by simp)
      | some e =>
        simp only [hrow] at hes
        cases hrest : Rows.entitiesFrom failure (index + 1) rows with
        | error fault =>
          rw [hrest] at hes
          exact absurd hes (by simp [Except.map])
        | ok fs =>
          rw [hrest] at hes
          obtain rfl := Except.ok.inj hes
          intro f hf
          rcases List.mem_cons.mp hf with rfl | hf
          · exact isText_of_entity? (h row List.mem_cons_self) hrow
          · exact isText_of_entitiesFrom (fun r hr => h r (List.mem_cons_of_mem _ hr)) hrest f hf

theorem isPlain_localRows {engine : Rdf.Engine} {files : Files} {rows : Rows}
    (h : localRows engine files config query = .ok rows) : ∀ row ∈ rows.rows, IsPlain row := by
  obtain ⟨-, answer, -, -, rfl⟩ := exists_of_localRows h
  exact isPlain_rowsOf

/-- **The records of local files are texts** in all their parts. -/
theorem isText_of_localEntities {engine : Rdf.Engine} {files : Files}
    (h : localEntities engine files config query = .ok es) : ∀ e ∈ es, e.IsText := by
  rw [localEntities] at h
  split at h
  · exact absurd h (by simp)
  · exact isText_of_entitiesFrom (isPlain_localRows ‹_›) h

end Gazetteer.Feed
