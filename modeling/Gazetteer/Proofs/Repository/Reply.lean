import Gazetteer.Proofs.Action
import Gazetteer.Repository.Evaluation

/-!
# Proofs/Repository/Reply — what a connection answers, as a function

A query changes the record that a site keeps of what has been done, and nothing that answers depend
on. `Site.reply` is the answer alone; `Serves` says of a connection that it is open and answers like
a function, and goes on to hold after a query (`Serves.evaluate`) and after another connection is
closed (`Serves.closeConnection_of_ne`).
-/

namespace Gazetteer.Site

/-- What a backend answers to a query. -/
def reply (site : Site) (backend : Backend) (query : String) : Except Fault Rows :=
  match backend with
  | .server endpoint _ =>
    match site.transport.post endpoint query with
    | .error fault =>
      .error (if fault.kind.isTransport then .requestFailed endpoint fault else fault)
    | .ok response => response.rows endpoint
  | .graph graph => site.engine.rows graph query
  | .table id =>
    match site.repositories[id.index]? with
    | some (.table table) => table.rows query
    | _ => .ok ⟨[], none⟩

/-- **A backend's answer** is its reply; only the events are more. -/
theorem ask_eq (site : Site) (backend : Backend) (query : String) :
    ∃ events, ask backend query site
      = Action.ofExcept (site.reply backend query) { site with events } := by
  cases backend with
  | server endpoint timeout =>
    refine ⟨(site.record (.post endpoint query timeout)).events, ?_⟩
    simp only [ask, reply, Action.get_bind, note, Action.modify_bind]
    cases site.transport.post endpoint query <;> rfl
  | graph graph => exact ⟨(site.record (.query query)).events, rfl⟩
  | table id =>
    refine ⟨site.events, ?_⟩
    simp only [ask, reply, Action.get_bind]
    rcases site.repositories[id.index]? with _ | _ | _ | _ <;> rfl

/-- Whether a connection is open and answers like a function. -/
def Serves (site : Site) (id : ConnectionId) (answer : String → Except Fault Rows) : Prop :=
  ∃ c, site.connections[id.index]? = some c ∧ c.closed = false ∧
    ∀ query, site.reply c.backend query = answer query

variable {site : Site} {id other : ConnectionId} {answer : String → Except Fault Rows}

theorem refusal?_eq_none {c : Connection} (h : c.closed = false) : c.refusal? sparql = none := by
  rw [Connection.refusal?, h, if_neg (by simp), if_pos (by decide +kernel)]

/-- The language of a query counts without its case. -/
theorem evaluate_of_lowerCase {language : String} (h : Text.lowerCase language = sparql)
    (id : ConnectionId) (query : String) :
    Site.evaluate id query language = Site.evaluate id query sparql := by
  have hrefusal : ∀ c : Connection, c.refusal? language = c.refusal? sparql := by
    intro c
    have hsparql : Text.lowerCase sparql = sparql := by decide +kernel
    rw [Connection.refusal?, Connection.refusal?, if_pos h, if_pos hsparql]
  simp only [Site.evaluate, hrefusal]

/-- The site after a query: the connection has it on record, and there may be more events. -/
def queried (site : Site) (id : ConnectionId) (query : String) (events : List Event) : Site :=
  { site with
    connections := site.connections.modify id.index fun c =>
      { c with queries := c.queries ++ [query] }
    events }

/-- **A query over an open connection** is answered with the reply of its backend. -/
theorem evaluate_eq {c : Connection} (hc : site.connections[id.index]? = some c)
    (hopen : c.closed = false) (query : String) :
    ∃ events, Site.evaluate id query sparql site
      = Action.ofExcept (site.reply c.backend query) (site.queried id query events) := by
  obtain ⟨events, hask⟩ := ask_eq (site.queried id query site.events) c.backend query
  refine ⟨events, ?_⟩
  simp only [Site.evaluate, Action.get_bind, hc, Option.getD_some, refusal?_eq_none hopen]
  exact (Action.modify_bind _ _ site).trans hask

/-- **A query is answered, and the connection answers on.** -/
theorem Serves.evaluate (h : site.Serves id answer) {query : String} {rows : Rows}
    (hanswer : answer query = .ok rows) :
    ∃ site', Site.evaluate id query sparql site = .ok rows site' ∧ site'.Serves id answer := by
  obtain ⟨c, hc, hopen, hreply⟩ := h
  obtain ⟨events, hevaluate⟩ := evaluate_eq hc hopen query
  rw [hreply, hanswer] at hevaluate
  have hc' : (site.queried id query events).connections[id.index]?
      = some { c with queries := c.queries ++ [query] } := by
    simp [queried, Array.getElem?_modify, hc]
  exact ⟨_, hevaluate, _, hc', hopen, hreply⟩

/-- **Closing never fails.** -/
theorem exists_closeConnection (site : Site) (id : ConnectionId) :
    ∃ site', closeConnection id site = .ok () site' := by
  simp only [closeConnection, Action.get_bind]
  rcases site.connections[id.index]? with _ | ⟨backend, closed, -, -⟩
  · exact ⟨site, rfl⟩
  · cases closed with
    | true => exact ⟨site, rfl⟩
    | false => cases backend <;> exact ⟨_, rfl⟩

/-- **A connection answers on when another one is closed.** -/
theorem Serves.closeConnection_of_ne (h : site.Serves id answer) (hne : other.index ≠ id.index) :
    ∃ site', Site.closeConnection other site = .ok () site' ∧ site'.Serves id answer := by
  obtain ⟨c, hc, hopen, hreply⟩ := h
  have hc' : ∀ f : Connection → Connection,
      (site.connections.modify other.index f)[id.index]? = some c := by
    intro f
    rw [Array.getElem?_modify, if_neg hne, hc]
  simp only [Site.closeConnection, Action.get_bind]
  rcases site.connections[other.index]? with _ | ⟨backend, closed, -, -⟩
  · exact ⟨site, rfl, c, hc, hopen, hreply⟩
  · cases closed with
    | true => exact ⟨site, rfl, c, hc, hopen, hreply⟩
    | false => cases backend <;> exact ⟨_, rfl, c, hc' _, hopen, hreply⟩

/-! ## Opening a connection -/

section Loading

variable {γ : Type} {f : Site → γ}
variable (hf : ∀ (site : Site) (events : List Event) (graphs : Nat)
  (repositories : Array Repository), f { site with events, graphs, repositories } = f site)

include hf

theorem keeps_note (event : Event) : Action.Keeps f (note event) := fun site =>
  hf site _ site.graphs site.repositories

theorem keeps_updateRepository (repository : RepositoryId) (g : Repository → Repository) :
    Action.Keeps f (updateRepository repository g) := fun site =>
  hf site site.events site.graphs _

theorem keeps_readInto (graph : Rdf.Graph) (location format : String) (base : Option String) :
    Action.Keeps f (Repository.readInto graph location format base) :=
  (keeps_note hf _).bind fun _ => Action.keeps_get.bind fun _ => Action.keeps_ofExcept _

theorem keeps_readImports (config : Path) : ∀ (graph : Rdf.Graph) (sources : List Rdf.Import),
    Action.Keeps f (Repository.readImports config graph sources)
  | graph, [] => Action.keeps_pure graph
  | _, _ :: rest =>
    (Action.keeps_ofExcept _).bind fun _ => Action.keeps_get.bind fun _ =>
      (Action.keeps_mapFault (keeps_readInto hf _ _ _ _)).bind fun graph =>
        keeps_readImports config graph rest

theorem keeps_readConfiguration (path : Path) :
    Action.Keeps f (Repository.readConfiguration path) :=
  Action.keeps_get.bind fun _ => (Action.keeps_ofExcept _).bind fun _ => keeps_readInto hf _ _ _ _

theorem keeps_loadGraph (config : Resource) : Action.Keeps f (Repository.loadGraph config) := by
  unfold Repository.loadGraph
  refine (Action.keeps_ofExcept _).bind fun path => ?_
  refine Action.Keeps.bind (Action.keeps_modify fun site =>
    hf site site.events _ site.repositories) fun _ => ?_
  refine (keeps_note hf _).bind fun _ => ?_
  exact (Action.keeps_mapFault (keeps_readConfiguration hf path)).bind fun _ =>
    keeps_readImports hf _ _ _

/-- **Loading a repository** leaves all else of a site as it is. -/
theorem keeps_loadRepository (repository : RepositoryId) :
    Action.Keeps f (loadRepository repository) := by
  unfold loadRepository
  refine Action.keeps_get.bind fun site => ?_
  split
  · refine (keeps_loadGraph hf _).bind fun graph => Action.keeps_get.bind fun site => ?_
    exact (keeps_updateRepository hf _ _).bind fun _ => Action.keeps_pure _
  · exact Action.keeps_pure _
  · exact Action.keeps_pure _

end Loading

/-- What a connection answers to a query. -/
def replyAt (site : Site) (id : ConnectionId) (query : String) : Except Fault Rows :=
  match site.connections[id.index]? with
  | some c => site.reply c.backend query
  | none => .error .connectionClosed

theorem addConnection_eq (site : Site) (c : Connection) :
    addConnection c site
      = .ok ⟨site.connections.size⟩ { site with connections := site.connections.push c } := rfl

end Gazetteer.Site
