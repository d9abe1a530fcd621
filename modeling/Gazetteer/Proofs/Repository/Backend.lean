import Gazetteer.Proofs.Repository.Given

/-!
# Proofs/Repository/Backend — what a connection to a repository speaks to

`Site.backendOf` says what a connection to a repository would speak to, or why none can be opened,
and `connect_cases` that opening one does just that: there is a new connection with this backend, or
the fault and no connection. A local repository loads its graph for the first connection; for a
later one it would load the same graph again. So opening a connection changes neither what backends
answer nor what repositories speak to (`SameSources`), and nor does asking or closing one.
-/

namespace Gazetteer

/-- What a connection to a repository, known under an id, speaks to, or why it cannot be opened. -/
def Repository.backend (engine : Rdf.Engine) (files : Files) (id : RepositoryId) :
    Repository → Except Fault Backend
  | .server address name timeout => .ok (.server (endpointOf address name) timeout)
  | .files config none => (graphOf engine files config).map .graph
  | .files _ (some loaded) => .ok (.graph loaded.graph)
  | .table prepared =>
    match prepared.refusal with
    | some fault => .error fault
    | none => .ok (.table id)

/-- What a repository has prepared: the answers of a table, and else no rows. -/
def Repository.prepared : Repository → String → Except Fault Rows
  | .table prepared => prepared.rows
  | _ => fun _ => .ok ⟨[], none⟩

namespace Site

open Gazetteer.Action

/-- What a connection to a repository speaks to, or why it cannot be opened. -/
def backendOf (site : Site) (id : RepositoryId) : Except Fault Backend :=
  match site.repositories[id.index]? with
  | none => .error .connectionClosed
  | some repository => repository.backend site.engine site.files id

/-- What the connections to a repository answer, or why there are none. -/
def answersOf (site : Site) (id : RepositoryId) : Except Fault (String → Except Fault Rows) :=
  (site.backendOf id).map site.reply

theorem reply_table (site : Site) (id : RepositoryId) :
    site.reply (.table id)
      = (site.repositories[id.index]?.map Repository.prepared).getD fun _ => .ok ⟨[], none⟩ := by
  funext query
  simp only [reply]
  rcases site.repositories[id.index]? with _ | _ | _ | _ <;> rfl

/-- Whether two sites have the same sources: what is given, what backends answer, and what
repositories speak to. -/
structure SameSources (site site' : Site) : Prop where
  given : site'.given = site.given
  reply : site'.reply = site.reply
  backendOf : site'.backendOf = site.backendOf

namespace SameSources

variable {site site' site'' : Site}

theorem trans (h : SameSources site site') (h' : SameSources site' site'') :
    SameSources site site'' :=
  ⟨h'.given.trans h.given, h'.reply.trans h.reply, h'.backendOf.trans h.backendOf⟩

theorem answersOf (h : SameSources site site') : site'.answersOf = site.answersOf := by
  funext id
  rw [Site.answersOf, Site.answersOf, h.reply, h.backendOf]

end SameSources

/-- Events, graphs and connections are no sources. -/
theorem sameSources_with (site : Site) (events : List Event) (graphs : Nat)
    (connections : Array Connection) :
    SameSources site { site with events, graphs, connections } := ⟨rfl, rfl, rfl⟩

/-- **A repository that is changed** into one that speaks to the same and has the same prepared. -/
theorem sameSources_modify (site : Site) (f : Repository → Repository) {id : RepositoryId}
    {repository : Repository} (h : site.repositories[id.index]? = some repository)
    (hprepared : (f repository).prepared = repository.prepared)
    (hbackend : (f repository).backend site.engine site.files id
      = repository.backend site.engine site.files id) :
    SameSources site { site with repositories := site.repositories.modify id.index f } where
  given := rfl
  reply := by
    funext backend
    cases backend with
    | server endpoint timeout => rfl
    | graph graph => rfl
    | table other =>
      rw [reply_table, reply_table, Array.getElem?_modify]
      by_cases hother : id.index = other.index
      · rw [if_pos hother, ← hother, h]
        exact hprepared
      · rw [if_neg hother]
  backendOf := by
    funext other
    simp only [backendOf, Array.getElem?_modify]
    by_cases hother : id.index = other.index
    · obtain rfl : id = other := congrArg RepositoryId.mk hother
      rw [if_pos rfl, h]
      exact hbackend
    · rw [if_neg hother]

/-! ## Opening a connection -/

/-- **Loading a local repository** gives its graph; only events and graphs are more, and the
repository has its graph. -/
theorem loadRepository_cases {site : Site} {id : RepositoryId} {config : Resource}
    {loaded : Option Loaded} (h : site.repositories[id.index]? = some (.files config loaded)) :
    (∃ graph serial site', (Repository.files config loaded).backend site.engine site.files id
        = .ok (.graph graph) ∧
      loadRepository id site = .ok ⟨serial, graph⟩ site' ∧ SameSources site site' ∧
      site'.connections = site.connections) ∨
    ∃ fault site', (Repository.files config loaded).backend site.engine site.files id
        = .error fault ∧
      loadRepository id site = .error fault site' ∧ SameSources site site' ∧
      site'.connections = site.connections := by
  cases loaded with
  | some loaded =>
    refine .inl ⟨loaded.graph, loaded.serial, site, rfl, ?_, ⟨rfl, rfl, rfl⟩, rfl⟩
    simp only [loadRepository, get_bind, h]
    rfl
  | none =>
    obtain ⟨events, graphs, hload⟩ := Repository.loadGraph_eq site config
    have hbegin : loadRepository id site = (Repository.loadGraph config >>= fun graph => do
        let site ← get
        updateRepository id fun _ => .files config (some ⟨site.graphs, graph⟩)
        return ⟨site.graphs, graph⟩) site := by
      simp only [loadRepository, get_bind, h]
    cases hgraph : Repository.graphOf site.engine site.files config with
    | error fault =>
      rw [hgraph] at hload
      refine .inr ⟨fault, _, by rw [Repository.backend, hgraph]; rfl,
        hbegin.trans (bind_error hload _), sameSources_with site events graphs _, rfl⟩
    | ok graph =>
      rw [hgraph] at hload
      have hbackend : (Repository.files config none).backend site.engine site.files id
          = .ok (.graph graph) := by rw [Repository.backend, hgraph]; rfl
      refine .inl ⟨graph, graphs, _, hbackend, hbegin.trans (bind_ok hload _), ?_, rfl⟩
      have hmodify := sameSources_modify { site with events, graphs }
        (fun _ => .files config (some ⟨graphs, graph⟩)) h rfl hbackend.symm
      exact (sameSources_with site events graphs site.connections).trans hmodify

/-- **Opening a connection** gives a new one, with what its repository speaks to, or fails as the
repository says; the sources stay the same. -/
theorem connect_cases (site : Site) (id : RepositoryId) :
    (∃ backend site', site.backendOf id = .ok backend ∧
      connect id site = .ok ⟨site.connections.size⟩ site' ∧ SameSources site site' ∧
      site'.connections = site.connections.push { backend }) ∨
    ∃ fault site', site.backendOf id = .error fault ∧ connect id site = .error fault site' ∧
      SameSources site site' ∧ site'.connections = site.connections := by
  rcases h : site.repositories[id.index]? with
    _ | ⟨address, name, timeout⟩ | ⟨config, loaded⟩ | table
  · refine .inr ⟨.connectionClosed, site, by simp only [backendOf, h], ?_, ⟨rfl, rfl, rfl⟩, rfl⟩
    simp only [connect, get_bind, h]
    rfl
  · refine .inl ⟨.server (endpointOf address name) timeout, _, by simp only [backendOf, h]; rfl, ?_,
      sameSources_with site site.events site.graphs _, rfl⟩
    simp only [connect, get_bind, h]
    rfl
  · have hbackend : site.backendOf id
        = (Repository.files config loaded).backend site.engine site.files id := by
      simp only [backendOf, h]
    have hbegin : connect id site = (loadRepository id >>= fun loaded =>
        addConnection { backend := .graph loaded.graph }) site := by
      simp only [connect, get_bind, h]
    rcases loadRepository_cases h with ⟨graph, serial, site₁, hgraph, hload, hsame, hconnections⟩ |
      ⟨fault, site₁, hgraph, hload, hsame, hconnections⟩
    · have hadd := addConnection_eq site₁ { backend := .graph graph }
      rw [hconnections] at hadd
      exact .inl ⟨_, _, hbackend.trans hgraph, (hbegin.trans (bind_ok hload _)).trans hadd,
        hsame.trans (sameSources_with site₁ site₁.events site₁.graphs _), rfl⟩
    · exact .inr ⟨fault, site₁, hbackend.trans hgraph, hbegin.trans (bind_error hload _), hsame,
        hconnections⟩
  · rcases hrefusal : table.refusal with _ | fault
    · have hbackend : (Repository.table table).backend site.engine site.files id
          = .ok (.table id) := by simp only [Repository.backend, hrefusal]
      let site₁ := { site with connections := site.connections.push { backend := .table id } }
      let lend : Repository → Repository
        | .table table => .table { table with
            connections := table.connections ++ [⟨site.connections.size⟩] }
        | other => other
      have hmodify : site₁.SameSources
          { site₁ with repositories := site₁.repositories.modify id.index lend } :=
        sameSources_modify site₁ lend h rfl (by simp only [lend, Repository.backend, hrefusal])
      refine .inl ⟨.table id, _, by simp only [backendOf, h, hbackend], ?_,
        (sameSources_with site site.events site.graphs _).trans hmodify, rfl⟩
      simp only [connect, get_bind, h, hrefusal]
      rfl
    · refine .inr ⟨fault, site, by simp only [backendOf, h, Repository.backend, hrefusal], ?_,
        ⟨rfl, rfl, rfl⟩, rfl⟩
      simp only [connect, get_bind, h, hrefusal]
      rfl

/-- A connection that is taken in answers. -/
theorem serves_push {site site' : Site} {c : Connection}
    (h : site'.connections = site.connections.push c) (hopen : c.closed = false) :
    site'.Serves ⟨site.connections.size⟩ (site'.replyAt ⟨site.connections.size⟩) := by
  have hc : site'.connections[site.connections.size]? = some c := by simp [h]
  refine ⟨c, hc, hopen, fun query => ?_⟩
  simp only [replyAt, hc]

/-- **A connection that is opened** is a new one, and answers. -/
theorem connect_opens {repository : RepositoryId} {id : ConnectionId} {site site' : Site}
    (h : connect repository site = .ok id site') :
    site.connections.size ≤ id.index ∧ site'.Serves id (site'.replyAt id) := by
  rcases connect_cases site repository with ⟨backend, site₁, -, hconnect, -, hpush⟩ |
    ⟨fault, site₁, -, hconnect, -, -⟩
  · obtain ⟨rfl, rfl⟩ := EStateM.Result.ok.inj (hconnect.symm.trans h)
    exact ⟨Nat.le_refl _, serves_push hpush rfl⟩
  · exact absurd (hconnect.symm.trans h) (by simp)

end Site

end Gazetteer
