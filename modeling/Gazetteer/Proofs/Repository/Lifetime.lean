import Gazetteer.Proofs.Repository.Loading
import Gazetteer.Repository.Evaluation

/-!
# Proofs/Repository/Lifetime — a local repository from call to call

A local repository is asked for its graph, asked for connections and shut down, in any order, while
what can be read comes and goes. `Visit.Moves` is all that one call can do: it gives out the graph
that is loaded, loads one, fails to load one, or forgets it. From call to call the repository has a
graph just when a load stands (`Kept`): it succeeded, and there was no shutdown since. `Lifetime` is
what follows for a whole run (`lifetime`): nothing is read while a load stands, a load begins with a
new graph and leaves nothing behind when it fails, and connections keep their graph.
-/

namespace Gazetteer.Repository

open Gazetteer.Action

/-! ## Calls -/

/-- A call to a repository. -/
inductive RepositoryCall where
  | load
  | connect
  | shutdown

/-- What a call gives: the graph that is loaded, a new connection, or nothing. -/
inductive CallResult where
  | graph (loaded : Loaded)
  | connection (id : ConnectionId)
  | done

/-- Makes a call. -/
def RepositoryCall.perform (id : RepositoryId) : RepositoryCall → Action Site CallResult
  | load => .graph <$> Site.loadRepository id
  | connect => .connection <$> Site.connect id
  | shutdown => (fun _ => .done) <$> Site.shutdown id

/-- A call, and what the engine reads and the files are by then: what could be read before may be
gone, and what could not may be there. -/
structure Turn where
  call : RepositoryCall
  engine : Rdf.Engine
  files : Files

/-- A call that has been made: what it gave, and the sites before and after. -/
structure Visit where
  call : RepositoryCall
  result : Except Fault CallResult
  before : Site
  after : Site

section Runs

variable (id : RepositoryId)

/-- The site at a turn. -/
def Turn.begin (turn : Turn) (site : Site) : Site :=
  { site with engine := turn.engine, files := turn.files }

/-- The visit of a turn. -/
def visitAt (site : Site) (turn : Turn) : Visit where
  call := turn.call
  result := (outcome (turn.call.perform id) (turn.begin site)).1
  before := turn.begin site
  after := (outcome (turn.call.perform id) (turn.begin site)).2

/-- The visits of a run, one for each turn. -/
def visits : Site → List Turn → List Visit
  | _, [] => []
  | site, turn :: rest => visitAt id site turn :: visits (visitAt id site turn).after rest

/-- The site that a run leaves. -/
def siteAfter : Site → List Turn → Site
  | site, [] => site
  | site, turn :: rest => siteAfter (visitAt id site turn).after rest

end Runs

namespace Visit

/-! ## What a visit does -/

/-- Whether a visit gives out a loaded graph: the graph, or a new connection to it. -/
inductive Gives (v : Visit) (loaded : Loaded) : Prop
  | graph (hcall : v.call = .load) (hresult : v.result = .ok (.graph loaded))
  | connection {id : ConnectionId} (hcall : v.call = .connect)
      (hresult : v.result = .ok (.connection id)) (hnew : id.index = v.before.connections.size)
      (hopen : v.after.connections[id.index]? = some { backend := .graph loaded.graph })

/-- Whether a visit reads nothing and begins no graph. -/
def IsQuiet (v : Visit) : Prop :=
  v.after.events = v.before.events ∧ v.after.graphs = v.before.graphs

/-- What a visit reads that loads a configuration, and how the load ends. -/
def Reads (config : Resource) (v : Visit) (result : Except Fault Rdf.Graph) : Prop :=
  ∃ events, Loads v.before.engine v.before.files config events result ∧
    v.after.events = v.before.events ++ events ∧ v.after.graphs = v.before.graphs + begun events

/-- Whether a visit loads a configuration and gives out its graph, which has the number of the graph
begun last. -/
structure IsLoad (config : Resource) (v : Visit) (loaded : Loaded) : Prop where
  call : v.call ≠ .shutdown
  reads : v.Reads config (.ok loaded.graph)
  serial : loaded.serial = v.after.graphs
  gives : v.Gives loaded

/-- Whether a visit begins to load a configuration and fails. -/
structure IsFailure (config : Resource) (v : Visit) (fault : Fault) : Prop where
  call : v.call ≠ .shutdown
  reads : v.Reads config (.error fault)
  result : v.result = .error fault

/-- What a visit does to a repository that has a graph or none, and what the repository has then. -/
inductive Moves (config : Resource) (v : Visit) : Option Loaded → Option Loaded → Prop
  | shutdown {loaded? : Option Loaded} (hcall : v.call = .shutdown) (hresult : v.result = .ok .done)
      (hquiet : v.IsQuiet) : Moves config v loaded? none
  | again {loaded : Loaded} (hcall : v.call ≠ .shutdown) (hgives : v.Gives loaded)
      (hquiet : v.IsQuiet) : Moves config v (some loaded) (some loaded)
  | load {loaded : Loaded} (hload : v.IsLoad config loaded) : Moves config v none (some loaded)
  | failure {fault : Fault} (hfailure : v.IsFailure config fault) : Moves config v none none

end Visit

variable {id : RepositoryId} {site : Site} {config : Resource} {loaded : Loaded}

/-! ## One call -/

/-- The site after a load that ends with a graph. -/
def withLoaded (site : Site) (id : RepositoryId) (config : Resource) (loaded : Loaded) :
    Site :=
  { site with repositories :=
      site.repositories.modify id.index fun _ => .files config (some loaded) }

/-- The site with a new connection to a graph. -/
def withGraph (site : Site) (graph : Rdf.Graph) : Site :=
  { site with connections := site.connections.push { backend := .graph graph } }

theorem outcome_loadRepository_some
    (h : site.repositories[id.index]? = some (.files config (some loaded))) :
    outcome (Site.loadRepository id) site = (.ok loaded, site) := by
  rw [outcome]
  simp only [Site.loadRepository, get_bind, h]
  rfl

theorem outcome_loadRepository_none
    (h : site.repositories[id.index]? = some (.files config none)) :
    ∃ events result, Loads site.engine site.files config events result ∧
      outcome (Site.loadRepository id) site = match result with
        | .ok graph =>
          let loaded := ⟨(told site events).graphs, graph⟩
          (.ok loaded, withLoaded (told site events) id config loaded)
        | .error fault => (.error fault, told site events) := by
  obtain ⟨events, result, hloads, hload⟩ := outcome_loadGraph site config
  refine ⟨events, result, hloads, ?_⟩
  have hbegin : outcome (Site.loadRepository id) site
      = outcome (loadGraph config >>= fun graph => do
          let site ← get
          Site.updateRepository id fun _ => .files config (some ⟨site.graphs, graph⟩)
          return ⟨site.graphs, graph⟩) site := by
    rw [outcome, outcome]
    simp only [Site.loadRepository, get_bind, h]
  rw [hbegin, outcome_bind, hload]
  cases result <;> rfl

/-- **A connection** is one to the graph that is loaded, or to be loaded. -/
theorem outcome_connect {loaded? : Option Loaded}
    (h : site.repositories[id.index]? = some (.files config loaded?)) :
    outcome (Site.connect id) site = match outcome (Site.loadRepository id) site with
      | (.ok loaded, site') => (.ok ⟨site'.connections.size⟩, withGraph site' loaded.graph)
      | (.error fault, site') => (.error fault, site') := by
  have hbegin : outcome (Site.connect id) site = outcome (Site.loadRepository id >>= fun loaded =>
      Site.addConnection { backend := .graph loaded.graph }) site := by
    rw [outcome, outcome]
    simp only [Site.connect, get_bind, h]
  rw [hbegin, outcome_bind]
  rcases outcome (Site.loadRepository id) site with ⟨_ | _, _⟩ <;> rfl

/-- The connections of a site are those of an earlier one, and more. -/
def Extends (since site : Site) : Prop :=
  ∀ (i : Nat) (c : Connection), since.connections[i]? = some c → site.connections[i]? = some c

theorem extends_withGraph (site : Site) (graph : Rdf.Graph) :
    Extends site (withGraph site graph) := by
  intro i c hc
  have hne : i ≠ site.connections.size := by
    rintro rfl
    simp at hc
  rw [withGraph, Array.getElem?_push, if_neg hne, hc]

theorem repositories_modify {f : Repository → Repository} {repository : Repository}
    (h : site.repositories[id.index]? = some repository) :
    (site.repositories.modify id.index f)[id.index]? = some (f repository) := by
  rw [Array.getElem?_modify, if_pos rfl, h, Option.map_some]

/-- How a call hands out a graph that is loaded, at a site. -/
inductive HandsOut (loaded : Loaded) (site : Site) : RepositoryCall → CallResult → Site → Prop
  | load : HandsOut loaded site .load (.graph loaded) site
  | connect : HandsOut loaded site .connect (.connection ⟨site.connections.size⟩)
      (withGraph site loaded.graph)

theorem HandsOut.gives {call : RepositoryCall} {result : CallResult} {before site' : Site}
    (h : HandsOut loaded site call result site') (hbefore : before.connections = site.connections) :
    (⟨call, .ok result, before, site'⟩ : Visit).Gives loaded := by
  cases h with
  | load => exact .graph rfl rfl
  | connect => exact .connection rfl rfl (by rw [hbefore]) (by simp [withGraph])

theorem HandsOut.keeps {call : RepositoryCall} {result : CallResult} {site' : Site}
    (h : HandsOut loaded site call result site') : site'.events = site.events ∧
      site'.graphs = site.graphs ∧ site'.repositories = site.repositories ∧
      Extends site site' := by
  cases h with
  | load => exact ⟨rfl, rfl, rfl, fun _ _ hc => hc⟩
  | connect => exact ⟨rfl, rfl, rfl, extends_withGraph site loaded.graph⟩

/-- **A call that is no shutdown** asks for the graph first, and hands it out. -/
theorem outcome_perform {call : RepositoryCall} {loaded? : Option Loaded}
    (hcall : call ≠ .shutdown) (h : site.repositories[id.index]? = some (.files config loaded?)) :
    match outcome (Site.loadRepository id) site with
    | (.ok loaded, site₁) => ∃ result site', HandsOut loaded site₁ call result site' ∧
        outcome (call.perform id) site = (.ok result, site')
    | (.error fault, site₁) => outcome (call.perform id) site = (.error fault, site₁) := by
  cases call with
  | shutdown => exact absurd rfl hcall
  | load =>
    have hrun : outcome (RepositoryCall.load.perform id) site
        = ((outcome (Site.loadRepository id) site).1.map CallResult.graph,
            (outcome (Site.loadRepository id) site).2) := outcome_map _ _ _
    rw [hrun]
    rcases outcome (Site.loadRepository id) site with ⟨_ | _, _⟩
    · rfl
    · exact ⟨_, _, .load, rfl⟩
  | connect =>
    have hrun : outcome (RepositoryCall.connect.perform id) site
        = ((outcome (Site.connect id) site).1.map CallResult.connection,
            (outcome (Site.connect id) site).2) := outcome_map _ _ _
    rw [hrun, outcome_connect h]
    rcases outcome (Site.loadRepository id) site with ⟨_ | _, _⟩
    · rfl
    · exact ⟨_, _, .connect, rfl⟩

/-- What a visit does to a site with a local repository. -/
structure Visit.Steps (id : RepositoryId) (config : Resource) (loaded? : Option Loaded) (v : Visit)
    (loaded?' : Option Loaded) : Prop where
  moves : v.Moves config loaded? loaded?'
  repository : v.after.repositories[id.index]? = some (.files config loaded?')
  connections : Extends v.before v.after

/-- **What one call does** to a local repository. -/
theorem exists_steps {loaded? : Option Loaded} (turn : Turn)
    (h : site.repositories[id.index]? = some (.files config loaded?)) :
    ∃ loaded?', (visitAt id site turn).Steps id config loaded? loaded?' := by
  have hvisit : ∀ {result site'},
      outcome (turn.call.perform id) (turn.begin site) = (result, site') →
      visitAt id site turn = ⟨turn.call, result, turn.begin site, site'⟩ := by
    intro result site' hrun
    rw [visitAt, hrun]
  have h' : (turn.begin site).repositories[id.index]? = some (.files config loaded?) := h
  by_cases hcall : turn.call = .shutdown
  · rw [hvisit (by rw [hcall]), hcall]
    exact ⟨none, .shutdown rfl rfl ⟨rfl, rfl⟩, repositories_modify h, fun _ _ hc => hc⟩
  · have hperform := outcome_perform hcall h'
    cases loaded? with
    | some loaded =>
      rw [outcome_loadRepository_some h'] at hperform
      obtain ⟨result, site', hhands, hrun⟩ := hperform
      obtain ⟨hevents, hgraphs, hrepositories, hextends⟩ := hhands.keeps
      rw [hvisit hrun]
      exact ⟨some loaded, .again hcall (hhands.gives rfl) ⟨hevents, hgraphs⟩,
        hrepositories ▸ h', hextends⟩
    | none =>
      obtain ⟨events, result, hloads, hload⟩ := outcome_loadRepository_none h'
      rw [hload] at hperform
      cases result with
      | error fault =>
        rw [hvisit hperform]
        exact ⟨none, .failure ⟨hcall, ⟨events, hloads, rfl, rfl⟩, rfl⟩, h', fun _ _ hc => hc⟩
      | ok graph =>
        obtain ⟨result, site', hhands, hrun⟩ := hperform
        obtain ⟨hevents, hgraphs, hrepositories, hextends⟩ := hhands.keeps
        rw [hvisit hrun]
        exact ⟨some _, .load ⟨hcall, ⟨events, hloads, hevents, hgraphs⟩, hgraphs.symm,
          hhands.gives rfl⟩, hrepositories ▸ repositories_modify h', hextends⟩

/-! ## From call to call -/

/-- Whether a load stands after some visits: it succeeded, and no shutdown followed. -/
inductive Stands (config : Resource) (loaded : Loaded) : List Visit → Prop
  | load {trace : List Visit} {v : Visit} (hload : v.IsLoad config loaded) :
      Stands config loaded (trace ++ [v])
  | visit {trace : List Visit} {v : Visit} (h : Stands config loaded trace)
      (hcall : v.call ≠ .shutdown) : Stands config loaded (trace ++ [v])

theorem not_stands_nil : ¬ Stands config loaded [] := by
  generalize htrace : [] = trace
  rintro (_ | _) <;> exact absurd htrace (by simp)

theorem stands_append_singleton {trace : List Visit} {v : Visit} :
    Stands config loaded (trace ++ [v]) ↔
      v.IsLoad config loaded ∨ Stands config loaded trace ∧ v.call ≠ .shutdown := by
  constructor
  · generalize htrace : trace ++ [v] = trace'
    rintro (⟨hload⟩ | ⟨h, hcall⟩)
    · obtain ⟨-, hv⟩ := List.append_inj' htrace rfl
      obtain rfl := List.singleton_inj.mp hv
      exact .inl hload
    · obtain ⟨rfl, hv⟩ := List.append_inj' htrace rfl
      obtain rfl := List.singleton_inj.mp hv
      exact .inr ⟨h, hcall⟩
  · rintro (hload | ⟨h, hcall⟩)
    · exact .load hload
    · exact .visit h hcall

/-- A graph that is given out is the one that is loaded. -/
theorem Visit.IsLoad.unique {v : Visit} {loaded loaded' : Loaded} (h : v.IsLoad config loaded)
    (h' : v.IsLoad config loaded') : loaded' = loaded := by
  have hgraph : loaded'.graph = loaded.graph := by
    rcases h.gives with ⟨hcall, hresult⟩ | ⟨hcall, hresult, -, hopen⟩ <;>
      rcases h'.gives with ⟨hcall', hresult'⟩ | ⟨hcall', hresult', -, hopen'⟩
    · rw [CallResult.graph.inj (Except.ok.inj (hresult'.symm.trans hresult))]
    · exact absurd (hcall.symm.trans hcall') (by simp)
    · exact absurd (hcall.symm.trans hcall') (by simp)
    · obtain rfl : _ = _ := CallResult.connection.inj (Except.ok.inj (hresult.symm.trans hresult'))
      simpa using hopen'.symm.trans hopen
  obtain ⟨serial, graph⟩ := loaded
  obtain ⟨serial', graph'⟩ := loaded'
  obtain rfl : graph' = graph := hgraph
  rw [show serial' = serial from h'.serial.trans h.serial.symm]

/-- A visit that loads a graph is not quiet. -/
theorem Visit.IsLoad.not_isQuiet {v : Visit} (h : v.IsLoad config loaded) : ¬ v.IsQuiet := by
  rintro ⟨-, hgraphs⟩
  obtain ⟨events, hloads, -, hbegun⟩ := h.reads
  rw [hloads.begun_eq, hgraphs] at hbegun
  exact absurd hbegun (Nat.ne_of_lt (Nat.lt_succ_self _))

/-- Whether a site keeps a local repository as the visits so far demand: it has a graph just when a
load stands. -/
def Kept (id : RepositoryId) (config : Resource) (trace : List Visit) (site : Site) : Prop :=
  ∃ loaded?, site.repositories[id.index]? = some (.files config loaded?) ∧
    ∀ loaded, loaded? = some loaded ↔ Stands config loaded trace

theorem Visit.Moves.stands_iff {trace : List Visit} {v : Visit} {loaded? loaded?' : Option Loaded}
    (h : v.Moves config loaded? loaded?')
    (hstands : ∀ loaded, loaded? = some loaded ↔ Stands config loaded trace) (loaded : Loaded) :
    loaded?' = some loaded ↔ Stands config loaded (trace ++ [v]) := by
  rw [stands_append_singleton, ← hstands]
  cases h with
  | shutdown hcall hresult hquiet =>
    exact iff_of_false (by simp) fun h => h.elim (fun hload => hload.call hcall)
      fun hkept => hkept.2 hcall
  | again hcall hgives hquiet =>
    exact ⟨fun h => .inr ⟨h, hcall⟩, fun h => h.elim
      (fun hload => absurd hquiet hload.not_isQuiet) And.left⟩
  | load hload =>
    constructor
    · intro h
      exact .inl (Option.some.inj h ▸ hload)
    · rintro (hload' | ⟨h, -⟩)
      · rw [hload.unique hload']
      · exact absurd h (by simp)
  | failure hfailure =>
    refine iff_of_false (by simp) ?_
    rintro (hload | ⟨h, -⟩)
    · rcases hload.gives with ⟨-, hresult⟩ | ⟨-, hresult, -, -⟩ <;>
        exact absurd (hresult.symm.trans hfailure.result) (by simp)
    · exact absurd h (by simp)

/-- **One more visit** keeps the repository as it demands. -/
theorem Kept.visitAt {trace : List Visit} (h : Kept id config trace site) (turn : Turn) :
    Kept id config (trace ++ [visitAt id site turn]) (visitAt id site turn).after := by
  obtain ⟨loaded?, hrepository, hstands⟩ := h
  obtain ⟨loaded?', hsteps⟩ := exists_steps turn hrepository
  exact ⟨loaded?', hsteps.repository, hsteps.moves.stands_iff hstands⟩

/-- **A visit of a run** is one at a site that is kept as the visits before it demand. -/
theorem Kept.split {v : Visit} {after : List Visit} : ∀ {before earlier : List Visit} {site : Site}
    {turns : List Turn}, Kept id config earlier site → visits id site turns = before ++ v :: after →
    ∃ site' turn rest, v = Repository.visitAt id site' turn ∧
      Kept id config (earlier ++ before) site' ∧
      siteAfter id site turns = siteAfter id v.after rest
  | _, _, _, [], _, hsplit => absurd hsplit (by simp [visits])
  | [], earlier, site, turn :: rest, h, hsplit => by
      obtain ⟨rfl, rfl⟩ := List.cons.inj hsplit
      exact ⟨site, turn, rest, rfl, by rwa [List.append_nil], rfl⟩
  | w :: before, earlier, site, turn :: rest, h, hsplit => by
      obtain ⟨rfl, hrest⟩ := List.cons.inj hsplit
      obtain ⟨site', turn', rest', hv, hkept, hsite⟩ := (h.visitAt turn).split hrest
      rw [List.append_assoc] at hkept
      exact ⟨site', turn', rest', hv, hkept, hsite⟩

/-- Connections stay as they are to the end of a run. -/
theorem Kept.extends_siteAfter : ∀ {turns : List Turn} {trace : List Visit} {site : Site},
    Kept id config trace site → Extends site (siteAfter id site turns)
  | [], _, _, _ => fun _ _ hc => hc
  | turn :: rest, _, site, h => by
      have ⟨_, hrepository, _⟩ := h
      obtain ⟨loaded?', hsteps⟩ := exists_steps turn hrepository
      exact fun i c hc => (h.visitAt turn).extends_siteAfter i c (hsteps.connections i c hc)

/-- A load stands on through visits that are no shutdowns. -/
theorem Stands.append {trace visits : List Visit} (h : Stands config loaded trace)
    (hvisits : ∀ v ∈ visits, v.call ≠ .shutdown) : Stands config loaded (trace ++ visits) := by
  induction visits generalizing trace with
  | nil => rwa [List.append_nil]
  | cons v visits ih =>
    obtain ⟨hv, hvisits⟩ := List.forall_mem_cons.mp hvisits
    have hstands := ih (.visit h hv) hvisits
    rwa [List.append_assoc] at hstands

theorem Visit.Gives.connections {v : Visit} {connection : ConnectionId} (h : v.Gives loaded)
    (hresult : v.result = .ok (.connection connection)) :
    v.after.connections[connection.index]? = some { backend := .graph loaded.graph } := by
  rcases h with ⟨-, hgraph⟩ | ⟨-, hconnection, -, hopen⟩
  · exact absurd (hresult.symm.trans hgraph) (by simp)
  · obtain rfl := CallResult.connection.inj (Except.ok.inj (hresult.symm.trans hconnection))
    exact hopen

/-- A connection is given out by a visit that leaves a graph loaded. -/
theorem Visit.Moves.exists_gives {v : Visit} {loaded? loaded?' : Option Loaded}
    {connection : ConnectionId} (h : v.Moves config loaded? loaded?')
    (hresult : v.result = .ok (.connection connection)) :
    ∃ loaded, loaded?' = some loaded ∧ v.Gives loaded := by
  cases h with
  | shutdown _ hdone => exact absurd (hresult.symm.trans hdone) (by simp)
  | again _ hgives => exact ⟨_, rfl, hgives⟩
  | load hload => exact ⟨_, rfl, hload.gives⟩
  | failure hfailure => exact absurd (hresult.symm.trans hfailure.result) (by simp)

/-! ## Whole runs -/

section Splits

variable {turns : List Turn} {before after : List Visit} {v : Visit}
variable (h : Kept id config [] site) (hsplit : visits id site turns = before ++ v :: after)

include h hsplit

/-- **A visit of a run** moves the repository on from what the visits before it left. -/
theorem Kept.exists_steps : ∃ loaded? loaded?', v.Steps id config loaded? loaded?' ∧
    (∀ loaded, loaded? = some loaded ↔ Stands config loaded before) ∧
    (∀ loaded, loaded?' = some loaded ↔ Stands config loaded (before ++ [v])) ∧
    Extends v.after (siteAfter id site turns) := by
  obtain ⟨site', turn, rest, rfl, hkept, hsite⟩ := h.split hsplit
  rw [List.nil_append] at hkept
  have ⟨loaded?, hrepository, hstands⟩ := hkept
  obtain ⟨loaded?', hsteps⟩ := Repository.exists_steps turn hrepository
  refine ⟨loaded?, loaded?', hsteps, hstands, hsteps.moves.stands_iff hstands, ?_⟩
  rw [hsite]
  exact (hkept.visitAt turn).extends_siteAfter

theorem Kept.gives_of_stands (hstands : Stands config loaded before) (hcall : v.call ≠ .shutdown) :
    v.Gives loaded ∧ v.IsQuiet := by
  obtain ⟨loaded?, loaded?', hsteps, hbefore, -, -⟩ := h.exists_steps hsplit
  obtain rfl := (hbefore loaded).mpr hstands
  cases hsteps.moves with
  | shutdown hcall' => exact absurd hcall' hcall
  | again _ hgives hquiet => exact ⟨hgives, hquiet⟩

theorem Kept.load_or_failure (hnone : ∀ loaded, ¬ Stands config loaded before)
    (hcall : v.call ≠ .shutdown) : (∃ loaded, v.IsLoad config loaded) ∨
      ∃ fault, v.IsFailure config fault ∧ (∀ loaded, ¬ Stands config loaded (before ++ [v])) ∧
        v.after.repositories[id.index]? = some (.files config none) := by
  obtain ⟨loaded?, loaded?', ⟨hmoves, hrepository, -⟩, hbefore, hafter, -⟩ := h.exists_steps hsplit
  cases hmoves with
  | shutdown hcall' => exact absurd hcall' hcall
  | again => exact absurd ((hbefore _).mp rfl) (hnone _)
  | load hload => exact .inl ⟨_, hload⟩
  | failure hfailure =>
    exact .inr ⟨_, hfailure, fun loaded hstands => absurd ((hafter loaded).mpr hstands) (by simp),
      hrepository⟩

theorem Kept.done_of_shutdown (hcall : v.call = .shutdown) :
    v.result = .ok .done ∧ v.IsQuiet ∧ ∀ loaded, ¬ Stands config loaded (before ++ [v]) := by
  obtain ⟨loaded?, loaded?', ⟨hmoves, -, -⟩, -, hafter, -⟩ := h.exists_steps hsplit
  cases hmoves with
  | shutdown _ hresult hquiet =>
    exact ⟨hresult, hquiet, fun loaded hstands => absurd ((hafter loaded).mpr hstands) (by simp)⟩
  | again hcall' => exact absurd hcall hcall'
  | load hload => exact absurd hcall hload.call
  | failure hfailure => exact absurd hcall hfailure.call

/-- **A connection** is over a graph whose load stands, and stays open to the end. -/
theorem Kept.connection_kept {connection : ConnectionId}
    (hresult : v.result = .ok (.connection connection)) :
    ∃ loaded, Stands config loaded (before ++ [v]) ∧ v.Gives loaded ∧
      (siteAfter id site turns).connections[connection.index]?
        = some { backend := .graph loaded.graph } := by
  obtain ⟨loaded?, loaded?', ⟨hmoves, -, -⟩, -, hafter, hextends⟩ := h.exists_steps hsplit
  obtain ⟨loaded, hloaded, hgives⟩ := hmoves.exists_gives hresult
  exact ⟨loaded, (hafter loaded).mp hloaded, hgives, hextends _ _ (hgives.connections hresult)⟩

end Splits

/-- **A graph is begun once**: after a load, the next one takes a shutdown. -/
theorem Kept.exists_shutdown (h : Kept id config [] site) {turns : List Turn}
    {before between after : List Visit} {v w : Visit}
    (hsplit : visits id site turns = before ++ v :: (between ++ w :: after))
    (hload : v.IsLoad config loaded) (hgraphs : w.after.graphs ≠ w.before.graphs) :
    ∃ x ∈ between, x.call = .shutdown := by
  refine Classical.byContradiction fun hnone => hgraphs ?_
  have hcalls : ∀ x ∈ between, x.call ≠ .shutdown := fun x hx hcall => hnone ⟨x, hx, hcall⟩
  have hstands : Stands config loaded (before ++ [v] ++ between) :=
    Stands.append (.load hload) hcalls
  have hsplit' : visits id site turns = before ++ [v] ++ between ++ w :: after := by
    rw [hsplit, List.append_assoc, List.append_assoc, List.singleton_append]
  by_cases hcall : w.call = .shutdown
  · exact (h.done_of_shutdown hsplit' hcall).2.1.2
  · exact (h.gives_of_stands hsplit' hstands hcall).2.2

/-- What a run of calls to a local repository is like. -/
structure Lifetime (id : RepositoryId) (config : Resource) (site : Site) (turns : List Turn) :
    Prop where
  /-- While a load stands, its graph is given out, and nothing is read. -/
  standing : ∀ before v after loaded, visits id site turns = before ++ v :: after →
    Stands config loaded before → v.call ≠ .shutdown → v.Gives loaded ∧ v.IsQuiet
  /-- Where no load stands, one is made, from a new graph on. Either it gives out its graph, or it
  fails, and then the repository has no graph and no load stands. -/
  fresh : ∀ before v after, visits id site turns = before ++ v :: after →
    (∀ loaded, ¬ Stands config loaded before) → v.call ≠ .shutdown →
    (∃ loaded, v.IsLoad config loaded) ∨
      ∃ fault, v.IsFailure config fault ∧ (∀ loaded, ¬ Stands config loaded (before ++ [v])) ∧
        v.after.repositories[id.index]? = some (.files config none)
  /-- After a load no other graph is begun before a shutdown. -/
  once : ∀ before v between w after loaded,
    visits id site turns = before ++ v :: (between ++ w :: after) → v.IsLoad config loaded →
    w.after.graphs ≠ w.before.graphs → ∃ x ∈ between, x.call = .shutdown
  /-- A connection is over the graph of a load that stands, and stays so to the end of the run. -/
  connections : ∀ before v after connection, visits id site turns = before ++ v :: after →
    v.result = .ok (.connection connection) → ∃ loaded, Stands config loaded (before ++ [v]) ∧
      v.Gives loaded ∧ (siteAfter id site turns).connections[connection.index]?
        = some { backend := .graph loaded.graph }
  /-- A shutdown never fails, and no load stands after it. -/
  shutdown : ∀ before v after, visits id site turns = before ++ v :: after → v.call = .shutdown →
    v.result = .ok .done ∧ v.IsQuiet ∧ ∀ loaded, ¬ Stands config loaded (before ++ [v])

/-- **The lifetime of a local repository**, from a site on where it has no graph. -/
theorem lifetime (h : site.repositories[id.index]? = some (.files config none))
    (turns : List Turn) : Lifetime id config site turns := by
  have hkept : Kept id config [] site :=
    ⟨none, h, fun loaded => iff_of_false (by simp) not_stands_nil⟩
  exact {
    standing := fun _ _ _ _ hsplit => hkept.gives_of_stands hsplit
    fresh := fun _ _ _ hsplit => hkept.load_or_failure hsplit
    once := fun _ _ _ _ _ _ hsplit => hkept.exists_shutdown hsplit
    connections := fun _ _ _ _ hsplit => hkept.connection_kept hsplit
    shutdown := fun _ _ _ hsplit => hkept.done_of_shutdown hsplit }

/-- A site with a local repository. -/
def quaySite : Site :=
  { Site.bare with repositories := #[.files (.path ⟨0, ["config.ttl"]⟩) none] }

/-- A call, when a configuration of one import can be read, and the import can or cannot. -/
def quayTurn (call : RepositoryCall) (readable : Bool) : Turn where
  call
  engine := { Rdf.Engine.blank with
    parse := fun _ graph location _ _ =>
      if location = "config.ttl" then .ok { size := 1, imports := [.literal "quay.ttl"] }
      else if readable then .ok { graph with size := graph.size + 1 }
      else .error (.outside .os "no such resource" none) }
  files := .empty []

/-- A load that fails, one that succeeds and stands, and one after a shutdown. -/
def quayTurns : List Turn :=
  [quayTurn .connect false, quayTurn .connect true, quayTurn .load false, quayTurn .shutdown true,
    quayTurn .load true]

theorem lifetime_quay : Lifetime ⟨0⟩ (.path ⟨0, ["config.ttl"]⟩) quaySite quayTurns :=
  lifetime rfl quayTurns

example : (visits ⟨0⟩ quaySite quayTurns).map (·.after.graphs) = [1, 2, 2, 2, 3] := by
  decide +kernel

end Gazetteer.Repository
