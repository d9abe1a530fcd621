import Gazetteer.Proofs.Feed.Outcome
import Gazetteer.Proofs.Sparql.Table

/-!
# Proofs/Feed/Clients — the same table from a graph and from a server

A connection to a local repository asks the engine, which goes through a graph, and one to a server
reads the document that it is sent. Where both are answered with one table, the connections are not
to be told apart (`clients_agree`): they give the same rows with the same columns, and a listener is
handed the same records and stopped at the same point, over the bare connections and by the feeds.
-/

namespace Gazetteer

open Gazetteer.Action Sparql

/-! ## Answers with a table -/

/-- Whether a backend is answered with a table: the engine finds it in the graph, or the server
sends a document that encodes it, with the status 200. -/
inductive Backend.Finds (site : Site) (query : String) (t : Table) : Backend → Prop
  | graph {graph : Rdf.Graph} (hquery : site.engine.query graph query = .ok t.answer) :
      Finds site query t (.graph graph)
  | server {endpoint : String} {timeout : Value} {response : Response} {document : Value}
      (hpost : site.transport.post endpoint query = .ok response) (hstatus : response.status = 200)
      (hjson : response.json = .ok document) (hdocument : t.Encodes document) :
      Finds site query t (.server endpoint timeout)

namespace Site

/-- Whether a connection is open and speaks to a backend. -/
def IsOpen (site : Site) (id : ConnectionId) (backend : Backend) : Prop :=
  ∃ c, site.connections[id.index]? = some c ∧ c.closed = false ∧ c.backend = backend

variable {site : Site} {id : ConnectionId} {backend : Backend} {query : String} {t : Table}

theorem reply_of_finds (h : backend.Finds site query t) :
    site.reply backend query = .ok t.toRows := by
  cases h with
  | @graph graph hquery =>
    rw [reply, Rdf.Engine.rows, hquery, ← Table.toRows_answer]
    rfl
  | @server endpoint timeout response document hpost hstatus hjson hdocument =>
    have hok : response.isOk = true := by
      rw [Response.isOk, hstatus]
      rfl
    simp only [reply, hpost, Response.rows, hstatus, hok, hjson, hdocument.rowsOf_eq]
    rfl

/-- **A table is what a query gives** over an open connection that is answered with it. -/
theorem outcome_evaluate_of_finds (hopen : site.IsOpen id backend)
    (h : backend.Finds site query t) :
    ∃ site', outcome (Site.evaluate id query) site = (.ok t.toRows, site') := by
  obtain ⟨c, hc, hclosed, rfl⟩ := hopen
  obtain ⟨events, hevaluate⟩ := evaluate_eq hc hclosed query
  rw [reply_of_finds h] at hevaluate
  exact ⟨_, outcome_ok hevaluate⟩

end Site

namespace Feed

variable {ℓ : Type} {listener : Listener ℓ} {l l' : ℓ} {handed : List Entity} {stop : Stop}
  {site : Site} {connection : ConnectionId} {backend : Backend} {query : String} {t : Table}

/-! ## From the answer to the listener -/

/-- Asks a query over a connection, and hands the records of the rows to a listener. -/
def stream (connection : ConnectionId) (query : String) (listener : Listener ℓ) :
    Action (Site × ℓ) Unit := do
  let rows ← onFirst (Site.evaluate connection query)
  let _ ← onSecond (rows.deliver listener)

/-- Whether an action hands records to a listener and ends with a result, whatever it does to the
site. -/
def Hands (action : Action (Site × ℓ × List Entity) Unit) (site : Site) (l : ℓ)
    (handed : List Entity) (result : Except Fault Unit) (l' : ℓ) : Prop :=
  ∃ site', outcome action (site, l, []) = (result, site', l', handed)

theorem hands_stream (hopen : site.IsOpen connection backend) (h : backend.Finds site query t)
    (hdelivered : Delivered listener t.toRows l handed stop l') :
    Hands (stream connection query listener.noting) site l handed (stop.result id) l' := by
  obtain ⟨site', hevaluate⟩ := Site.outcome_evaluate_of_finds hopen h
  refine ⟨site', ?_⟩
  rw [stream, outcome_ask hevaluate, delivered_eq hdelivered.noting]

/-- **A feed of the service** is its connection, but that a fault surfaces as a failed query. -/
theorem hands_push_remote (hopen : site.IsOpen connection backend) (h : backend.Finds site query t)
    {language : String} (hlanguage : Text.lowerCase language = sparql)
    (hdelivered : Delivered listener t.toRows l handed stop l') :
    Hands (push listener.noting (.remote connection language query)) site l handed
      (stop.result remoteFault) l' := by
  obtain ⟨site', hevaluate⟩ := Site.outcome_evaluate_of_finds hopen h
  refine ⟨site', ?_⟩
  rw [push, outcome_mapFault, Site.evaluate_of_lowerCase hlanguage, outcome_ask hevaluate,
    delivered_eq hdelivered.noting, mapError_remoteFault]

/-- **A feed of local files** asks a connection of its own to their graph. -/
theorem hands_push_files {config : Resource} {graph : Rdf.Graph} {fingerprint : Option Int}
    (hgraph : Repository.graphOf site.engine site.files config = .ok graph)
    (h : (Backend.graph graph).Finds site query t)
    (hdelivered : Delivered listener t.toRows l handed stop l') :
    Hands (push listener.noting (.files config query fingerprint)) site l handed
      (stop.result id) l' := by
  have hreply : site.engine.rows graph query = .ok t.toRows := Site.reply_of_finds h
  obtain ⟨site', -, hrun⟩ := push_files_eq site config query fingerprint
  refine ⟨site', ?_⟩
  rw [hrun, localRows, hgraph]
  simp only [hreply]
  exact delivered_eq hdelivered.noting site'

/-! ## The clients agree -/

/-- How the clients of a graph and of a server compare that are answered with one table. -/
structure ClientsAgree (t : Table) (query : String) (here : Site) (near : ConnectionId)
    (graph : Rdf.Graph) (there : Site) (far : ConnectionId) : Prop where
  near_rows : (outcome (Site.evaluate near query) here).1 = .ok t.toRows
  far_rows : (outcome (Site.evaluate far query) there).1 = .ok t.toRows
  /-- A row for each one of the table, all with the variables in their order. -/
  columns : t.toRows.rows.map (·.map Prod.fst) = t.rows.map fun _ => t.names.map .string
  /-- Whoever listens is handed the same records and stopped at the same point. -/
  streams : ∀ {ℓ : Type} (listener : Listener ℓ) (l : ℓ), ∃ handed stop l',
    Delivered listener t.toRows l handed stop l' ∧
    Hands (stream near query listener.noting) here l handed (stop.result id) l' ∧
    Hands (stream far query listener.noting) there l handed (stop.result id) l' ∧
    (∀ config fingerprint, Repository.graphOf here.engine here.files config = .ok graph →
      Hands (push listener.noting (.files config query fingerprint)) here l handed
        (stop.result id) l') ∧
    ∀ language, Text.lowerCase language = sparql →
      Hands (push listener.noting (.remote far language query)) there l handed
        (stop.result remoteFault) l'

/-- **The client of a graph and the client of a server agree** on every table. -/
theorem clients_agree {here there : Site} {near far : ConnectionId} {graph : Rdf.Graph}
    {endpoint : String} {timeout : Value} (hnear : here.IsOpen near (.graph graph))
    (hgraph : (Backend.graph graph).Finds here query t)
    (hfar : there.IsOpen far (.server endpoint timeout))
    (hserver : (Backend.server endpoint timeout).Finds there query t) :
    ClientsAgree t query here near graph there far where
  near_rows := by
    obtain ⟨here', hevaluate⟩ := Site.outcome_evaluate_of_finds hnear hgraph
    rw [hevaluate]
  far_rows := by
    obtain ⟨there', hevaluate⟩ := Site.outcome_evaluate_of_finds hfar hserver
    rw [hevaluate]
  columns := t.map_map_fst_toRows
  streams listener l := by
    obtain ⟨handed, stop, l', hdelivered⟩ := exists_delivered listener t.toRows l
    exact ⟨handed, stop, l', hdelivered, hands_stream hnear hgraph hdelivered,
      hands_stream hfar hserver hdelivered,
      fun _ _ hconfig => hands_push_files hconfig hgraph hdelivered,
      fun _ hlanguage => hands_push_remote hfar hserver hlanguage hdelivered⟩

/-- A table of two rows, the second of which is not full. -/
def portTable : Table where
  names := ["inst", "class", "label"]
  rows := [[some "i", some "c", some "Malta"], [some "j", none, some "Gozo"]]
  nodup := by decide
  full := by decide

/-- The document of a server that writes the labels first. -/
def portDocument : Value :=
  .object [("head", .object [("vars", .array [.string "inst", .string "class", .string "label"])]),
    ("results", .object [("bindings", .array [
      .object [("label", term "Malta"), ("inst", term "i"), ("class", term "c")],
      .object [("label", term "Gozo"), ("inst", term "j")]])])]
where
  term (text : String) : Value := .object [("type", .string "literal"), ("value", .string text)]

/-- An engine and a server that both have the table, and a connection to each. -/
def portSite : Site :=
  { Site.bare with
    transport := { Transport.offline with post := fun _ _ => .ok { json := .ok portDocument } }
    engine := { Rdf.Engine.blank with query := fun _ _ => .ok portTable.answer }
    connections := #[{ backend := .graph {} }, { backend := .server "e" .null }] }

theorem encodes_portDocument : portTable.Encodes portDocument := by
  have hterm : ∀ text, Table.IsTerm text (portDocument.term text) := fun _ => ⟨_, rfl, rfl⟩
  refine ⟨_, ⟨_, _, _, _, rfl, rfl, rfl, rfl, rfl, rfl⟩, .cons ?_ (.cons ?_ .nil)⟩
  · refine ⟨_, rfl, by decide, fun entry hentry => ?_⟩
    have hentries : portTable.bound [some "i", some "c", some "Malta"]
        = [("inst", "i"), ("class", "c"), ("label", "Malta")] := rfl
    rw [hentries] at hentry
    simp only [List.mem_cons, List.not_mem_nil, or_false] at hentry
    rcases hentry with rfl | rfl | rfl <;> exact ⟨_, by simp, hterm _⟩
  · refine ⟨_, rfl, by decide, fun entry hentry => ?_⟩
    have hentries : portTable.bound [some "j", none, some "Gozo"]
        = [("inst", "j"), ("label", "Gozo")] := rfl
    rw [hentries] at hentry
    simp only [List.mem_cons, List.not_mem_nil, or_false] at hentry
    rcases hentry with rfl | rfl <;> exact ⟨_, by simp, hterm _⟩

theorem clients_agree_port : ClientsAgree portTable "q" portSite ⟨0⟩ {} portSite ⟨1⟩ :=
  clients_agree ⟨_, rfl, rfl, rfl⟩ (.graph rfl) ⟨_, rfl, rfl, rfl⟩
    (.server rfl rfl rfl encodes_portDocument)

end Feed

end Gazetteer
