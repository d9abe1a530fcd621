import Gazetteer.Repository.Graph
import Gazetteer.Sparql.Results
import Gazetteer.Text.LowerCase

/-!
# Repository/Evaluation — opening connections, evaluating queries, and closing

A connection evaluates queries until it is closed, and in SPARQL only. Whatever it asks — a server,
a graph or a table — a query that fails does so as a failed query, but for two cases: a server's
answer whose JSON has another shape than that of query results, and a fault of the network that is
not one of transport.
-/

namespace Gazetteer

namespace Rdf.Answer

/-- The cells of a row: columns with values, as far as both go. -/
def cellsOf (columns : List String) (row : List (Option String)) : List (String × Option String) :=
  columns.zip row

/-- The value of a column among the cells of a row: the last one, if the column is repeated. -/
def cell? (cells : List (String × Option String)) (column : String) : Option (Option String) :=
  (cells.reverse.find? fun c => c.1 == column).map (·.2)

/-- The row with a value for every column; a column without a cell is a fault. -/
def rowOf (cells : List (String × Option String)) : Row → List String → Except Fault Row
  | row, [] => .ok row
  | row, column :: rest =>
    match cell? cells column with
    | none => .error (.shape (.missingKey column))
    | some value =>
      rowOf cells (Value.put (.string column) ((value.map Value.string).getD .null) row) rest

/-- The rows of an answer, up to the first that lacks a column. -/
def rowsOf (columns : List String) (failure : Option Fault) : List (List (Option String)) → Rows
  | [] => ⟨[], failure.map .evaluationFailed⟩
  | row :: rest =>
    match rowOf (cellsOf columns row) [] columns with
    | .error fault => ⟨[], some (.evaluationFailed fault)⟩
    | .ok row =>
      let others := rowsOf columns failure rest
      ⟨row :: others.rows, others.failure⟩

/-- The rows of an answer to a `SELECT` query. -/
def toRows (answer : Answer) : Rows := rowsOf answer.columns answer.failure answer.rows

end Rdf.Answer

/-- The rows in a server's answer. -/
def Response.rows (endpoint : String) (r : Response) : Except Fault Rows :=
  if r.status = 400 then .error (.queryRejected r.body)
  else if !r.isOk then .error (.answerRefused r.status r.body)
  else
    match r.json with
    | .error reason => .error (.answerUnreadable endpoint reason)
    | .ok document => (Sparql.rowsOf document).map fun rows => ⟨rows, none⟩

/-- The rows that an engine finds in a graph. -/
def Rdf.Engine.rows (engine : Rdf.Engine) (graph : Rdf.Graph) (query : String) :
    Except Fault Rows :=
  match engine.query graph query with
  | .error fault =>
    if fault.kind = .parse then .error (.queryInvalid fault) else .error (.evaluationFailed fault)
  | .ok answer =>
    if answer.form = "SELECT" then .ok answer.toRows else .error (.notSelect answer.form)

/-- The prepared answer to a query: that of the first entry whose text occurs in it, and else no
rows. -/
def PreparedTable.rows (table : PreparedTable) (query : String) : Except Fault Rows :=
  match table.answers.find? fun a => Text.occursIn a.fragment.toList query.toList with
  | some a => a.outcome
  | none => .ok ⟨[], none⟩

namespace Connection

/-- Why a connection does not take a query in a language. -/
def refusal? (c : Connection) (language : String) : Option Fault :=
  if c.closed then some .connectionClosed
  else if Text.lowerCase language = sparql then none
  else some (.unsupportedLanguage language)

end Connection

namespace Site

/-- Evaluates a query over a backend. -/
def ask (backend : Backend) (query : String) : Action Site Rows := do
  let site ← get
  match backend with
  | .server endpoint timeout =>
    note (.post endpoint query timeout)
    match site.transport.post endpoint query with
    | .error fault =>
      throw (if fault.kind.isTransport then .requestFailed endpoint fault else fault)
    | .ok response => Action.ofExcept (response.rows endpoint)
  | .graph graph =>
    note (.query query)
    Action.ofExcept (site.engine.rows graph query)
  | .table id =>
    match site.repositories[id.index]? with
    | some (.table table) => Action.ofExcept (table.rows query)
    | _ => pure ⟨[], none⟩

/-- Evaluates a query over a connection. -/
def evaluate (id : ConnectionId) (query : String) (language : String := sparql) :
    Action Site Rows := do
  let site ← get
  let connection := site.connections[id.index]?.getD { backend := .table ⟨0⟩, closed := true }
  match connection.refusal? language with
  | some fault =>
    updateConnection id fun c => { c with refused := c.refused ++ [query] }
    throw fault
  | none =>
    updateConnection id fun c => { c with queries := c.queries ++ [query] }
    ask connection.backend query

/-- Closes a connection; closing it again does nothing. -/
def closeConnection (id : ConnectionId) : Action Site Unit := do
  let site ← get
  match site.connections[id.index]? with
  | none => pure ()
  | some connection =>
    if connection.closed then pure ()
    else
      updateConnection id fun c => { c with closed := true, released := c.released + 1 }
      match connection.backend with
      | .server .. => note .sessionClosed
      | _ => pure ()

/-- The graph of a local repository, loaded if it has not been yet. -/
def loadRepository (id : RepositoryId) : Action Site Loaded := do
  let site ← get
  match site.repositories[id.index]? with
  | some (.files config none) =>
    let graph ← Repository.loadGraph config
    let site ← get
    let loaded : Loaded := ⟨site.graphs, graph⟩
    updateRepository id fun _ => .files config (some loaded)
    return loaded
  | some (.files _ (some loaded)) => return loaded
  | _ => return ⟨0, {}⟩

/-- Opens a connection to a repository. -/
def connect (id : RepositoryId) : Action Site ConnectionId := do
  let site ← get
  match site.repositories[id.index]? with
  | some (.server address name timeout) =>
    addConnection { backend := .server (endpointOf address name) timeout }
  | some (.files ..) =>
    let loaded ← loadRepository id
    addConnection { backend := .graph loaded.graph }
  | some (.table table) =>
    match table.refusal with
    | some fault => throw fault
    | none =>
      let connection ← addConnection { backend := .table id }
      updateRepository id fun
        | .table table => .table { table with connections := table.connections ++ [connection] }
        | other => other
      return connection
  | none => throw .connectionClosed

/-- Shuts a repository down: a local one forgets its graph. -/
def shutdown (id : RepositoryId) : Action Site Unit :=
  updateRepository id fun
    | .files config _ => .files config none
    | .table table => .table { table with shutdowns := table.shutdowns + 1 }
    | other => other

/-- The repository of a server, once it is named in full. -/
def serverRepository (address name : String) (timeout : Value) : Except Fault Repository :=
  if address = "" then .error .serverRequired
  else if name = "" then .error .repositoryRequired
  else .ok (.server address name timeout)

/-- Checks that a server can be reached. -/
def ping (endpoint : String) (timeout : Value) : Action Site Unit := do
  note (.get endpoint timeout)
  let site ← get
  match site.transport.get endpoint with
  | .error fault =>
    throw (if fault.kind.isTransport then .notReachable endpoint fault else fault)
  | .ok response =>
    if response.isOk then pure () else throw (.notAnswering endpoint response.status)

end Site

end Gazetteer
