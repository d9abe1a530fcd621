import Gazetteer.Rdf.Graph
import Gazetteer.Sparql.Rows
import Gazetteer.Value.Writing

/-!
# Repository/Basic — repositories, connections and what they speak to

A repository is a server that answers queries over HTTP, a graph built from local files, or a table
of prepared answers. A connection to one is opened, evaluates queries, and is closed once. `Event`
is what a run does towards the network and the engine, in the order it happens.
-/

namespace Gazetteer

/-- A repository, by its place among those of a site. -/
structure RepositoryId where
  index : Nat
deriving Repr, DecidableEq, Inhabited

/-- A connection, by its place among those of a site. -/
structure ConnectionId where
  index : Nat
deriving Repr, DecidableEq, Inhabited

/-- The answer of a server. -/
structure Response where
  status : Int := 200
  body : String := ""
  /-- The body read as JSON, or why it cannot be. -/
  json : Except String Value

/-- Whether a server's answer is one of success. -/
def Response.isOk (r : Response) : Bool := !(400 ≤ r.status && r.status < 600)

/-- What the network answers to a reachability check and to a query. -/
structure Transport where
  get : (endpoint : String) → Except Fault Response
  post : (endpoint query : String) → Except Fault Response

/-- The network when nothing can be reached. -/
def Transport.offline : Transport where
  get _ := .error (.outside .transport "no network" none)
  post _ _ := .error (.outside .transport "no network" none)

/-- What a run does towards the network and the engine. -/
inductive Event where
  | get (endpoint : String) (timeout : Value)
  | post (endpoint query : String) (timeout : Value)
  | sessionClosed
  | newGraph
  | parse (location format : String) (base : Option String)
  | query (query : String)
deriving Repr, Inhabited

/-- A prepared answer: what the queries that hold a text are answered with. -/
structure Prepared where
  fragment : String
  outcome : Except Fault Rows

/-- A repository that answers from a table. -/
structure PreparedTable where
  answers : List Prepared
  /-- What opening a connection fails with. -/
  refusal : Option Fault := none
  shutdowns : Nat := 0
  connections : List ConnectionId := []

/-- A graph that a local repository has loaded, and which graph of the site it is. -/
structure Loaded where
  serial : Nat
  graph : Rdf.Graph
deriving Repr, Inhabited

/-- A source that answers queries. -/
inductive Repository where
  /-- A repository of a server, given by its address and its name. -/
  | server (address name : String) (timeout : Value)
  /-- A configuration file and, once loaded, its graph. -/
  | files (config : Resource) (loaded : Option Loaded)
  | table (table : PreparedTable)

/-- A server's address without the slashes at its end. -/
def trimAddress (address : String) : String :=
  String.ofList ((address.toList.reverse.dropWhile (· = '/')).reverse)

/-- Where a server takes queries for a repository. -/
def endpointOf (address name : String) : String := trimAddress address ++ "/repositories/" ++ name

/-- How a repository shows itself. -/
def Repository.shown : Repository → String
  | server address name _ => "<SparqlHttpRepository(" ++ endpointOf address name ++ ")>"
  | files config _ => "<LocalRepository(" ++ config.shown ++ ")>"
  | table _ => "<scripted>"

/-- What a connection asks. -/
inductive Backend where
  | server (endpoint : String) (timeout : Value)
  | graph (graph : Rdf.Graph)
  | table (repository : RepositoryId)
deriving Repr, Inhabited

/-- A connection to a repository. -/
structure Connection where
  backend : Backend
  closed : Bool := false
  /-- How often it has been released: once at most. -/
  released : Nat := 0
  /-- The queries it has evaluated, the oldest first. -/
  queries : List String := []
  /-- The queries it has refused: it was closed, or they were in another language. -/
  refused : List String := []
deriving Repr, Inhabited

/-- The only query language. -/
def sparql : String := "sparql"

/-- The media type of query results. -/
def resultsMediaType : String := "application/sparql-results+json"

/-- The query of a reachability check. -/
def pingQuery : String := "ASK \x7b\x7d"

namespace Event

/-- Whether an event concerns the network; the others concern the engine. -/
def isNetwork : Event → Bool
  | get .. | post .. | sessionClosed => true
  | newGraph | parse .. | .query _ => false

/-- The parts of an event, as they stand in a log. -/
def parts : Event → List Value
  | get endpoint timeout =>
    [value "GET", value endpoint, value pingQuery, value resultsMediaType, timeout]
  | post endpoint text timeout =>
    [value "POST", value endpoint, value text, value resultsMediaType, timeout]
  | sessionClosed => [value "CLOSE"]
  | newGraph => [value "new"]
  | parse location format base => [value "parse", value location, value format, value base]
  | .query text => [value "query", value text]

end Event

end Gazetteer
