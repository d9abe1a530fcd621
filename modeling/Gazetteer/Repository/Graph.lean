import Gazetteer.Site

/-!
# Repository/Graph — the graph of a configuration file

A configuration file is read into a new graph, and then everything it imports, in order. A literal
without `://` names a file next to the configuration; an IRI with the scheme `file` names a file by
its path; every other import is a location as it stands. What cannot be read ends the load.
-/

namespace Gazetteer.Repository

/-- The location of an import, seen from a configuration file. -/
def importLocation (config : Path) (source : Rdf.Import) : Except Fault String :=
  let text := source.text
  let byUrl : Except Fault String :=
    if "file:".toList.isPrefixOf text.toList then
      match (Resource.text text).toPath with
      | .ok p => .ok p.text
      | .error flaw => .error (.resource flaw)
    else .ok text
  match source with
  | .literal _ =>
    if Text.occursIn "://".toList text.toList then byUrl
    else .ok (config.parent.child text).text
  | .iri _ => byUrl

/-- The format that an import is read in: the one that the engine knows its location by, and without
one Turtle. -/
def formatOf (engine : Rdf.Engine) (location : String) : String :=
  ((engine.guessFormat location).filter fun format => format ≠ "").getD "turtle"

/-- Reads a location into a graph. -/
def readInto (graph : Rdf.Graph) (location format : String) (base : Option String) :
    Action Site Rdf.Graph := do
  Site.note (.parse location format base)
  let site ← get
  Action.ofExcept (site.engine.parse site.files graph location format base)

/-- Reads what a configuration file imports into a graph, one import after the other. -/
def readImports (config : Path) : Rdf.Graph → List Rdf.Import → Action Site Rdf.Graph
  | graph, [] => pure graph
  | graph, source :: rest => do
    let location ← Action.ofExcept (importLocation config source)
    let site ← get
    let graph ← (readInto graph location (formatOf site.engine location) none).mapFault
      (.importUnreadable location config)
    readImports config graph rest

/-- Reads a configuration file into a new graph; the base of its names is its URL. -/
def readConfiguration (path : Path) : Action Site Rdf.Graph := do
  let site ← get
  let base ← Action.ofExcept (site.url path)
  readInto {} path.text "turtle" (some base)

/-- The graph of a configuration file. -/
def loadGraph (config : Resource) : Action Site Rdf.Graph := do
  let path ← Action.ofExcept (config.toPath.mapError .resource)
  modify fun site => { site with graphs := site.graphs + 1 }
  Site.note .newGraph
  let graph ← (readConfiguration path).mapFault (.configurationUnreadable path)
  readImports path graph graph.imports

end Gazetteer.Repository
