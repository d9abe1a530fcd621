import Gazetteer.Rdf.Format
import Gazetteer.Rdf.Prefixes
import Gazetteer.Sparql.Query.Evaluation
import Gazetteer.Sparql.Query.Reader

/-!
# Rdf/FileEngine — the engine that reads graphs from files

Turtle and N-Triples are read, and queries are evaluated over the triples of all files that were
read into a graph. A triple that is there already is not added again.
-/

namespace Gazetteer.Rdf

/-- The path without double dots: each takes away the name before it. -/
def collapse (p : Path) : Path :=
  ⟨p.slashes, p.names.foldl (fun names n => if n = ".." then names.dropLast else names ++ [n]) []⟩

/-- The bytes of a location. An absolute one that leads nowhere is read with its double dots
collapsed. -/
def bytesAt (files : Files) (location : Path) : Except FileFlaw (List UInt8) :=
  if location.isAbsolute && !files.contains location then files.readBytes (collapse location)
  else files.readBytes location

/-- The fault of a document that cannot be read. -/
def documentFault : Fault := .outside .value "the document is not in its format" none

/-- The fault of a text that is no query. -/
def syntaxFault : Fault := .outside .parse "the text is not a query" none

/-- The fault of a query with a prefix that is not declared. -/
def prefixFault (space : String) : Fault :=
  .outside .value ("Unknown namespace " ++ "prefix : " ++ space) none

/-- The prefixes and the triples of a document in a format. -/
def read? (format base : String) (cs : List Char) : Option (Prefixes × List Triple) :=
  if format = "turtle" || format = "n3" || format = "trig" then Turtle.parse? base cs
  else if format = "nt" || format = "nquads" then (Turtle.parsePlain? cs).map fun t => ([], t)
  else none

/-- The import that a triple names, if it names one. -/
def Triple.import? (t : Triple) : Option Import :=
  if t.predicate = .iri importsPredicate then
    match t.object with
    | .iri text => some (.iri text)
    | .literal text _ => some (.literal text)
  else none

/-- The graph with more triples, and prefixes that come before its own. -/
def Graph.add (graph : Graph) (prefixes : Prefixes) (found : List Triple) : Graph :=
  let triples := found.foldl (fun ts t => if ts.contains t then ts else ts ++ [t]) graph.triples
  { size := triples.length, imports := triples.filterMap Triple.import?, triples
    prefixes := prefixes ++ graph.prefixes }

/-- The engine that reads graphs from files. -/
def fileEngine : Engine where
  guessFormat := formatByName
  parse files graph location format base := do
    let path := Path.ofString location
    let bytes ← (bytesAt files path).mapError fun flaw => .file flaw location
    match Text.decode? bytes with
    | none => .error .notUtf8
    | some cs =>
      match read? format (base.getD (Path.toUrl files.herePath path)) cs with
      | none => .error documentFault
      | some (prefixes, triples) => .ok (graph.add prefixes triples)
  query graph text :=
    match Sparql.Query.parse (graph.prefixes ++ commonPrefixes) text.toList with
    | .error .malformed => .error syntaxFault
    | .error (.undeclaredPrefix space) => .error (prefixFault space)
    | .ok query => .ok (query.answer graph.triples)

end Gazetteer.Rdf
