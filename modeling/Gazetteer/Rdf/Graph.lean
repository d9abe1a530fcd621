import Gazetteer.Fault

/-!
# Rdf/Graph — graphs, and what an engine does with them

A graph is a list of triples. An engine reads files into graphs and answers queries about them. Only
the number of triples, the files that a configuration imports and the triples themselves matter
here; an engine may report triples that it keeps to itself.
-/

namespace Gazetteer.Rdf

/-- A term of a triple: an IRI, or a literal, whose language is empty if it has none. -/
inductive Term where
  | iri (text : String)
  | literal (text language : String)
deriving Repr, DecidableEq, Inhabited

/-- The text of a term. -/
def Term.text : Term → String
  | .iri text => text
  | .literal text _ => text

/-- Subject, predicate and object. -/
structure Triple where
  subject : Term
  predicate : Term
  object : Term
deriving Repr, DecidableEq, Inhabited

/-- A resource that a configuration imports: an IRI, or a literal that names a file. -/
inductive Import where
  | iri (text : String)
  | literal (text : String)
deriving Repr, DecidableEq, Inhabited

/-- The text of an import. -/
def Import.text : Import → String
  | .iri text => text
  | .literal text => text

/-- Prefixes of names and the IRIs they stand for. -/
abbrev Prefixes := List (String × String)

/-- A graph. -/
structure Graph where
  /-- How many triples it has. -/
  size : Nat := 0
  /-- What it imports, in the order it was read. -/
  imports : List Import := []
  /-- The triples that queries see. -/
  triples : List Triple := []
  /-- The prefixes of the files that were read. -/
  prefixes : Prefixes := []
deriving Repr, Inhabited

/-- The answer to a query. -/
structure Answer where
  /-- The form of the query: `SELECT`, `ASK` and so on. -/
  form : String := "SELECT"
  columns : List String := []
  /-- The values of each row, paired with the columns as far as both go. -/
  rows : List (List (Option String)) := []
  /-- What ends the rows, if something does. -/
  failure : Option Fault := none
deriving Repr, Inhabited

/-- How files are read into graphs and queries are answered. -/
structure Engine where
  /-- The format of a location by its name, if it tells one. -/
  guessFormat : String → Option String
  /-- The graph with what a location holds read into it, in a format, relative to a base. -/
  parse : Files → Graph → (location format : String) → (base : Option String) → Except Fault Graph
  query : Graph → String → Except Fault Answer

/-- An engine to which every file is empty, and which has no rows for any query. -/
def Engine.blank : Engine where
  guessFormat _ := none
  parse _ graph _ _ _ := .ok graph
  query _ _ := .ok {}

/-- The predicate that a configuration names its imports by. -/
def importsPredicate : String := "http://lkbgaz.org/config#imports"

end Gazetteer.Rdf
