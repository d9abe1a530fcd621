import Gazetteer.Rdf.Graph

/-!
# Sparql/Query/Basic — queries as data

A query has a form and a group. A group is a list of elements: triple patterns, optional groups,
unions of groups, values of a variable, and filters, which hold for the group as a whole.
-/

namespace Gazetteer.Sparql

/-- A place of a triple pattern: a variable or a term. -/
inductive Node where
  | var (name : String)
  | term (t : Rdf.Term)
deriving Repr, DecidableEq, Inhabited

/-- A triple with variables. -/
structure Pattern where
  subject : Node
  predicate : Node
  object : Node
deriving Repr, DecidableEq, Inhabited

/-- A condition, or a term that is computed in one. -/
inductive Expression where
  | node (n : Node)
  | equal (left right : Expression)
  | differ (left right : Expression)
  | both (left right : Expression)
  | either (left right : Expression)
  | negation (e : Expression)
  /-- The text of a term in lower case. -/
  | lowerCase (e : Expression)
  /-- The text of a term, without a language. -/
  | textOf (e : Expression)
deriving Repr, Inhabited

/-- An element of a group. -/
inductive Element where
  | triples (patterns : List Pattern)
  | optional (group : List Element)
  | union (groups : List (List Element))
  | values (name : String) (terms : List Rdf.Term)
  | filter (condition : Expression)
deriving Repr, Inhabited

/-- What a query asks for. -/
inductive Form where
  /-- Rows of the given variables, or of all of them; `distinct` drops repeated rows. -/
  | select (distinct : Bool) (columns : Option (List String))
  | ask
  | construct
deriving Repr, Inhabited

/-- The name of a form. -/
def Form.name : Form → String
  | select .. => "SELECT"
  | ask => "ASK"
  | construct => "CONSTRUCT"

/-- A query. -/
structure Query where
  form : Form
  group : List Element
  /-- How many rows are left out at the beginning. -/
  offset : Nat := 0
  /-- How many rows are taken at most. -/
  limit : Option Nat := none
deriving Repr, Inhabited

end Gazetteer.Sparql
