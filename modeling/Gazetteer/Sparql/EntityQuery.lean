import Gazetteer.Defaults
import Gazetteer.Fault

/-!
# Sparql/EntityQuery — the query for the entities of one or more patterns

One pattern is the body of the query; several are put in braces and joined by `UNION`.
-/

namespace Gazetteer.Sparql

/-- The query that selects a projection from the union of patterns. -/
def entityQuery (patterns : List String) (projection : String := Defaults.projection) :
    Except Fault String :=
  match patterns with
  | [] => .error .patternsMissing
  | [pattern] => .ok (select pattern)
  | patterns =>
    .ok (select (String.intercalate " UNION " (patterns.map fun p => "\x7b " ++ p ++ " \x7d")))
where
  /-- A query with a body. -/
  select (body : String) : String := "SELECT " ++ projection ++ " WHERE \x7b " ++ body ++ " \x7d"

end Gazetteer.Sparql
