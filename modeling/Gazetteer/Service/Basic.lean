import Gazetteer.Repository.Basic
import Gazetteer.Defaults
import Gazetteer.Text.Blank
import Gazetteer.Value.Writing

/-!
# Service/Basic — the knowledge service and the registry of trusted classes

A knowledge service stands for one repository of a server. A registry holds the classes whose
individuals are trusted, and the predicates that name them; before it is given its classes it has no
pattern to offer.
-/

namespace Gazetteer

/-- Which server and repository a knowledge service stands for, and how long to wait for it. -/
structure ServiceConfig where
  server : String
  repository : String
  timeout : Value
deriving Repr, Inhabited

/-- Whether a server is named. -/
def ServiceConfig.isConfigured (c : ServiceConfig) : Bool :=
  !(Text.trimBlanks c.server.toList).isEmpty

instance : Writable ServiceConfig := ⟨fun c => .object
  [("server_url", value c.server), ("repository_id", value c.repository), ("timeout", c.timeout),
    ("configured", value c.isConfigured)]⟩

/-- A knowledge service: a configured one, or one that always gives the same outcome. -/
inductive Service where
  | configured (config : ServiceConfig)
  | fixed (outcome : Except Fault RepositoryId)
deriving Inhabited

/-- How a service shows itself. -/
def Service.shown : Service → String
  | configured config => "<KnowledgeService(" ++ config.server ++ ")>"
  | fixed _ => "<KnowledgeService()>"

/-- A registry, by its place among those of a site. -/
structure RegistryId where
  index : Nat
deriving Repr, DecidableEq, Inhabited

/-- The trusted classes. -/
structure Registry where
  /-- The classes without repetition, once they are given. -/
  classes : Option (List String) := none
  predicates : List String := Defaults.aliasPredicates
deriving Repr, Inhabited

namespace Registry

/-- The items of a list without repetition, each at its first place. -/
def distinct (items : List String) : List String :=
  items.foldl (fun seen s => if seen.contains s then seen else seen ++ [s]) []

/-- The registry with its classes given, and its predicates if any are. -/
def give (r : Registry) (classes : List String) (predicates : Option (List String)) :
    Registry :=
  ⟨some (distinct classes), predicates.getD r.predicates⟩

/-- The classes that are trusted: none before they are given. -/
def trusted (r : Registry) : List String := r.classes.getD []

/-- An IRI between angle brackets. -/
def bracketed (iri : String) : String := "<" ++ iri ++ ">"

/-- The pattern for the individuals of all trusted classes. -/
def pattern (r : Registry) : Except Fault String :=
  match r.classes with
  | none => .error .registryNotReady
  | some classes =>
    let list (iris : List String) : String := String.intercalate " " (iris.map bracketed)
    .ok ("VALUES ?cls \x7b " ++ list classes ++ " \x7d VALUES ?aliasPredicate \x7b "
      ++ list r.predicates
      ++ " \x7d ?inst <http://www.w3.org/1999/02/22-rdf-syntax-ns#type> ?cls . "
      ++ "?inst ?aliasPredicate ?label .")

end Registry

end Gazetteer
