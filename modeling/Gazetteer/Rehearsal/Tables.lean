import Gazetteer.Rdf.Format
import Gazetteer.Repository.Basic
import Gazetteer.Text.Split

/-!
# Rehearsal/Tables — a network and an engine that answer from tables

A rehearsal needs neither network nor engine: their answers are prepared in tables. A query is
answered by the first entry whose text occurs in it, a file by the first entry with its location.
-/

namespace Gazetteer

/-- The answer to the queries that hold a text. -/
structure PreparedReply where
  fragment : String := ""
  outcome : Except Fault Response

/-- What a network answers. -/
structure PreparedNetwork where
  /-- The answer to every reachability check. -/
  check : Option (Except Fault Response) := none
  replies : List PreparedReply := []

namespace PreparedNetwork

/-- The fault where no answer is prepared. -/
def missing : Fault := .outside .transport "no rule" none

/-- The network that answers from a table. -/
def transport (network : PreparedNetwork) : Transport where
  get _ := network.check.getD (.error missing)
  post _ query :=
    match network.replies.find? fun r => Text.occursIn r.fragment.toList query.toList with
    | some reply => reply.outcome
    | none => .error missing

end PreparedNetwork

namespace Rdf

/-- What a location holds: a number of triples and some imports. -/
structure PreparedFile where
  location : String
  outcome : Except Fault (Nat × List Import)

/-- The answer to the queries that hold a text. -/
structure PreparedAnswer where
  fragment : String := ""
  outcome : Except Fault Answer

/-- What an engine answers. -/
structure PreparedEngine where
  files : List PreparedFile := []
  answers : List PreparedAnswer := []

namespace PreparedEngine

/-- The fault where nothing is prepared for a location. -/
def missing : Fault := .outside .os "no such resource" none

/-- The engine that answers from a table. -/
def engine (prepared : PreparedEngine) : Engine where
  guessFormat := formatByName
  parse _ graph location _ _ :=
    match prepared.files.find? fun f => f.location == location with
    | none => .error missing
    | some file =>
      file.outcome.map fun (size, imports) =>
        { graph with size := graph.size + size, imports := graph.imports ++ imports }
  query _ query :=
    match prepared.answers.find? fun a => Text.occursIn a.fragment.toList query.toList with
    | some answer => answer.outcome
    | none => .ok {}

end PreparedEngine

end Rdf

end Gazetteer
