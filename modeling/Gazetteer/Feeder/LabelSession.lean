import Gazetteer.Lexeme
import Gazetteer.Sparql.Literal
import Gazetteer.Sparql.Rows

/-!
# Feeder/LabelSession — looking up the phrases that lie ahead

A label session looks up every phrase that begins at the next lexeme, from one lexeme up to a
longest length, unless the phrase is too short or has been looked up before; phrases that differ
only in case are the same. The query is a template with the phrase as a string literal. A query that
fails gives no records, and its phrase is not looked up again.
-/

namespace Gazetteer

/-- The settings and the memory of a session. -/
structure LabelSession where
  template : String
  minLength : Int
  /-- The most lexemes of a phrase; none, or zero, for no limit. -/
  maxLexemes : Option Int
  /-- The phrases looked up so far, in lower case. -/
  seen : List String := []
deriving Repr, Inhabited

namespace LabelSession

variable {σ : Type}

/-- How many lexemes the longest phrase has. -/
def reach (maxLexemes : Option Int) (count : Nat) : Nat :=
  match maxLexemes with
  | none => count
  | some 0 => count
  | some n => (min (count : Int) n).toNat

/-- The phrases that begin with the first of some lexemes, the shortest first. -/
def phrases (count : Nat) (ahead : List String) : List String :=
  (List.range count).map fun i => String.intercalate " " (ahead.take (i + 1))

/-- The query for a phrase. -/
def query (template phrase : String) : Except Fault String :=
  match Text.Template.fill template.toList (Sparql.literal phrase.toList) with
  | .ok cs => .ok (String.ofList cs)
  | .error flaw => .error (.template flaw)

/-- The records in the rows of a phrase; a query that fails has none. -/
def recordsOf (answer : Except Fault Rows) : Except Fault (List Entity) :=
  match answer with
  | .error fault => if fault.isQuery then .ok [] else .error fault
  | .ok rows =>
    match rows.all with
    | .error fault => if fault.isQuery then .ok [] else .error fault
    | .ok rows => .ok (rows.filterMap Row.entity?)

/-- Looks up one phrase. -/
def lookUp (ask : String → Action σ Rows) (template phrase : String) : Action σ (List Entity) := do
  let query ← Action.ofExcept (query template phrase)
  let answer ← Action.attempt (ask query)
  Action.ofExcept (recordsOf answer)

/-- Whether a phrase is passed over. -/
def skips (session : LabelSession) (phrase : String) : Bool :=
  session.seen.contains (Text.lowerCase phrase)
    || decide ((phrase.length : Int) < session.minLength)

/-- The session with a phrase in its memory. -/
def remember (session : LabelSession) (phrase : String) : LabelSession :=
  { session with seen := session.seen ++ [Text.lowerCase phrase] }

/-- Looks up phrases one after the other. -/
def lookUpAll (ask : String → Action σ Rows) : List String →
    Action (σ × LabelSession) (List Entity)
  | [] => pure []
  | phrase :: rest => do
    let (_, session) ← get
    if session.skips phrase then lookUpAll ask rest
    else
      modify fun (s, session) => (s, session.remember phrase)
      let records ← Action.onFirst (lookUp ask session.template phrase)
      let others ← lookUpAll ask rest
      return records ++ others

/-- The records of the phrases that begin with the next lexeme. -/
def checkpoint (ask : String → Action σ Rows) (ahead : List String) :
    Action (σ × LabelSession) (List Entity) := do
  let (_, session) ← get
  lookUpAll ask (phrases (reach session.maxLexemes ahead.length) ahead)

end LabelSession

end Gazetteer
