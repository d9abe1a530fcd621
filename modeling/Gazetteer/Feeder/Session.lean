import Gazetteer.Action
import Gazetteer.Annotation.Basic
import Gazetteer.Entity

/-!
# Feeder/Session — one session for each document

A feeder that looks at documents opens a session when a document begins, asks it at every checkpoint
which records to add, and closes it when the document ends. `Sessions` keeps the session of each
document under the number that the document goes by; a document that begins again has its session
replaced and the one before closed. What the sessions themselves do is given by `SessionOps`, and
nothing here depends on it.
-/

namespace Gazetteer

/-- What can be done with sessions of type `S` over a state of type `σ`. -/
structure SessionOps (σ S : Type) where
  /-- The session of a document; none if the document is not of interest. -/
  openFor : Document → Action σ (Option S)
  /-- The records to add when the given lexemes lie ahead. -/
  checkpoint : List String → Action (σ × S) (List Entity)
  close : S → Action σ Unit

/-- The open sessions, by the numbers of their documents. -/
abbrev Sessions (S : Type) := List (Nat × S)

namespace Sessions

variable {σ S : Type}

/-- The session under the number of a document. -/
def find? : Sessions S → Document → Option S
  | [], _ => none
  | (key, session) :: rest, document =>
    if key = document.key then some session else find? rest document

/-- The sessions without that of a document. -/
def erase (sessions : Sessions S) (document : Document) : Sessions S :=
  List.filter (fun s => s.1 != document.key) sessions

/-- The sessions with that of a document replaced, in its place. -/
def update (sessions : Sessions S) (document : Document) (session : S) : Sessions S :=
  List.map (fun s => if s.1 = document.key then (s.1, session) else s) sessions

/-- Begins a document; false if it has no session. -/
def begin (ops : SessionOps σ S) (document : Document) : Action (σ × Sessions S) Bool := do
  match ← Action.onFirst (ops.openFor document) with
  | none => return false
  | some session =>
    let (_, sessions) ← get
    let previous := sessions.find? document
    modify fun (s, sessions) => (s, sessions.erase document ++ [(document.key, session)])
    match previous with
    | some previous => Action.onFirst (ops.close previous)
    | none => pure ()
    return true

/-- Asks the session of a document for records; with no lexeme ahead nothing is asked. -/
def checkpoint (ops : SessionOps σ S) (document : Document) (ahead : List String) :
    Action (σ × Sessions S) (List Entity) := do
  if ahead.isEmpty then return []
  let (_, sessions) ← get
  match sessions.find? document with
  | none => throw (.noSession document.shown)
  | some session =>
    Action.zoom (fun (s, _) => (s, session))
      (fun (s, session) (_, sessions) => (s, Sessions.update sessions document session))
      (ops.checkpoint ahead)

/-- Ends a document. -/
def finish (ops : SessionOps σ S) (document : Document) : Action (σ × Sessions S) Unit := do
  let (_, sessions) ← get
  modify fun (s, sessions) => (s, sessions.erase document)
  match sessions.find? document with
  | some session => Action.onFirst (ops.close session)
  | none => pure ()

end Sessions

end Gazetteer
