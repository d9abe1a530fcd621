import Gazetteer.Dictionary.Listener
import Gazetteer.Feed.Resolver
import Gazetteer.Feeder.LabelSession
import Gazetteer.Feeder.Session

/-!
# Feeder/Basic — what fills dictionaries besides the feed of a directory

A feeder is set up with options, fills the dictionary that serves all documents, and may add records
for one document while that document is read. There are four kinds:

* one that does nothing,
* one that pushes the feed of another directory,
* one that looks up labels when they lie ahead in a document,
* one that follows a script, for rehearsals.
-/

namespace Gazetteer

/-- The settings and sessions of a feeder that looks up labels. -/
structure LabelFeeder where
  options : List (String × Value) := []
  repository : Option RepositoryId := none
  template : String := Defaults.labelQuery
  minLength : Int := Defaults.minPhraseLength
  maxLexemes : Option Int := none
  sessions : Sessions (ConnectionId × LabelSession) := []
deriving Inhabited

/-- What a rehearsed session does when a lexeme comes next. -/
structure Cue where
  lexeme : String
  outcome : Except Fault (List Entity)

/-- What a rehearsed feeder has been asked. -/
inductive CueEvent where
  | checkpoint (document : String) (ahead : List String)
  | close (document : String)
deriving Repr, Inhabited

instance : Writable CueEvent := ⟨fun
  | .checkpoint document ahead => value [value "checkpoint", value document, value ahead]
  | .close document => value ["close", document]⟩

/-- A feeder that follows a script. -/
structure Rehearsal where
  /-- The documents of interest, by name, and the cues of each. -/
  scripts : List (String × List Cue)
  /-- The records for the dictionary that serves all documents. -/
  bulk : List Entity := []
  events : List CueEvent := []
  sessions : Sessions (String × List Cue) := []
deriving Inhabited

/-- What fills dictionaries. -/
inductive Feeder where
  | idle
  | vocabulary (resolver : Resolver) (directory : Option Path)
  | label (feeder : LabelFeeder)
  | rehearsed (rehearsal : Rehearsal)
deriving Inhabited

namespace LabelFeeder

/-- What the label feeder's sessions do: each has a connection of its own. -/
def ops (feeder : LabelFeeder) : SessionOps Site (ConnectionId × LabelSession) where
  openFor _ :=
    match feeder.repository with
    | none => throw .feederNotReady
    | some repository => do
      let connection ← Site.connect repository
      return some (connection, ⟨feeder.template, feeder.minLength, feeder.maxLexemes, []⟩)
  checkpoint ahead := do
    let (_, (connection, _)) ← get
    Action.zoom (fun (site, (_, session)) => (site, session))
      (fun (site, session) (_, (connection, _)) => (site, (connection, session)))
      (LabelSession.checkpoint (fun query => Site.evaluate connection query) ahead)
  close session := Site.closeConnection session.1

/-- An option, if it is given. -/
def option? (feeder : LabelFeeder) (name : String) : Option Value := Value.find? name feeder.options

/-- An option that is given and counts as such. -/
def given? (feeder : LabelFeeder) (name : String) : Option Value :=
  (feeder.option? name).filter Value.isGiven

/-- An option that has to be a text. -/
def textOption (operation : String) : Value → Except Fault String
  | .string s => .ok s
  | v => .error (.shape (.noOperation v.typeName operation))

/-- How often `%s` stands in a template. -/
def placeholders : List Char → Nat
  | '%' :: 's' :: rest => placeholders rest + 1
  | _ :: rest => placeholders rest
  | [] => 0

/-- The repository that the options name. -/
def namedRepository (feeder : LabelFeeder) : Except Fault Repository :=
  match feeder.given? "config_url", feeder.given? "server", feeder.given? "repository_id" with
  | some config, _, _ => (textOption "decode" config).map fun s => .files (.text s) none
  | none, some server, some name => do
    let address ← textOption "rstrip" server
    Site.serverRepository address name.shown .null
  | _, _, _ => .error .feederSourceMissing

/-- Sets up the feeder. The settings are taken over one by one, so those before a bad one stay. -/
def setUp (options : List (String × Value)) : Action (Site × LabelFeeder) Unit := do
  modify fun (site, feeder) => (site, { feeder with options })
  let (_, feeder) ← get
  let repository ← Action.ofExcept feeder.namedRepository
  let id ← Action.onFirst (Site.addRepository repository)
  modify fun (site, feeder) => (site, { feeder with repository := some id })
  match feeder.option? "label_query" with
  | none => pure ()
  | some v =>
    let template ← Action.ofExcept (textOption "count" v)
    modify fun (site, feeder) => (site, { feeder with template })
  let (_, feeder) ← get
  if placeholders feeder.template.toList ≠ 1 then throw .placeholderCount
  match feeder.option? "min_lexeme_length" with
  | none => pure ()
  | some v =>
    let minLength ← Action.ofExcept v.integer
    modify fun (site, feeder) => (site, { feeder with minLength })
  match feeder.given? "max_phrase_length" with
  | none => pure ()
  | some v =>
    let n ← Action.ofExcept v.integer
    modify fun (site, feeder) => (site, { feeder with maxLexemes := some n })

end LabelFeeder

namespace Rehearsal

/-- What a rehearsed feeder's sessions do; the state is the list of events. -/
def ops (rehearsal : Rehearsal) : SessionOps (List CueEvent) (String × List Cue) where
  openFor document :=
    pure (rehearsal.scripts.find? fun s => s.1 == document.name)
  checkpoint ahead := do
    let (_, (name, cues)) ← get
    modify fun (events, session) => (events ++ [CueEvent.checkpoint name ahead], session)
    match cues.find? fun cue => some cue.lexeme == ahead.head? with
    | some cue => Action.ofExcept cue.outcome
    | none => return []
  close session := modify fun events => events ++ [CueEvent.close session.1]

end Rehearsal

namespace Feeder

/-- Runs an action on the sessions of a label feeder. -/
def onLabelSessions {α : Type} (feeder : LabelFeeder)
    (action : Action (Site × Sessions (ConnectionId × LabelSession)) α) :
    Action (Site × Feeder) α :=
  Action.zoom (fun (site, _) => (site, feeder.sessions))
    (fun (site, sessions) _ => (site, .label { feeder with sessions })) action

/-- Runs an action on the sessions of a rehearsed feeder. -/
def onRehearsal {α : Type} (rehearsal : Rehearsal)
    (action : Action (List CueEvent × Sessions (String × List Cue)) α) :
    Action (Site × Feeder) α :=
  Action.zoom (fun _ => (rehearsal.events, rehearsal.sessions))
    (fun (events, sessions) (site, _) =>
      (site, .rehearsed { rehearsal with events, sessions })) action

/-- Sets up a feeder with options. -/
def setUp (options : List (String × Value)) : Action (Site × Feeder) Unit := do
  let (_, feeder) ← get
  match feeder with
  | .idle | .rehearsed _ => pure ()
  | .vocabulary resolver _ =>
    let directory ←
      match (Value.find? "dictionary_path" options).filter Value.isGiven with
      | none => pure none
      | some (.string s) => pure (some (Path.ofString s))
      | some v => throw (.shape (.notText v.typeName))
    modify fun (site, _) => (site, .vocabulary resolver directory)
  | .label feeder =>
    Action.zoom (fun (site, _) => (site, feeder))
      (fun (site, feeder) _ => (site, .label feeder)) (LabelFeeder.setUp options)

/-- Fills the dictionary that serves all documents. -/
def feedAll {ℓ : Type} (listener : Listener ℓ) : Action ((Site × Feeder) × ℓ) Unit := do
  let ((_, feeder), _) ← get
  match feeder with
  | .idle | .label _ | .vocabulary _ none => pure ()
  | .vocabulary resolver (some directory) =>
    Action.zoom (fun ((site, _), l) => (site, l))
      (fun (site, l) ((_, feeder), _) => ((site, feeder), l))
      do
        let feed ← Action.onFirst (resolver.resolve directory)
        Action.ensuring (feed.push listener) (Action.onFirst feed.close)
  | .rehearsed rehearsal => Action.onSecond (handAll listener rehearsal.bulk)

/-- Begins a document; false if the feeder adds nothing to it. -/
def begin (document : Document) : Action (Site × Feeder) Bool := do
  let (_, feeder) ← get
  match feeder with
  | .idle | .vocabulary .. => return false
  | .label feeder => onLabelSessions feeder (Sessions.begin feeder.ops document)
  | .rehearsed rehearsal => onRehearsal rehearsal (Sessions.begin rehearsal.ops document)

/-- The records for a document when lexemes lie ahead. -/
def checkpoint (document : Document) (ahead : List String) :
    Action (Site × Feeder) (List Entity) := do
  let (_, feeder) ← get
  match feeder with
  | .idle | .vocabulary .. => return []
  | .label feeder => onLabelSessions feeder (Sessions.checkpoint feeder.ops document ahead)
  | .rehearsed rehearsal => onRehearsal rehearsal (Sessions.checkpoint rehearsal.ops document ahead)

/-- Hands the records for a document to a listener. -/
def feedAhead {ℓ : Type} (listener : Listener ℓ) (document : Document) (ahead : List String) :
    Action ((Site × Feeder) × ℓ) Unit := do
  let records ← Action.onFirst (checkpoint document ahead)
  Action.onSecond (handAll listener records)

/-- Ends a document. -/
def finish (document : Document) : Action (Site × Feeder) Unit := do
  let (_, feeder) ← get
  match feeder with
  | .idle | .vocabulary .. => pure ()
  | .label feeder => onLabelSessions feeder (Sessions.finish feeder.ops document)
  | .rehearsed rehearsal => onRehearsal rehearsal (Sessions.finish rehearsal.ops document)

/-- How many documents have a session. -/
def activeSessions : Feeder → Nat
  | .idle | .vocabulary .. => 0
  | .label feeder => feeder.sessions.length
  | .rehearsed rehearsal => rehearsal.sessions.length

end Feeder

end Gazetteer
