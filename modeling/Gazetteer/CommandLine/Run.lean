import Gazetteer.CommandLine.Help
import Gazetteer.Feed.Resolver

/-!
# CommandLine/Run — what a command line does

Every command ends with lines that are printed, or with a failure: an error that the command reports
itself, words that cannot be followed, or a fault that no command foresees.
-/

namespace Gazetteer.CommandLine

/-- How a command ends. -/
inductive Ending where
  | printed (lines : List String)
  /-- An error that the command reports: a fault, and words before it. -/
  | failed (lead : String) (fault : Fault)
  | misused (misuse : Misuse)
  | broken (fault : Fault)
deriving Repr

/-- The exit code of an ending. -/
def Ending.code : Ending → Nat
  | printed _ => 0
  | failed .. | broken _ => 1
  | misused _ => 2

/-- The lines that an ending writes where errors go. -/
def Ending.complaint : Ending → List String
  | printed _ => []
  | failed lead fault => ["Error: " ++ lead ++ fault.message]
  | misused misuse => ["Error: " ++ misuse.message]
  | broken fault => [fault.kind.name ++ ": " ++ fault.message]

/-- The entities of a feed: how many there are, and the first of them. -/
structure Tally where
  count : Nat := 0
  first : List Entity := []

/-- Counts each record and keeps the first ones. -/
def Tally.listener (kept : Int) : Listener Tally := fun e =>
  modify fun t =>
    { count := t.count + 1
      first := if (t.first.length : Int) < kept then t.first ++ [e] else t.first }

/-- The line of an entity. -/
def entityLine (e : Entity) : String :=
  e.inst.shown ++ "\t" ++ e.cls.shown ++ "\t" ++ e.label.shown

/-- Whether a text can only be the name of a directory. -/
def namesDirectory (text : String) : Bool :=
  let pieces := Text.splitOnChar '/' text.toList
  let last := pieces.getLast?.getD []
  pieces.length > 1 && (last = [] || last = ['.'])

/-- What a text leads to. -/
def nodeAt (files : Files) (text : String) : Except FileFlaw Node :=
  if text.isEmpty then .error .notFound
  else
    match files.node? (Path.ofString text) with
    | .ok (.file bytes) => if namesDirectory text then .error .notDirectory else .ok (.file bytes)
    | found => found

/-- What is wrong with the directory of a command. -/
def directoryFlaw? (files : Files) (topic : Topic) (text : String) : Option Ending :=
  match nodeAt files text with
  | .ok .directory => none
  | .ok (.file _) => some (.misused (.directoryIsFile text))
  | .error .nullCharacter => some (.broken (.file .nullCharacter text))
  | .error _ => if topic.needsDirectory then some (.misused (.directoryMissing text)) else none

/-- Prints the fingerprint of the files in a directory. -/
def runFingerprint (files : Files) (directory : Path) : Ending :=
  let path := directory.child Defaults.queryFile
  match files.readBytes path with
  | .error flaw => .failed ("Cannot read " ++ path.text ++ ": ") (.file flaw path.text)
  | .ok bytes =>
    match Text.decode? bytes with
    | none => .broken .notUtf8
    | some cs =>
      let query := String.ofList (Text.unifyLineBreaks cs)
      let config := Resource.path (directory.child Defaults.configFile)
      .printed [toString (Fingerprint.compute files config query)]

/-- Prints which source the feed of a directory has. -/
def runResolve (directory : Path) : Action Site Ending := do
  let feed ← ({} : Resolver).resolve directory
  feed.close
  let fingerprint := match feed.fingerprint? with
    | some n => ["fingerprint: " ++ toString n]
    | none => []
  return .printed (feed.variant.name :: fingerprint)

/-- Prints the first entities of a directory's feed, and how many there are. -/
def runFeed (directory : Path) (shown : Int) : Action Site Ending := do
  let feed ← ({} : Resolver).resolve directory
  let (result, tally) ←
    Action.ensuring (Action.trial {} (feed.push (Tally.listener shown))) feed.close
  match result with
  | .ok () =>
    let total := toString tally.count ++ " entities (" ++ feed.variant.name ++ ")"
    return .printed (tally.first.map entityLine ++ [total])
  | .error fault => return if fault.isQuery then .failed "" fault else .broken fault

/-- Runs a command on a directory. -/
def runCommand (topic : Topic) (text : String) (shown : Int) : Action Site Ending := do
  let site ← get
  match directoryFlaw? site.files topic text with
  | some ending => return ending
  | none =>
    let directory := Path.ofString text
    match topic with
    | .fingerprint => return runFingerprint site.files directory
    | .resolve => runResolve directory
    | .feed => runFeed directory shown

/-- Follows the words of a command line; `program` is the name that help calls the program by. -/
def run (program : String) (words : List String) : Action Site Ending := do
  match parse words with
  | .error misuse => return .misused misuse
  | .ok .version =>
    return .printed [Defaults.programName ++ ", version " ++ Defaults.version]
  | .ok (.help none) => return .printed (generalHelp program)
  | .ok (.help (some topic)) => return .printed (topic.help program)
  | .ok (.run topic text shown) =>
    match ← Action.attempt (runCommand topic text shown) with
    | .ok ending => return ending
    | .error fault => return .broken fault

end Gazetteer.CommandLine
