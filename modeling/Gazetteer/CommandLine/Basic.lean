import Gazetteer.Defaults
import Gazetteer.Text.Integer
import Gazetteer.Text.Split

/-!
# CommandLine/Basic — what the words of a command line ask for

Options for the whole program stand before the name of a command; the options of a command may stand
before and after its argument. A request for the version or for help is answered before anything
else that the words say, provided that they hold no unknown option.
-/

namespace Gazetteer.CommandLine

/-- What can be done with the directory of a dictionary. -/
inductive Topic where
  | fingerprint
  | resolve
  | feed
deriving Repr, DecidableEq

namespace Topic

/-- The name of a command. -/
def name : Topic → String
  | fingerprint => "fingerprint"
  | resolve => "resolve"
  | feed => "feed"

/-- All commands, in the order of their names. -/
def all : List Topic := [feed, fingerprint, resolve]

/-- The command with a name. -/
def ofName? (s : String) : Option Topic := all.find? fun t => t.name == s

/-- Whether the directory of a command has to be there. -/
def needsDirectory : Topic → Bool
  | fingerprint => true
  | resolve | feed => false

end Topic

/-- What the words of a command line ask for. -/
inductive Request where
  | version
  /-- Help on a command, or on the whole program. -/
  | help (topic : Option Topic)
  /-- A command on a directory; `shown` is how many entities are printed. -/
  | run (topic : Topic) (directory : String) (shown : Int)
deriving Repr, DecidableEq

/-! ## Misuse -/

/-- Why the words of a command line cannot be followed. -/
inductive Misuse where
  | noCommand
  | unknownCommand (name : String)
  | unknownOption (word : String)
  | unexpectedValue (option : String)
  | missingValue (option : String)
  | notAnInteger (option value : String)
  | noDirectory
  | extraArgument (word : String)
  | directoryMissing (directory : String)
  | directoryIsFile (directory : String)
deriving Repr, DecidableEq

/-- The words of a misuse. -/
def Misuse.message : Misuse → String
  | noCommand => "Missing command."
  | unknownCommand name => "No such command '" ++ name ++ "'."
  | unknownOption word => "No such option: " ++ word
  | unexpectedValue option => "Option '" ++ option ++ "' does not take a value."
  | missingValue option => "Option '" ++ option ++ "' requires an argument."
  | notAnInteger option v =>
    "Invalid value for '" ++ option ++ "': '" ++ v ++ "' is not a valid integer."
  | noDirectory => "Missing argument 'DICTIONARY_DIR'."
  | extraArgument word => "Got unexpected extra argument (" ++ word ++ ")"
  | directoryMissing d =>
    "Invalid value for 'DICTIONARY_DIR': Directory '" ++ d ++ "' does not exist."
  | directoryIsFile d => "Invalid value for 'DICTIONARY_DIR': Directory '" ++ d ++ "' is a file."

/-! ## Words -/

/-- A word that may be an option. -/
inductive Word where
  /-- The mark after which nothing is an option. -/
  | endOfOptions
  /-- A long option: its name, and its value if one is joined to it. -/
  | long (name : String) (value : Option String)
  /-- Short options joined together. -/
  | short (letters : List Char)
  | argument (text : String)
deriving Repr, DecidableEq

/-- How a word reads. -/
def Word.of (text : String) : Word :=
  match text.toList with
  | ['-', '-'] => .endOfOptions
  | '-' :: '-' :: rest =>
    .long ("--" ++ String.ofList (Text.beforeFirst '=' rest))
      (if rest.contains '=' then some (String.ofList (Text.afterFirst '=' rest)) else none)
  | '-' :: c :: rest => .short (c :: rest)
  | _ => .argument text

/-! ## The words of a command -/

/-- What the words of a command have said so far. -/
structure Gathered where
  arguments : List String := []
  /-- The value of the option for how many entities are printed. -/
  shown : Option String := none
  wantsHelp : Bool := false

/-- The option for help. -/
def helpOption : String := "--help"

/-- The option for how many entities are printed. -/
def showOption : String := "--show"

/-- Gathers the words of a command. -/
def gather (topic : Topic) (found : Gathered) : List String → Except Misuse Gathered
  | [] => .ok found
  | text :: rest =>
    match Word.of text with
    | .endOfOptions => .ok { found with arguments := found.arguments ++ rest }
    | .argument text => gather topic { found with arguments := found.arguments ++ [text] } rest
    | .short letters => .error (.unknownOption ("-" ++ String.ofList (letters.take 1)))
    | .long name (some v) =>
      if name = showOption && topic = .feed then gather topic { found with shown := some v } rest
      else if name = helpOption then .error (.unexpectedValue name)
      else .error (.unknownOption name)
    | .long name none =>
      if name = showOption && topic = .feed then
        match rest with
        | v :: rest => gather topic { found with shown := some v } rest
        | [] => .error (.missingValue name)
      else if name = helpOption then gather topic { found with wantsHelp := true } rest
      else .error (.unknownOption name)

/-- The request that the words of a command make. -/
def Gathered.request (found : Gathered) (topic : Topic) : Except Misuse Request :=
  if found.wantsHelp then .ok (.help (some topic))
  else
    let text := found.shown.getD "0"
    match Text.readInteger? text.toList, found.arguments with
    | none, _ => .error (.notAnInteger showOption text)
    | _, [] => .error .noDirectory
    | some shown, [directory] => .ok (.run topic directory shown)
    | _, _ :: word :: _ => .error (.extraArgument word)

/-- The request of a command. -/
def command (name : String) (rest : List String) : Except Misuse Request :=
  match Topic.ofName? name with
  | none => .error (.unknownCommand name)
  | some topic =>
    match gather topic {} rest with
    | .error misuse => .error misuse
    | .ok found => found.request topic

/-! ## All words -/

/-- Reads the words of a command line; `early` is the first request for the version or for help. -/
def parseAfter (early : Option Request) : List String → Except Misuse Request
  | [] => early.elim (.error .noCommand) .ok
  | text :: rest =>
    match Word.of text with
    | .endOfOptions =>
      match early, rest with
      | some request, _ => .ok request
      | none, name :: rest => command name rest
      | none, [] => .error .noCommand
    | .argument name => early.elim (command name rest) .ok
    | .short letters =>
      match letters.find? (· ≠ 'v') with
      | some c => .error (.unknownOption (String.ofList ['-', c]))
      | none => parseAfter early rest
    | .long name v =>
      let request? :=
        if name = "--version" then some (early.getD .version)
        else if name = helpOption then some (early.getD (.help none))
        else early
      if name = "--version" || name = helpOption || name = "--verbose" then
        if v.isSome then .error (.unexpectedValue name) else parseAfter request? rest
      else .error (.unknownOption name)

/-- The request that the words of a command line make. -/
def parse (words : List String) : Except Misuse Request := parseAfter none words

example : parse ["-v", "feed", "d", "--show", "-1"] = .ok (.run .feed "d" (-1)) := by rfl

example : parse ["feed", "--show=5", "--", "-d"] = .ok (.run .feed "-d" 5) := by rfl

example : parse ["--version", "nope"] = .ok .version := by rfl

example : parse ["resolve", "d", "--show", "1"] = .error (.unknownOption "--show") := by rfl

end Gazetteer.CommandLine
