import Gazetteer.CommandLine.Basic

/-!
# CommandLine/Help — what the program says about itself
-/

namespace Gazetteer.CommandLine

/-- What a command does, in one line. -/
def Topic.summary : Topic → String
  | fingerprint => "Print the cache fingerprint of config.ttl + query.txt."
  | resolve => "Print which feed variant would be used for a dictionary."
  | feed => "Push the resolved feed and print the entity count."

/-- An example of a command. -/
def Topic.example? : Topic → Option String
  | fingerprint => some "lkbgaz fingerprint dictionaries/cities"
  | resolve => none
  | feed => some "lkbgaz feed dictionaries/cities --show 5"

/-- The options of a command, with what they do. -/
def Topic.options : Topic → List (String × String)
  | feed =>
    [("--show INTEGER", "Number of entities to print  [default: 0]"),
      ("--help", "Show this message and exit.")]
  | _ => [("--help", "Show this message and exit.")]

/-- A text filled up with spaces to a width. -/
def padded (width : Nat) (s : String) : String :=
  s ++ String.ofList (List.replicate (width - s.length) ' ')

/-- Entries in two columns. -/
def columns (entries : List (String × String)) : List String :=
  let width := (entries.map (·.1.length)).foldl max 0
  entries.map fun (left, right) => "  " ++ padded width left ++ "  " ++ right

/-- The help on the whole program. -/
def generalHelp (program : String) : List String :=
  ["Usage: " ++ program ++ " [OPTIONS] COMMAND [ARGS]...", "",
    "  LKB Gazetteer - feed resolution and entity streaming tools.", "", "Options:"]
    ++ columns
      [("--version", "Show the version and exit."), ("-v, --verbose", "Enable debug logging"),
        ("--help", "Show this message and exit.")]
    ++ ["", "Commands:"] ++ columns (Topic.all.map fun t => (t.name, t.summary))

/-- The help on a command. -/
def Topic.help (program : String) (topic : Topic) : List String :=
  ["Usage: " ++ program ++ " " ++ topic.name ++ " [OPTIONS] DICTIONARY_DIR", "",
    "  " ++ topic.summary, ""]
    ++ (match topic.example? with
      | some line => ["  Example:     " ++ line, ""]
      | none => [])
    ++ "Options:" :: columns topic.options

end Gazetteer.CommandLine
