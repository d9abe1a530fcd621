import Gazetteer.CommandLine.Run
import Gazetteer.Rdf.FileEngine

/-!
# Main — the program

The files that a command may need are read before it runs: the directory that is named, the
configuration and query files in it, and the files that the configuration imports. The program
reaches no network, so that a knowledge service counts as out of reach.
-/

namespace Gazetteer.Program

/-- The tree with what a path leads to, if anything. -/
def readInto (files : Files) (path : Path) : IO Files := do
  try
    let bytes ← IO.FS.readBinFile path.text
    return (files.writeAlong path bytes.toList).2
  catch
    | .noFileOrDirectory .. => return files
    | _ => return (files.makeDirectories path).2

/-- The files that a configuration file imports. -/
def importsOf (files : Files) (config : Path) : List Path :=
  match Rdf.fileEngine.parse files {} config.text "turtle" none with
  | .error _ => []
  | .ok graph =>
    graph.imports.filterMap fun i => (Repository.importLocation config i).toOption.map Path.ofString

/-- The tree with what the words of a command line may need. -/
def gatherFiles (files : Files) (words : List String) : IO Files := do
  let mut files := files
  for word in words do
    if word ≠ "" then
      let directory := Path.ofString word
      let config := directory.child Defaults.configFile
      for path in [directory, config, directory.child Defaults.queryFile] do
        files ← readInto files path
      for path in importsOf files config do
        files ← readInto files path
  return files

/-- The variables of the environment that matter. -/
def environment : IO (List (String × String)) := do
  let names := ["LKB_SERVICE_URL", "LKB_SERVICE_REPOSITORY", "LKB_SERVICE_TIMEOUT"]
  let found ← names.mapM fun name => do return (← IO.getEnv name).map fun v => (name, v)
  return found.filterMap id

/-- Follows the words of a command line, and gives the exit code. -/
def run (words : List String) : IO UInt32 := do
  let here := Path.ofString (toString (← IO.currentDir))
  let files ← gatherFiles (Files.empty here.names) words
  let site : Site :=
    { Site.bare with files, environment := ← environment, engine := Rdf.fileEngine }
  match (Action.outcome (CommandLine.run Defaults.programName words) site).1 with
  | .error fault =>
    IO.eprintln fault.message
    return 1
  | .ok ending =>
    match ending with
    | .printed lines => for line in lines do IO.println line
    | _ => for line in ending.complaint do IO.eprintln line
    return ending.code.toUInt32

end Gazetteer.Program

def main (words : List String) : IO UInt32 := Gazetteer.Program.run words
