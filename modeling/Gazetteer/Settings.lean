import Gazetteer.Defaults
import Gazetteer.Fault
import Gazetteer.Yaml.Document

/-!
# Settings — settings read from a file

A settings file is a YAML text. One that says nothing stands for settings without sections.
-/

namespace Gazetteer.Settings

/-- The settings that a text stands for. -/
def parse (cs : List Char) : Except Fault Value :=
  match Yaml.parse? (Text.unifyLineBreaks cs) with
  | none => .error .settingsUnreadable
  | some v => .ok (if v.isGiven then v else .object [])

/-- The settings in a file. -/
def load (files : Files) (path : Path) : Except Fault Value :=
  match files.readBytes path with
  | .error flaw => .error (.file flaw path.text)
  | .ok bytes =>
    match Text.decode? bytes with
    | none => .error .notUtf8
    | some cs => parse cs

/-- The settings that come with the library; without its settings file there are none. -/
def standard (isPackaged : Bool) : Value := .object (if isPackaged then Defaults.sections else [])

end Gazetteer.Settings
