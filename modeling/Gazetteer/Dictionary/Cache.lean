import Gazetteer.Defaults
import Gazetteer.Dictionary.Basic
import Gazetteer.Value.Access
import Gazetteer.Json.Reader
import Gazetteer.Json.Writer

/-!
# Dictionary/Cache — a dictionary kept in a file

A cache file is a JSON object with the fingerprint of the sources a dictionary was built from, the
time it was written, and the records. `load` gives the dictionary back only for the same
fingerprint, `loadAny` for whatever is there. A file that is missing or is no JSON holds nothing;
JSON of another shape is a fault.
-/

namespace Gazetteer

/-- The file that a dictionary is kept in. -/
structure Cache where
  path : Path
deriving Repr, DecidableEq

namespace Cache

/-- The cache of a directory. -/
def inDirectory (directory : Path) (name : String := Defaults.cacheFile) : Cache :=
  ⟨directory.child name⟩

/-- Whether the file is there. -/
def isPresent (cache : Cache) (files : Files) : Bool := files.isFile cache.path

/-- What the file holds; null if nothing can be read from it. -/
def read (cache : Cache) (files : Files) : Value :=
  match files.readBytes cache.path with
  | .error _ => .null
  | .ok bytes =>
    match Text.decode? bytes with
    | none => .null
    | some cs => (Json.parse? (Text.unifyLineBreaks cs)).getD .null

/-- The three parts of a record. -/
def entityOf : Value → Except Fault Entity
  | .array [inst, cls, label] => .ok ⟨inst, cls, label⟩
  | .array items => .error (.shape (sizeFlaw items.length))
  | .string s =>
    match s.toList with
    | [a, b, c] => .ok (Entity.ofStrings a.toString b.toString c.toString)
    | cs => .error (.shape (sizeFlaw cs.length))
  | .object [(a, _), (b, _), (c, _)] => .ok (Entity.ofStrings a b c)
  | .object members => .error (.shape (sizeFlaw members.length))
  | v => .error (.shape (.notUnpackable v.typeName))
where
  /-- Why a record of another size is refused. -/
  sizeFlaw (size : Nat) : ShapeFlaw := if size < 3 then .tooFew 3 size else .tooMany 3

/-- The dictionary of records added one after the other. -/
def collect (d : Dictionary) : List Value → Except Fault Dictionary
  | [] => .ok d
  | v :: rest =>
    match entityOf v with
    | .error fault => .error fault
    | .ok e =>
      match d.add e with
      | .error fault => .error fault
      | .ok d => collect d rest

/-- The members of what a file holds. -/
def membersOf : Value → Except Fault (List (String × Value))
  | .object members => .ok members
  | v => .error (.shape (.noOperation v.typeName "get"))

/-- The dictionary that the members of a cache file stand for. -/
def build (members : List (String × Value)) : Except Fault Dictionary :=
  match ((Value.find? "entities" members).getD (.array [])).items with
  | .error fault => .error fault
  | .ok items => collect .empty items

/-- The dictionary in the file, whatever it was built from. -/
def loadAny (cache : Cache) (files : Files) : Except Fault (Option Dictionary) :=
  match cache.read files with
  | .null => .ok none
  | v =>
    match membersOf v with
    | .error fault => .error fault
    | .ok members => (build members).map some

/-- A fingerprint as a value. -/
def fingerprintValue : Option Int → Value
  | some n => .int n
  | none => .null

/-- The dictionary in the file, if it was built from sources with the given fingerprint. -/
def load (cache : Cache) (files : Files) (fingerprint : Option Int) :
    Except Fault (Option Dictionary) :=
  match cache.read files with
  | .null => .ok none
  | v =>
    match membersOf v with
    | .error fault => .error fault
    | .ok members =>
      if ((Value.find? "fingerprint" members).getD .null).same (fingerprintValue fingerprint) then
        (build members).map some
      else .ok none

/-- What a cache file holds for a dictionary. -/
def contents (time : String) (fingerprint : Option Int) (d : Dictionary) : Value :=
  .object [("fingerprint", fingerprintValue fingerprint), ("created_at", .string time),
    ("entities", .array (d.records.map Entity.toValue))]

/-- The file tree after a dictionary has been written to the cache file. It makes no difference
whether that can be done: what prevents it is passed over, and a file that was begun is left. -/
def save (cache : Cache) (time : String) (fingerprint : Option Int) (d : Dictionary)
    (files : Files) : Files :=
  (files.writeAlong cache.path (Text.encode (Json.write (contents time fingerprint d)))).2

end Cache

end Gazetteer
