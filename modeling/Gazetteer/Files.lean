import Gazetteer.Location.Resource
import Gazetteer.Text.Lines
import Gazetteer.Text.Utf8

/-!
# Files — a file tree and a working directory

A tree holds files and directories under absolute names. A path is followed name by name from the
working directory or the root: every name but the last has to be a directory, and double dots lead
back to the one above. The working directory may have been removed, and then no relative path leads
anywhere.

Some names may be locked against writing, and the disk may be full before a file has all its bytes;
what has been written by then is left.
-/

namespace Gazetteer

/-- What a name in a file tree stands for. -/
inductive Node where
  | file (bytes : List UInt8)
  | directory
deriving Repr, DecidableEq

/-- Why a file cannot be read or written. -/
inductive FileFlaw where
  | notFound
  /-- The working directory has been removed. -/
  | adrift
  | notDirectory
  | isDirectory
  | alreadyThere
  | notPermitted
  | diskFull
  /-- The path holds the character NUL. -/
  | nullCharacter
deriving Repr, DecidableEq

/-- A file tree: what stands under each absolute name. The root is always a directory. -/
structure Files where
  /-- The names that lead from the root to the working directory; none if it has been removed. -/
  here : Option (List String)
  nodes : List (List String × Node)
  /-- The names under which no file can be written and no directory made. -/
  locked : List (List String) := []
  /-- After how many bytes of a file the disk is full; none if it is not. -/
  full : Option Nat := none
deriving Repr, Inhabited

namespace FileFlaw

/-- The text of a flaw, with the path as it was given. -/
def message (flaw : FileFlaw) (path : String) : String :=
  match flaw with
  | notFound => "[Errno 2] No such file or directory: " ++ path
  | adrift => "[Errno 2] No such file or directory"
  | notDirectory => "[Errno 20] Not a directory: " ++ path
  | isDirectory => "[Errno 21] Is a directory: " ++ path
  | alreadyThere => "[Errno 17] File exists: " ++ path
  | notPermitted => "[Errno 13] Permission denied: " ++ path
  | diskFull => "[Errno 28] No space left on device"
  | nullCharacter => "embedded null byte"

end FileFlaw

namespace Files

/-- The working directory as a path; the root, if it has been removed. -/
def herePath (files : Files) : Path := ⟨1, files.here.getD []⟩

/-- A path seen from the root. A relative one needs the working directory for that. -/
def absolute (files : Files) (p : Path) : Except FileFlaw Path :=
  if p.isAbsolute || files.here.isSome then .ok (files.herePath.join p) else .error .adrift

/-- The `file:` URL of a path. -/
def url (files : Files) (p : Path) : Except FileFlaw String :=
  (files.absolute p).map fun _ => Path.toUrl files.herePath p

/-- What stands under an absolute name. -/
def at? (files : Files) (name : List String) : Option Node :=
  if name.isEmpty then some .directory
  else (files.nodes.find? fun n => n.1 == name).map (·.2)

/-- Follows the names of a path from an absolute name. -/
def follow (files : Files) : List String → List String → Except FileFlaw (List String)
  | name, [] => .ok name
  | name, next :: rest =>
    match files.at? name with
    | none => .error .notFound
    | some (.file _) => .error .notDirectory
    | some .directory =>
      follow files (if next = ".." then name.dropLast else name ++ [next]) rest

/-- The absolute name that a path begins at. -/
def start? (files : Files) (p : Path) : Option (List String) :=
  if p.isAbsolute then some [] else files.here

/-- The absolute name that a path leads to, whether or not something stands there. -/
def locate (files : Files) (p : Path) : Except FileFlaw (List String) :=
  if p.names.any fun n => n.toList.contains (Char.ofNat 0) then .error .nullCharacter
  else
    match files.start? p with
    | none => .error .notFound
    | some start => files.follow start p.names

/-- What a path leads to. -/
def node? (files : Files) (p : Path) : Except FileFlaw Node :=
  match files.locate p with
  | .error flaw => .error flaw
  | .ok name =>
    match files.at? name with
    | some node => .ok node
    | none => .error .notFound

/-- Whether a path leads to a file. -/
def isFile (files : Files) (p : Path) : Bool :=
  match files.node? p with
  | .ok (.file _) => true
  | _ => false

/-- Whether a path leads to a directory. -/
def isDirectory (files : Files) (p : Path) : Bool :=
  match files.node? p with
  | .ok .directory => true
  | _ => false

/-- Whether a path leads to anything. -/
def contains (files : Files) (p : Path) : Bool :=
  match files.node? p with
  | .ok _ => true
  | .error _ => false

/-- The bytes of a file. -/
def readBytes (files : Files) (p : Path) : Except FileFlaw (List UInt8) :=
  match files.node? p with
  | .ok (.file bytes) => .ok bytes
  | .ok .directory => .error .isDirectory
  | .error flaw => .error flaw

/-- The tree with something else under an absolute name. -/
def set (files : Files) (name : List String) (node : Node) : Files :=
  { files with nodes := (name, node) :: files.nodes.filter fun n => n.1 != name }

/-- The absolute name that a path leads to, if a file can be opened for writing there: one that is
there already, or a new one in a directory. -/
def target (files : Files) (p : Path) : Except FileFlaw (List String) :=
  match files.locate p with
  | .error flaw => .error flaw
  | .ok name =>
    match files.at? name, files.at? name.dropLast with
    | some .directory, _ => .error .isDirectory
    | none, some (.file _) => .error .notDirectory
    | none, none => .error .notFound
    | some (.file _), _ | none, some .directory =>
      if files.locked.contains name then .error .notPermitted else .ok name

/-- As many of some bytes as the disk has room for, and the flaw if these are not all. -/
def fitting (files : Files) (bytes : List UInt8) : Option FileFlaw × List UInt8 :=
  match files.full with
  | none => (none, bytes)
  | some n => (if bytes.length ≤ n then none else some .diskFull, bytes.take n)

/-- Writes the bytes of a file, which is made if it is not there, and gives the flaw that prevents
it or breaks it off. -/
def writeBytes (files : Files) (p : Path) (bytes : List UInt8) : Option FileFlaw × Files :=
  match files.target p with
  | .error flaw => (some flaw, files)
  | .ok name =>
    let (flaw?, bytes) := files.fitting bytes
    (flaw?, files.set name (.file bytes))

/-- Follows the names of a path from an absolute name, making the directories that are missing. -/
def makeAlong (files : Files) : List String → List String → Option FileFlaw × Files
  | name, [] =>
    match files.at? name with
    | some .directory => (none, files)
    | some (.file _) => (some .alreadyThere, files)
    | none =>
      if files.locked.contains name then (some .notPermitted, files)
      else (none, files.set name .directory)
  | name, next :: rest =>
    match files.at? name with
    | some (.file _) => (some .notDirectory, files)
    | some .directory =>
      makeAlong files (if next = ".." then name.dropLast else name ++ [next]) rest
    | none =>
      if files.locked.contains name then (some .notPermitted, files)
      else
        makeAlong (files.set name .directory)
          (if next = ".." then name.dropLast else name ++ [next]) rest

/-- Makes a directory at a path, and directories on the way to it, and gives the flaw that prevents
it. -/
def makeDirectories (files : Files) (p : Path) : Option FileFlaw × Files :=
  if p.names.any fun n => n.toList.contains (Char.ofNat 0) then (some .nullCharacter, files)
  else
    match files.start? p with
    | none => (some .notFound, files)
    | some start => files.makeAlong start p.names

/-- Writes the bytes of a file after making the directories on the way to it. -/
def writeAlong (files : Files) (p : Path) (bytes : List UInt8) : Option FileFlaw × Files :=
  match files.makeDirectories p.parent with
  | (some flaw, files) => (some flaw, files)
  | (none, files) => files.writeBytes p bytes

/-- The tree without what stands under an absolute name, and below it. -/
def erase (files : Files) (name : List String) : Files :=
  { files with
    here := files.here.filter fun here => !name.isPrefixOf here
    nodes := files.nodes.filter fun n => !name.isPrefixOf n.1 }

/-- Removes what stands at a path, and what is below it. -/
def remove (files : Files) (p : Path) : Option FileFlaw × Files :=
  match files.node? p, files.locate p with
  | .ok _, .ok name => (none, files.erase name)
  | .error flaw, _ | _, .error flaw => (some flaw, files)

/-- A tree with nothing but its working directory. -/
def empty (here : List String) : Files :=
  let dirs := (List.range here.length).map fun i => (here.take (i + 1), Node.directory)
  { here, nodes := dirs }

/-- **A name reads back what was put under it.** -/
theorem at?_set (files : Files) {name : List String} (h : name ≠ []) (node : Node) :
    (files.set name node).at? name = some node := by
  simp [set, at?, h]

/-- Other names are left as they were. -/
theorem at?_set_of_ne (files : Files) {name other : List String} (h : other ≠ name)
    (node : Node) : (files.set name node).at? other = files.at? other := by
  have hne : ¬ (name == other) = true := by simpa using fun e : name = other => h e.symm
  by_cases he : other.isEmpty
  · simp [at?, he]
  · have key : ∀ l : List (List String × Node),
        (l.filter fun n => n.1 != name).find? (fun n => n.1 == other)
          = l.find? (fun n => n.1 == other) := by
      intro l
      induction l with
      | nil => rfl
      | cons x xs ih =>
        by_cases hx : x.1 = name
        · have hxo : ¬ (x.1 == other) = true := by rw [hx]; exact hne
          simp [hx, ih, hne]
        · by_cases hxo : x.1 = other
          · simp [hxo, h]
          · simp [hx, hxo, ih]
    simp only [at?, he, set, List.find?_cons, hne, key]

end Files

end Gazetteer
