import Gazetteer.Text.Split

/-!
# Location/Path — paths in a file tree

A path is a number of slashes in front — none for a relative path, one, or exactly two, which are
kept apart — and the names between the slashes that follow. Empty names and single dots are left
out when a path is read; double dots are kept.
-/

namespace Gazetteer

/-- A path: how many slashes it begins with, and its names. -/
structure Path where
  slashes : Nat
  names : List String
deriving Repr, DecidableEq, Inhabited

namespace Path

/-- How many slashes of a text count: two stay two, more are one. -/
def slashesOf (cs : List Char) : Nat :=
  let n := (cs.takeWhile (· = '/')).length
  if n = 2 then 2 else min n 1

/-- The path a text stands for. -/
def ofString (s : String) : Path :=
  let pieces := (Text.splitOnChar '/' s.toList).filter fun p => p ≠ [] && p ≠ ['.']
  ⟨slashesOf s.toList, pieces.map String.ofList⟩

/-- The text of a path; the empty relative path is a dot. -/
def text (p : Path) : String :=
  if p.slashes = 0 && p.names.isEmpty then "."
  else String.ofList
    (List.replicate p.slashes '/' ++ Text.joinWith ['/'] (p.names.map String.toList))

def isAbsolute (p : Path) : Bool := p.slashes != 0

/-- A path seen from another one: an absolute path stays what it is. -/
def join (base p : Path) : Path :=
  if p.isAbsolute then p else ⟨base.slashes, base.names ++ p.names⟩

/-- A path below another one, given as text. -/
def child (base : Path) (name : String) : Path := base.join (ofString name)

/-- The path without its last name. -/
def parent (p : Path) : Path := ⟨p.slashes, p.names.dropLast⟩

instance : ToString Path := ⟨text⟩

theorem join_of_isAbsolute {p : Path} (h : p.isAbsolute = true) (base : Path) :
    base.join p = p := by
  simp [join, h]

@[simp] theorem join_assoc (a b c : Path) : (a.join b).join c = a.join (b.join c) := by
  by_cases hc : c.isAbsolute = true
  · simp [join, hc]
  · by_cases hb : b.isAbsolute = true
    · have : (⟨b.slashes, b.names ++ c.names⟩ : Path).isAbsolute = true := hb
      simp [join, hb, hc, this]
    · have : ¬ (⟨b.slashes, b.names ++ c.names⟩ : Path).isAbsolute = true := hb
      simp [join, hb, hc, this, List.append_assoc]

end Path

end Gazetteer
