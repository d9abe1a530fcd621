import Gazetteer.Value.Text

/-!
# Annotation/Basic — annotations, the sets that hold them, and documents

An annotation marks a span of a document with a type and features. It is kept as a `Mark`, which
refers to its features: several annotations may have the same mapping of features, and what is
written into it by way of one is read by way of the others.

A set holds annotations under their ids, in the order they were put in; putting in another
annotation with an id that is there replaces the one before, in its place. A document has a set of
its own and others by name.
-/

namespace Gazetteer

/-- A marked span, with its features as they are read. -/
structure Annotation where
  id : Int
  type : String
  start : Int
  stop : Int
  features : List (String × Value)
deriving Repr, Inhabited

/-- A mapping of features, by its place among those of a corpus. -/
structure FeaturesRef where
  index : Nat
deriving Repr, DecidableEq, Inhabited

/-- A marked span as it is kept: it refers to its features. -/
structure Mark where
  id : Int
  type : String
  start : Int
  stop : Int
  features : FeaturesRef
deriving Repr, DecidableEq, Inhabited

/-- An annotation, by its place among those of a corpus. Two annotations can have one id. -/
structure AnnotationRef where
  index : Nat
deriving Repr, DecidableEq, Inhabited

/-- A set, by its place among those of a corpus. -/
structure SetRef where
  index : Nat
deriving Repr, DecidableEq, Inhabited

/-- Annotations under their ids. -/
structure AnnotationSet where
  name : Option String := none
  members : List (Int × AnnotationRef) := []
deriving Repr, Inhabited

namespace AnnotationSet

/-- How many annotations a set holds. -/
def size (s : AnnotationSet) : Nat := s.members.length

/-- Whether a set holds an annotation with an id. -/
def has (s : AnnotationSet) (id : Int) : Bool := s.members.any fun m => m.1 == id

/-- The set with an annotation under an id. -/
def put (s : AnnotationSet) (id : Int) (ref : AnnotationRef) : AnnotationSet :=
  { s with members := Value.put id ref s.members }

/-- The set without what it holds under an id. -/
def erase (s : AnnotationSet) (id : Int) : AnnotationSet :=
  { s with members := s.members.filter fun m => m.1 != id }

/-- The annotations of a set, in order. -/
def refs (s : AnnotationSet) : List AnnotationRef := s.members.map (·.2)

/-- How a set shows itself. -/
def shown (s : AnnotationSet) : String :=
  let name := match s.name with
    | some name => Text.quote name
    | none => "None"
  "<AnnotationSet(" ++ name ++ ", " ++ toString s.size ++ " annotations)>"

end AnnotationSet

/-- A text with a name. -/
structure Document where
  /-- The document's place among those of a corpus, which no other document ever has. -/
  place : Nat
  /-- The number that the document goes by while it is in use; when it is gone, another document may
  go by the same number. -/
  key : Nat
  name : String
  content : String
deriving Repr, DecidableEq, Inhabited

/-- How a document shows itself. -/
def Document.shown (d : Document) : String :=
  "<Document(" ++ Text.quote d.name ++ ", " ++ toString d.content.length ++ " chars)>"

/-- How an annotation shows itself. -/
def Annotation.shown (a : Annotation) : String :=
  "<Annotation#" ++ toString a.id ++ " " ++ a.type ++ "[" ++ toString a.start ++ ":"
    ++ toString a.stop ++ "] " ++ (Value.object a.features).quoted ++ ">"

end Gazetteer
