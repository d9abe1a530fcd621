import Gazetteer.Annotation.Basic

/-!
# Annotation/Corpus — documents with their annotations

A corpus holds documents, annotations, mappings of features and sets. An annotation may stand in
several sets, so it is kept once and the sets refer to it; in the same way, annotations refer to
their features. Ids are drawn from one counter, but an annotation may also be given its id.
-/

namespace Gazetteer

/-- The sets of a document. -/
structure DocumentSets where
  unnamed : SetRef
  /-- The named sets, in the order they were made. -/
  named : List (String × SetRef) := []
deriving Repr, Inhabited

/-- Without annotations, none refers to features that are missing. -/
theorem Mark.inRange_empty :
    ∀ mark ∈ (#[] : Array Mark), mark.features.index < (#[] : Array (List (String × Value))).size :=
  fun mark hmark => absurd hmark (Array.not_mem_empty mark)

/-- Documents, annotations, mappings of features and sets. -/
structure Corpus where
  marks : Array Mark := #[]
  features : Array (List (String × Value)) := #[]
  sets : Array AnnotationSet := #[]
  documents : Array DocumentSets := #[]
  /-- The id that is drawn next. -/
  nextId : Int := 1
  /-- Annotations refer to features that are there. -/
  inRange : ∀ mark ∈ marks, mark.features.index < features.size := by exact Mark.inRange_empty

instance : Inhabited Corpus := ⟨{}⟩

namespace Corpus

/-- A mapping of features. -/
def featuresAt (c : Corpus) (ref : FeaturesRef) : List (String × Value) :=
  c.features[ref.index]?.getD []

/-- An annotation as it is read. -/
def read (c : Corpus) (mark : Mark) : Annotation :=
  ⟨mark.id, mark.type, mark.start, mark.stop, c.featuresAt mark.features⟩

/-- The annotation at a place. -/
def markAt (c : Corpus) (ref : AnnotationRef) : Annotation :=
  (c.marks[ref.index]?.map c.read).getD default

/-- All annotations. -/
def annotations (c : Corpus) : Array Annotation := c.marks.map c.read

/-- The set at a place. -/
def setAt (c : Corpus) (ref : SetRef) : AnnotationSet := c.sets[ref.index]?.getD {}

/-- The sets of a document. -/
def setsOf (c : Corpus) (d : Document) : DocumentSets := c.documents[d.place]?.getD default

/-- Takes in a set. -/
def addSet (c : Corpus) (s : AnnotationSet) : SetRef × Corpus :=
  (⟨c.sets.size⟩, { c with sets := c.sets.push s })

/-- Takes in a document that goes by a number, with an empty set of its own. -/
def addDocument (c : Corpus) (key : Nat) (name content : String) : Document × Corpus :=
  let (ref, c) := c.addSet {}
  (⟨c.documents.size, key, name, content⟩, { c with documents := c.documents.push ⟨ref, []⟩ })

/-- The set of a document with a name, which is made if it is not there; without a name, or with an
empty one, the document's own set. -/
def setOf (c : Corpus) (d : Document) (name : Option String) : SetRef × Corpus :=
  let sets := c.setsOf d
  match name with
  | none | some "" => (sets.unnamed, c)
  | some name =>
    match (sets.named.find? fun s => s.1 == name).map (·.2) with
    | some ref => (ref, c)
    | none =>
      let (ref, c) := c.addSet { name := some name }
      (ref, { c with
        documents := c.documents.modify d.place fun s =>
          { s with named := s.named ++ [(name, ref)] } })

/-- Takes in a mapping of features. -/
def addFeatures (c : Corpus) (members : List (String × Value)) : Corpus :=
  { c with
    features := c.features.push members
    inRange := fun mark hmark => by
      rw [Array.size_push]
      exact Nat.lt_succ_of_lt (c.inRange mark hmark) }

/-- Takes in an annotation that refers to features that are there. -/
def takeInSharing (c : Corpus) (mark : Mark) (h : mark.features.index < c.features.size) :
    AnnotationRef × Corpus :=
  (⟨c.marks.size⟩, { c with
    marks := c.marks.push mark
    inRange := fun other hother => by
      rcases Array.mem_push.mp hother with hother | rfl
      · exact c.inRange other hother
      · exact h })

/-- Takes in an annotation that has an id, with a mapping of features of its own. -/
def takeIn (c : Corpus) (a : Annotation) : AnnotationRef × Corpus :=
  (c.addFeatures a.features).takeInSharing ⟨a.id, a.type, a.start, a.stop, ⟨c.features.size⟩⟩
    (by simp [addFeatures])

/-- Takes in an annotation with an id drawn from the counter. -/
def draw (c : Corpus) (type : String) (start stop : Int)
    (features : List (String × Value)) : AnnotationRef × Corpus :=
  { c with nextId := c.nextId + 1 }.takeIn ⟨c.nextId, type, start, stop, features⟩

/-- Changes a set. -/
def updateSet (c : Corpus) (ref : SetRef) (f : AnnotationSet → AnnotationSet) : Corpus :=
  { c with sets := c.sets.modify ref.index f }

/-- Puts an annotation into a set. -/
def put (c : Corpus) (set : SetRef) (ref : AnnotationRef) : Corpus :=
  c.updateSet set fun s => s.put (c.markAt ref).id ref

/-- Makes an annotation in a set. -/
def create (c : Corpus) (set : SetRef) (type : String) (start stop : Int)
    (features : List (String × Value)) : AnnotationRef × Corpus :=
  let (ref, c) := c.draw type start stop features
  (ref, c.put set ref)

/-- The annotations of a set that have one of the given types, in order; all of them, if no types
are given. -/
def select (c : Corpus) (set : SetRef) (types : Option (List String)) : List AnnotationRef :=
  match types with
  | none => (c.setAt set).refs
  | some types => (c.setAt set).refs.filter fun ref => types.contains (c.markAt ref).type

/-- Whether a set holds an annotation with the id of the given one. -/
def holds (c : Corpus) (set : SetRef) (ref : AnnotationRef) : Bool :=
  (c.setAt set).has (c.markAt ref).id

/-- Takes out of a set what it holds under the id of an annotation. -/
def remove (c : Corpus) (set : SetRef) (ref : AnnotationRef) : Bool × Corpus :=
  (c.holds set ref, c.updateSet set fun s => s.erase (c.markAt ref).id)

/-- Takes annotations out of a set, and counts those that were there. -/
def removeAll (c : Corpus) (set : SetRef) : List AnnotationRef → Nat × Corpus
  | [] => (0, c)
  | ref :: rest =>
    let (removed, c) := c.remove set ref
    let (count, c) := c.removeAll set rest
    (if removed then count + 1 else count, c)

/-- The mapping of features that an annotation refers to. -/
def featuresOf? (c : Corpus) (ref : AnnotationRef) : Option FeaturesRef :=
  c.marks[ref.index]?.map Mark.features

/-- Changes a mapping of features. -/
def modifyFeatures (c : Corpus) (ref : FeaturesRef)
    (f : List (String × Value) → List (String × Value)) : Corpus :=
  { c with
    features := c.features.modify ref.index f
    inRange := fun mark hmark => by
      rw [Array.size_modify]
      exact c.inRange mark hmark }

/-- Changes the features of an annotation, and of all that refer to the same mapping. -/
def updateFeatures (c : Corpus) (ref : AnnotationRef)
    (f : List (String × Value) → List (String × Value)) : Corpus :=
  match c.featuresOf? ref with
  | some features => c.modifyFeatures features f
  | none => c

end Corpus

end Gazetteer
