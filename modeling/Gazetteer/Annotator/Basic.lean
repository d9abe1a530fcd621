import Gazetteer.Annotation.Corpus
import Gazetteer.Annotator.Match
import Gazetteer.Defaults
import Gazetteer.Feed.Basic

/-!
# Annotator/Basic — building a dictionary, and annotating documents with it

An annotator builds its dictionary from a source, or takes it from a cache that was built from the
same source, and lets a feeder add to it. It then goes through a document from left to right: at
each place the feeder is asked for records, the longest alias there is annotated, and the search
goes on after it.

What sources, caches and feeders do is given by `Source`, `CacheAccess` and `Feeding` over any
state; the annotator itself depends on nothing else.
-/

namespace Gazetteer

/-- A source of records, over a state of type `σ`. -/
structure Source (σ : Type) where
  variant : Variant
  /-- What tells whether a cache was built from the same source. -/
  fingerprint : Option Int
  /-- Adds all records to a dictionary. -/
  push : Action (σ × Dictionary) Unit
  close : Action σ Unit

/-- How dictionaries are kept, over a state of type `σ`. -/
structure CacheAccess (σ : Type) where
  load : (fingerprint : Int) → Action σ (Option Dictionary)
  loadAny : Action σ (Option Dictionary)
  save : (fingerprint : Int) → Dictionary → Action σ Unit

/-- What an annotator asks of a feeder, over a state of type `σ`. -/
structure Feeding (σ : Type) where
  setUp : List (String × Value) → Action σ Unit
  feedAll : Action (σ × Dictionary) Unit
  begin : Document → Action σ Bool
  /-- Adds records to the dictionary of a document when lexemes lie ahead. -/
  feedAhead : Document → List String → Action (σ × Dictionary) Unit
  finish : Document → Action σ Unit

/-- The settings of an annotator. -/
structure Annotator where
  directory : Path
  /-- The options that the feeder is set up with. -/
  options : List (String × Value) := []
  /-- How many lexemes the feeder sees ahead. -/
  lookahead : Int := Defaults.lookahead
  /-- The set that annotations go to; none for the document's own. -/
  output : Option String := none
  /-- The type of the annotations. -/
  type : String := Defaults.annotationType
  useCache : Bool := true
deriving Repr, Inhabited

namespace Annotator

variable {σ τ : Type}

/-! ## Building the dictionary -/

/-- The dictionary in the cache, if the cache is used and can serve for a source. -/
def cached (a : Annotator) (cache : CacheAccess σ) (source : Source σ) :
    Action σ (Option Dictionary) :=
  if !a.useCache then pure none
  else
    match source.fingerprint with
    | some fingerprint => cache.load fingerprint
    | none => if source.variant = .unavailable then cache.loadAny else pure none

/-- The fault of a push that failed: a failed query becomes the cause of a missing dictionary. -/
def pushFault (a : Annotator) (fault : Fault) : Fault :=
  if fault.isQuery then .dictionaryNotBuilt a.directory fault else fault

/-- The dictionary of a source, which is closed on every way out. -/
def pushed (a : Annotator) (source : Source σ) : Action σ Dictionary := do
  let (_, d) ← Action.ensuring
    ((Action.withState Dictionary.empty source.push).mapFault a.pushFault) source.close
  return d

/-- The dictionary of a source: from the cache, or pushed and then kept in the cache. -/
def dictionaryOf (a : Annotator) (cache : CacheAccess σ) (source : Source σ) :
    Action σ Dictionary := do
  match ← a.cached cache source with
  | some d => return d
  | none =>
    let d ← a.pushed source
    match source.fingerprint with
    | some fingerprint => if a.useCache then cache.save fingerprint d
    | none => pure ()
    return d

/-- Lets a feeder add to the dictionary that an annotator has. -/
def feedInto (feeding : Feeding σ) (d : Dictionary) : Action (σ × Option Dictionary) Unit :=
  Action.zoom (fun (s, _) => (s, d)) (fun (s, d) _ => (s, some d)) feeding.feedAll

/-- Builds the dictionary that serves all documents. -/
def start (a : Annotator) (resolve : Path → Action σ (Source σ)) (cache : CacheAccess σ)
    (feeding : Feeding (σ × τ)) : Action ((σ × τ) × Option Dictionary) Variant := do
  let source ← Action.onFirst (Action.onFirst (resolve a.directory))
  let d ← Action.onFirst (Action.onFirst (a.dictionaryOf cache source))
  modify fun (s, _) => (s, some d)
  Action.onFirst (feeding.setUp a.options)
  feedInto feeding d
  return source.variant

/-! ## Annotating a document -/

/-- The features of an annotation that marks a record. -/
def featuresOf (e : Entity) : List (String × Value) :=
  [("inst", e.inst), ("class", e.cls), ("alias", e.label)]

/-- Annotates a span once for each record. -/
def mark (a : Annotator) (set : SetRef) (start stop : Nat) : List Entity → Corpus →
    List AnnotationRef × Corpus
  | [], c => ([], c)
  | e :: rest, c =>
    let (ref, c) := c.create set a.type start stop (featuresOf e)
    let (refs, c) := a.mark set start stop rest c
    (ref :: refs, c)

/-- Where the stretch of the first `n` lexemes ends. -/
def stopOf (lexemes : List Lexeme) (n : Nat) : Nat :=
  ((lexemes.take n).getLast?.map Lexeme.stop).getD 0

/-- Goes through the lexemes from a place on; `feedAhead` is asked at each place, if it is given. -/
def scan (a : Annotator) (globals : Dictionary) (document : Document) (total : Nat)
    (feedAhead : Option (List String → Action (σ × Dictionary) Unit)) (locals : Dictionary) :
    List Lexeme → Action (σ × Corpus) (List AnnotationRef)
  | [] => pure []
  | lexeme :: rest => do
    let locals ←
      match feedAhead with
      | none => pure locals
      | some feedAhead => do
        let window := windowOf total a.lookahead (lexeme :: rest)
        let (_, locals) ← Action.onFirst (Action.withState locals (feedAhead window))
        pure locals
    let (_, corpus) ← get
    let (set, corpus) := corpus.setOf document a.output
    match matchAt globals locals (lexeme :: rest) with
    | none =>
      modify fun (s, _) => (s, corpus)
      scan a globals document total feedAhead locals rest
    | some (n, records) =>
      let (refs, corpus) := a.mark set lexeme.start (stopOf (lexeme :: rest) n) records corpus
      modify fun (s, _) => (s, corpus)
      let others ← scan a globals document total feedAhead locals (rest.drop (n - 1))
      return refs ++ others
termination_by lexemes => lexemes.length
decreasing_by
  · simp
  · simp only [List.length_drop, List.length_cons]; omega

/-- Annotates a document with a dictionary and what a feeder adds for this document. -/
def annotate (a : Annotator) (globals : Dictionary) (feeding : Feeding σ) (document : Document) :
    Action (σ × Corpus) (List AnnotationRef) := do
  let lexemes := Lexeme.scan document.content.toList
  if ← Action.onFirst (feeding.begin document) then
    Action.ensuring
      (a.scan globals document lexemes.length (some (feeding.feedAhead document)) .empty lexemes)
      (Action.onFirst (feeding.finish document))
  else a.scan globals document lexemes.length none .empty lexemes

/-- Annotates a document; without a dictionary nothing is done. -/
def execute (a : Annotator) (dictionary : Option Dictionary) (feeding : Feeding σ)
    (document : Document) : Action (σ × Corpus) (List AnnotationRef) :=
  match dictionary with
  | none => throw .gazetteerNotReady
  | some globals => a.annotate globals feeding document

end Annotator

end Gazetteer
