import Gazetteer.Yaml.Quoted
import Gazetteer.Yaml.Scalar

/-!
# Yaml/Flow — plain scalars, and collections between brackets

A plain scalar goes on over lines until a mark ends it: outside brackets a colon before a blank, a
comment, or a line that is not indented farther than the collection around it; inside brackets also
the marks of flow collections.
-/

namespace Gazetteer.Yaml.Scanner

/-! ## Plain scalars -/

/-- Whether a character ends a part between brackets. -/
def isFlowMark (c : Char) : Bool := [',', '[', ']', '\x7b', '\x7d'].contains c

/-- The characters with which a plain scalar begins only in special cases. -/
def marks : List Char :=
  ['-', '?', ':', ',', '[', ']', '\x7b', '\x7d', '#', '&', '*', '!', '|', '>', '\'', '"', '%', '@',
    Char.ofNat 0x60]

/-- How many characters of a plain scalar come next without a blank. -/
def wordLength (inFlow : Bool) : List Char → Nat
  | [] => 0
  | c :: rest =>
    let ends :=
      isBlank c || (c = ':' && (endsWord rest || (inFlow && rest.head?.any isFlowMark)))
        || (inFlow && (c = '?' || isFlowMark c))
    if ends then 0 else wordLength inFlow rest + 1

/-- Whether a plain scalar may begin with a text. -/
def beginsPlain (inFlow : Bool) : List Char → Bool
  | [] => false
  | c :: rest =>
    if isBlank c then false
    else !marks.contains c
      || (!endsWord rest && (c = '-' || (!inFlow && (c = '?' || c = ':'))))

/-- Passes over empty lines of a plain scalar and counts them; none if a document ends there. -/
def plainBreaks : Nat → Scanner (Option Nat)
  | 0 => return none
  | steps + 1 => do
    if ← atDocumentMark then return none
    let _ ← takeWhile (· = ' ')
    if (← peek) = some '\n' then
      skip 1
      return (← plainBreaks steps).map (· + 1)
    return some 0

/-- What stands for the blanks between two words of a plain scalar; none if the scalar ends. -/
def plainBlanks : Scanner (Option (List Char)) := do
  let spaces ← takeWhile (· = ' ')
  if (← peek) = some '\n' then
    skip 1
    let breaks ← plainBreaks ((← get).rest.length + 1)
    return breaks.map fun n => folded (n + 1)
  return if spaces.isEmpty then none else some spaces

/-- Reads a plain scalar after its first word; between brackets there is no parent column. -/
def plainRest (parent : Option Int) : Nat → Scanner (List Char)
  | 0 => return []
  | steps + 1 => do
    let before ← get
    let blanks ← plainBlanks
    let s ← get
    let outside := parent.any fun p => (s.column : Int) ≤ p
    let size := wordLength parent.isNone s.rest
    match blanks with
    | some blanks =>
      if outside || s.rest.head? = some '#' || size = 0 then
        set before
        return []
      skip size
      return blanks ++ s.rest.take size ++ (← plainRest parent steps)
    | none =>
      set before
      return []

/-- Reads a plain scalar. -/
def plain (parent : Option Int) : Scanner Content := do
  let s ← get
  require (beginsPlain parent.isNone s.rest)
  let size := wordLength parent.isNone s.rest
  skip size
  return .plain (s.rest.take size ++ (← plainRest parent (s.rest.length + 1)))

/-! ## Anchors, aliases and tags -/

/-- What stands before a node: the name it gets for aliases, and its tag. -/
structure Properties where
  anchor : Option String := none
  tag : Option String := none

/-- Whether nothing stands before a node. -/
def Properties.isEmpty (p : Properties) : Bool := p.anchor.isNone && p.tag.isNone

/-- Reads the name of an anchor or an alias after its mark. -/
def anchorName : Scanner String := do
  skip 1
  let name ← takeWhile fun c => c.isAlphanum || c = '-' || c = '_'
  require (!name.isEmpty)
  let ends (c : Char) : Bool := isBlank c || ['?', ':', ',', ']', '\x7d', '%', '@'].contains c
  require ((← peek).all ends)
  return String.ofList name

/-- Reads what stands before a node: at most one anchor and one tag. -/
def properties : Nat → Properties → Scanner Properties
  | 0, found => return found
  | steps + 1, found => do
    match ← peek with
    | some '&' =>
      if found.anchor.isSome then return found
      let name ← anchorName
      require (!(← get).anchors.any fun a => a.1 == name)
      skipGap
      properties steps { found with anchor := some name }
    | some '!' =>
      if found.tag.isSome then return found
      let tag ← takeWhile fun c => !isBlank c
      require ((← peek) ≠ some '\t')
      skipGap
      properties steps { found with tag := some (String.ofList tag) }
    | _ => return found

/-- A node with what stands before it: its tag is applied, and its value kept for aliases. -/
def finish (p : Properties) (content : Content) : Scanner Content := do
  let content ← match p.tag with
    | some tag => (content.tagged? tag : Option Content)
    | none => pure content
  match p.anchor with
  | none => return content
  | some name =>
    require (!(← get).anchors.any fun a => a.1 == name)
    let v ← (content.value? : Option Value)
    modify fun s => { s with anchors := (name, v) :: s.anchors }
    return content

/-- Reads an alias. -/
def aliased : Scanner Content := do
  let name ← anchorName
  match (← get).anchors.find? fun a => a.1 == name with
  | some (_, v) => return .value v
  | none => failure

/-! ## Collections between brackets -/

/-- What is no bracket: a scalar or an alias. -/
def leaf (parent : Option Int) (p : Properties) : Scanner Content := do
  match ← peek with
  | some '\'' => finish p (.quoted (← quoted '\''))
  | some '"' => finish p (.quoted (← quoted '"'))
  | some '*' =>
    require p.isEmpty
    aliased
  | _ => finish p (← plain parent)

/-- Passes over what stands between two parts between brackets; no document may end there. -/
def flowGap : Scanner Unit := do
  skipGap
  require (!(← atDocumentMark))

/-- An entry between brackets. -/
structure FlowEntry where
  first : Content
  /-- What stands after the colon. -/
  second : Option Content

/-- The key and value of an entry. -/
def FlowEntry.pair? (e : FlowEntry) : Option (Key × Value) := do
  return (← e.first.key?, ← (e.second.getD .empty).value?)

/-- An entry as an item of an array: an object with one member, if it has a colon. -/
def FlowEntry.item? (e : FlowEntry) : Option Value := do
  match e.second with
  | none => e.first.value?
  | some _ => objectOf? [← e.pair?]

/-- Whether nothing is written for a part between brackets. -/
def endsPart (c : Option Char) : Bool :=
  c.any fun c => c = ',' || c = ':' || c = ']' || c = '\x7d'

/-- How far a key may be from its colon. -/
def keyReach : Nat := 1024

/-- Whether what began at a source may be a key with the colon that comes next. -/
def reaches (start : Source) : Scanner Bool := do
  let s ← get
  return s.line = start.line && s.passed ≤ start.passed + keyReach

mutual

/-- Reads a node between brackets, given what stands before it. -/
def bracketed (parent : Option Int) (p : Properties) : Nat → Scanner Content
  | 0 => failure
  | steps + 1 => do
    match ← peek with
    | some '[' =>
      skip 1
      let entries ← flowEntries ']' steps
      finish p (.value (.array (← (entries.mapM FlowEntry.item? : Option (List Value)))))
    | some '\x7b' =>
      skip 1
      let entries ← flowEntries '\x7d' steps
      finish p (.value (← (entries.mapM FlowEntry.pair? >>= objectOf? : Option Value)))
    | _ => leaf parent p

/-- Reads the entries up to a closing bracket. -/
def flowEntries (closing : Char) : Nat → Scanner (List FlowEntry)
  | 0 => failure
  | steps + 1 => do
    flowGap
    if (← peek) = some closing then
      skip 1
      return []
    let start ← get
    let isMarked := start.rest.head? = some '?'
    if isMarked then
      skip 1
      flowGap
    let first ← flowPart isMarked steps
    flowGap
    let second ←
      if (← peek) = some ':' then
        require (isMarked || (← reaches start))
        skip 1
        flowGap
        some <$> flowPart true steps
      else pure (if isMarked then some .empty else none)
    let entry : FlowEntry := ⟨first, second⟩
    flowGap
    match ← peek with
    | some c =>
      if c = ',' then
        skip 1
        return entry :: (← flowEntries closing steps)
      require (c = closing)
      skip 1
      return [entry]
    | none => failure

/-- Reads a part of an entry; where it may be left out nothing need be written. -/
def flowPart (mayBeEmpty : Bool) : Nat → Scanner Content
  | 0 => failure
  | steps + 1 => do
    if mayBeEmpty && endsPart (← peek) then return .empty
    let p ← properties 2 {}
    if !p.isEmpty && endsPart (← peek) then finish p .empty
    else bracketed none p steps

end

end Gazetteer.Yaml.Scanner
