import Gazetteer.Yaml.Block
import Gazetteer.Yaml.Flow

/-!
# Yaml/Document — the value of a YAML text

Outside brackets the columns say what belongs together: the entries of a collection begin at one
column, and what belongs to an entry is indented farther. Only the items of an array that is the
value of a key may begin at the column of the key.

The readers call each other for a bounded number of steps; `document` allows them four for each
character, more than they use. `parse? cs` is the value of a text with at most one document.
-/

namespace Gazetteer.Yaml

namespace Scanner

/-! ## Entries -/

/-- Passes over the mark of an entry; on its line another entry may begin. -/
def skipEntryMark : Scanner Unit := do
  skip 1
  modify fun s => { s with fresh := true }

/-- Whether nothing of a collection at a column is left; what comes at its column has to begin an
entry. -/
def atDedent (column : Nat) : Scanner Bool := do
  skipGap
  if ← atEnd then return true
  let s ← get
  if s.column < column then return true
  require (s.column = column && s.fresh)
  return false

/-- Passes over the colon after a key that began at a source. -/
def keyColon (start : Source) : Scanner Unit := do
  let _ ← takeWhile (· = ' ')
  require ((← atMark ':') && start.fresh && (← reaches start))
  skip 1

/-- Whether a colon comes next, blanks left aside. -/
def beforeColon : Scanner Bool := do
  let _ ← takeWhile (· = ' ')
  atMark ':'

mutual

/-- Reads a node that belongs to an entry at a column, or to the document. `mayAlign` says whether
the items of an array may begin at that column. -/
def node (parent : Int) (mayAlign : Bool) : Nat → Scanner Content
  | 0 => failure
  | steps + 1 => do
    skipGap
    if ← atEnd then return .empty
    let start ← get
    if (start.column : Int) ≤ parent then
      if mayAlign && (start.column : Int) = parent && (← atMark '-') then
        return .value (.array (← items start.column true steps))
      return .empty
    if ← atMark '-' then return .value (.array (← items start.column false steps))
    if ← atMark '?' then return .value (← mapping start.column steps)
    let p ← properties 2 {}
    let s ← get
    if s.line ≠ start.line then finish p (← node parent mayAlign steps)
    else
      match s.rest with
      | [] => finish p .empty
      | '|' :: _ =>
        skip 1
        finish p (.quoted (← block false parent))
      | '>' :: _ =>
        skip 1
        finish p (.quoted (← block true parent))
      | _ =>
        let first ←
          if !p.isEmpty && (← atMark ':') then finish p .empty
          else bracketed (some parent) p steps
        if ← beforeColon then
          keyColon start
          let key ← (first.key? : Option Key)
          let v ← valueAt start.column steps
          let rest ← entries start.column steps
          return .value (← (objectOf? ((key, v) :: rest) : Option Value))
        return first
termination_by structural steps => steps

/-- Reads the value of a key at a column. -/
def valueAt (column : Nat) : Nat → Scanner Value
  | 0 => failure
  | steps + 1 => do ((← node column true steps).value? : Option Value)
termination_by structural steps => steps

/-- Reads the items of an array at a column. -/
def items (column : Nat) (aligned : Bool) : Nat → Scanner (List Value)
  | 0 => failure
  | steps + 1 => do
    if ← atDedent column then return []
    if !(← atMark '-') then
      require aligned
      return []
    skipEntryMark
    let v ← ((← node column false steps).value? : Option Value)
    return v :: (← items column aligned steps)
termination_by structural steps => steps

/-- Reads a mapping at a column. -/
def mapping (column : Nat) : Nat → Scanner Value
  | 0 => failure
  | steps + 1 => do (objectOf? (← entries column steps) : Option Value)
termination_by structural steps => steps

/-- Reads the entries of a mapping at a column. -/
def entries (column : Nat) : Nat → Scanner (List (Key × Value))
  | 0 => failure
  | steps + 1 => do
    if ← atDedent column then return []
    if ← atMark '?' then
      skipEntryMark
      let key ← ((← node column true steps).key? : Option Key)
      let isOver ← atDedent column
      let v ←
        if !isOver && (← atMark ':') then
          skipEntryMark
          valueAt column steps
        else pure .null
      return (key, v) :: (← entries column steps)
    let start ← get
    let p ← properties 2 {}
    let first ←
      if !p.isEmpty && (← atMark ':') then finish p .empty
      else bracketed (some column) p steps
    keyColon start
    let key ← (first.key? : Option Key)
    let v ← valueAt column steps
    return (key, v) :: (← entries column steps)
termination_by structural steps => steps

end

/-! ## Documents -/

/-- Whether a line before a document is one that can be followed: of the language's versions only
the first is known. -/
def isDirective (line : List Char) : Bool :=
  match (Text.splitOnChar ' ' (Text.beforeFirst '#' line)).filter (!·.isEmpty) with
  | name :: arguments =>
    if name = ['%', 'Y', 'A', 'M', 'L'] then
      match arguments.map (Text.splitOnChar '.') with
      | [[major, minor]] =>
        major.all Json.isDigit && Json.digitsValue major = 1 && !minor.isEmpty
          && minor.all Json.isDigit
      | _ => false
    else name.length > 1
  | [] => false

/-- Passes over the lines before a document; whether there are any. -/
def directives : Nat → Scanner Bool
  | 0 => return false
  | steps + 1 => do
    skipGap
    let s ← get
    if s.column = 0 && s.rest.head? = some '%' then
      require (isDirective (← takeWhile (· ≠ '\n')))
      let _ ← directives steps
      return true
    return false

/-- Passes over marks after a document. -/
def endMarks : Nat → Scanner Unit
  | 0 => return
  | steps + 1 => do
    skipGap
    if ← atLineOf [endMark] then
      skip 3
      endMarks steps

/-- Reads a text with at most one document. -/
def document : Scanner Value := do
  if (← peek) = some (Char.ofNat 0xfeff) then modify fun s => { s with rest := s.rest.drop 1 }
  let steps := 4 * (← get).rest.length + 8
  let hasDirectives ← directives steps
  if ← atLineOf [beginMark] then skip 3
  else require (!hasDirectives && !(← atDocumentMark))
  let v ← ((← node (-1) false steps).value? : Option Value)
  endMarks steps
  require (← get).rest.isEmpty
  return v

end Scanner

/-- Whether a character may stand in a text. -/
def isPlainCharacter (c : Char) : Bool :=
  let n := c.toNat
  n = 0x09 || n = 0x0a || n = 0x0d || (0x20 ≤ n && n ≤ 0x7e) || n = 0x85 || (0xa0 ≤ n && n ≤ 0xd7ff)
    || (0xe000 ≤ n && n ≤ 0xfffd) || 0x10000 ≤ n

/-- The value of a text. -/
def parse? (cs : List Char) : Option Value :=
  if cs.all isPlainCharacter then
    let rest := cs.map fun c => if c = '\r' || c = Char.ofNat 0x85 then '\n' else c
    (Scanner.document { rest }).map (·.1)
  else none

end Gazetteer.Yaml
