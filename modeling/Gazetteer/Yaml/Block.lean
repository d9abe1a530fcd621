import Gazetteer.Json.Reader
import Gazetteer.Yaml.Source

/-!
# Yaml/Block — scalars that are blocks of lines

In a block scalar the lines are kept or folded. The block is indented as far as its first line, or
as far as the marks at its beginning say, and these also say what becomes of the line breaks at its
end.
-/

namespace Gazetteer.Yaml.Scanner

/-- What becomes of the line breaks at the end of a block. -/
inductive Chomping where
  | strip
  | clip
  | keep
deriving Repr, DecidableEq

/-- The marks at the beginning of a block: what becomes of the line breaks, and how far the block is
indented. -/
def blockMarks : Scanner (Chomping × Option Nat) := do
  let marks ← takeWhile fun c => c = '+' || c = '-' || Json.isDigit c
  let chomping := if marks.contains '-' then .strip else if marks.contains '+' then .keep else .clip
  let digits := marks.filter Json.isDigit
  require (digits.length ≤ 1 && marks.length ≤ digits.length + 1 && digits ≠ ['0'])
  require (endsWord (← get).rest && (← peek) ≠ some '\t')
  let _ ← takeWhile (· = ' ')
  if (← peek) = some '#' then
    let _ ← takeWhile (· ≠ '\n')
  require ((← peek).all (· = '\n'))
  skip 1
  return (chomping, if digits.isEmpty then none else some (Json.digitsValue digits))

/-- Passes over the spaces of an indentation, at most up to a column. -/
def skipIndent (column : Nat) : Scanner Unit := do
  let s ← get
  skip (min (column - s.column) (s.rest.takeWhile (· = ' ')).length)

/-- Passes over empty lines and counts them. -/
def emptyLines (column : Nat) : Nat → Scanner Nat
  | 0 => return 0
  | steps + 1 => do
    skipIndent column
    if (← peek) = some '\n' then
      skip 1
      return (← emptyLines column steps) + 1
    return 0

/-- The greatest number of spaces on the lines before the text of a block. -/
def leadingIndent (greatest column : Nat) : List Char → Nat
  | ' ' :: rest => leadingIndent (max greatest (column + 1)) (column + 1) rest
  | '\n' :: rest => leadingIndent greatest 0 rest
  | _ => greatest

/-- Reads the lines of a block: their text, whether a line break follows it, and how many empty
lines come after. -/
def blockLines (fold : Bool) (column : Nat) : Nat → Scanner (List Char × Bool × Nat)
  | 0 => failure
  | steps + 1 => do
    let line ← takeWhile (· ≠ '\n')
    let closed := (← peek).isSome
    skip 1
    let breaks ← emptyLines column ((← get).rest.length + 1)
    let s ← get
    if s.column = column && !s.rest.isEmpty then
      let (text, rest) ← blockLines fold column steps
      let indented (cs : List Char) : Bool := cs.head?.any fun c => c = ' ' || c = '\t'
      let between :=
        if fold && !indented line && !indented s.rest then folded (breaks + 1)
        else List.replicate (breaks + 1) '\n'
      return (line ++ between ++ text, rest)
    return (line, closed, breaks)

/-- Reads a block after the character that begins it; its lines are indented farther than
`parent`. -/
def block (fold : Bool) (parent : Int) : Scanner String := do
  let (chomping, more) ← blockMarks
  let least := (max (parent + 1) 1).toNat
  let source ← get
  let column := match more with
    | some n => least + n - 1
    | none => max least (leadingIndent 0 0 source.rest)
  let breaks ← emptyLines column (source.rest.length + 1)
  let s ← get
  let (text, closed, trailing) ←
    if s.column = column && !s.rest.isEmpty then blockLines fold column (s.rest.length + 1)
    else pure ([], false, breaks)
  let leading := if s.column = column && !s.rest.isEmpty then breaks else 0
  let ending := match chomping with
    | .strip => []
    | .clip => if closed then ['\n'] else []
    | .keep => List.replicate ((if closed then 1 else 0) + trailing) '\n'
  return String.ofList (List.replicate leading '\n' ++ text ++ ending)

end Gazetteer.Yaml.Scanner
