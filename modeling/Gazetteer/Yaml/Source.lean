import Gazetteer.Value.Basic

/-!
# Yaml/Source — going through a YAML text

A `Source` is what is left of a text and where its first character stands. Spaces, line breaks and
comments stand between the parts of a document; a tab does not.
-/

namespace Gazetteer.Yaml

/-- What is left to read. -/
structure Source where
  rest : List Char
  line : Nat := 0
  column : Nat := 0
  /-- How many characters stand before. -/
  passed : Nat := 0
  /-- Whether an entry may begin here: on its line there are only spaces and marks of entries. -/
  fresh : Bool := true
  /-- The values that aliases stand for. -/
  anchors : List (String × Value) := []
deriving Inhabited

namespace Source

/-- The source after its first character. -/
def next (s : Source) : Source :=
  match s.rest with
  | [] => s
  | '\n' :: rest =>
    { s with rest, line := s.line + 1, column := 0, passed := s.passed + 1, fresh := true }
  | c :: rest =>
    { s with
      rest, column := s.column + 1, passed := s.passed + 1, fresh := s.fresh && c == ' ' }

/-- The source after some characters. -/
def drop : Nat → Source → Source
  | 0, s => s
  | n + 1, s => drop n s.next

end Source

/-- What reads from a source; none if the text is malformed. -/
abbrev Scanner := StateT Source Option

namespace Scanner

/-- The next character. -/
def peek : Scanner (Option Char) := return (← get).rest.head?

/-- Passes over characters. -/
def skip (n : Nat) : Scanner Unit := modify (Source.drop n)

/-- Takes the characters that pass a test. -/
def takeWhile (test : Char → Bool) : Scanner (List Char) := do
  let found := (← get).rest.takeWhile test
  skip found.length
  return found

/-- Fails unless a condition holds. -/
def require (condition : Bool) : Scanner Unit := if condition then pure () else failure

/-- How many characters stand before the next part, inside a comment or outside. -/
def gapLength : Bool → List Char → Nat
  | _, '\n' :: rest => gapLength false rest + 1
  | true, _ :: rest => gapLength true rest + 1
  | false, '#' :: rest => gapLength true rest + 1
  | false, ' ' :: rest => gapLength false rest + 1
  | _, _ => 0

/-- Passes over what stands between two parts. -/
def skipGap : Scanner Unit := do
  skip (gapLength false (← get).rest)

/-- Whether a character is a space, a tab or a line break. -/
def isBlank (c : Char) : Bool := c = ' ' || c = '\t' || c = '\n'

/-- Whether a blank comes next, or nothing. -/
def endsWord (rest : List Char) : Bool := rest.head?.all isBlank

/-- Whether a character comes next as a mark that stands by itself. -/
def atMark (c : Char) : Scanner Bool := do
  match (← get).rest with
  | d :: rest => return d = c && endsWord rest
  | [] => return false

/-- Whether a line with one of some marks for documents comes next. -/
def atLineOf (marks : List (List Char)) : Scanner Bool := do
  let s ← get
  return s.column = 0 && marks.any fun m => m.isPrefixOf s.rest && endsWord (s.rest.drop 3)

/-- The mark before a document. -/
def beginMark : List Char := ['-', '-', '-']

/-- The mark after a document. -/
def endMark : List Char := ['.', '.', '.']

/-- Whether a document begins or ends here. -/
def atDocumentMark : Scanner Bool := atLineOf [beginMark, endMark]

/-- Whether nothing of the document is left. -/
def atEnd : Scanner Bool := do
  if (← get).rest.isEmpty then return true
  atDocumentMark

/-- The line breaks between two lines of a scalar: one counts as a space, and of more the first is
left out. -/
def folded (breaks : Nat) : List Char :=
  if breaks = 1 then [' '] else List.replicate (breaks - 1) '\n'

@[simp] theorem folded_one : folded 1 = [' '] := rfl

@[simp] theorem folded_zero : folded 0 = [] := rfl

end Scanner

end Gazetteer.Yaml
