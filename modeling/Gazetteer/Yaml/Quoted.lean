import Gazetteer.Json.Reader
import Gazetteer.Yaml.Source

/-!
# Yaml/Quoted — scalars between quotation marks

A scalar between quotation marks may go over several lines. Blanks around a line break are left out,
and the line breaks themselves are folded. Between double quotation marks a backslash begins an
escape; between single ones a doubled mark stands for one.
-/

namespace Gazetteer.Yaml.Scanner

/-- The characters that escapes of one letter stand for, by code point. -/
def escapes : List (Char × Nat) :=
  [('0', 0x00), ('a', 0x07), ('b', 0x08), ('t', 0x09), ('\t', 0x09), ('n', 0x0a), ('v', 0x0b),
    ('f', 0x0c), ('r', 0x0d), ('e', 0x1b), (' ', 0x20), ('"', 0x22), ('\\', 0x5c), ('/', 0x2f),
    ('N', 0x85), ('_', 0xa0), ('L', 0x2028), ('P', 0x2029)]

/-- How many hexadecimal digits follow the letter of an escape. -/
def escapeDigits : Char → Option Nat
  | 'x' => some 2
  | 'u' => some 4
  | 'U' => some 8
  | _ => none

/-- The character of an escape and the escape's length, given what follows the backslash. -/
def escaped? : List Char → Option (Char × Nat)
  | [] => none
  | c :: rest =>
    match escapeDigits c with
    | some n =>
      let digits := rest.take n
      if digits.length = n then
        (digits.foldlM (fun v d => (Json.hexDigit? d).map fun x => 16 * v + x) 0).map fun v =>
          (Char.ofNat v, n + 1)
      else none
    | none => ((escapes.find? fun e => e.1 == c).map (·.2)).map fun v => (Char.ofNat v, 1)

/-- Whether a character is a space or a tab. -/
def isSpace (c : Char) : Bool := c = ' ' || c = '\t'

/-- Passes over blank lines inside quotation marks and counts them; no document may end there. -/
def skipBreaks : Nat → Scanner Nat
  | 0 => failure
  | steps + 1 => do
    require (!(← atDocumentMark))
    let _ ← takeWhile isSpace
    if (← peek) = some '\n' then
      skip 1
      return (← skipBreaks steps) + 1
    return 0

/-- What blanks inside quotation marks stand for. -/
def quotedBlanks : Scanner (List Char) := do
  let spaces ← takeWhile isSpace
  if (← peek) = some '\n' then
    skip 1
    return folded ((← skipBreaks ((← get).rest.length + 1)) + 1)
  return spaces

/-- Reads what stands between quotation marks, with the mark at the end. -/
def quotedRest (mark : Char) : Nat → Scanner (List Char)
  | 0 => failure
  | steps + 1 => do
    match (← get).rest with
    | [] => failure
    | c :: rest =>
      if c = mark then
        skip 1
        if mark = '\'' && (← peek) = some '\'' then
          skip 1
          return '\'' :: (← quotedRest mark steps)
        return []
      else if isBlank c then
        return (← quotedBlanks) ++ (← quotedRest mark steps)
      else if mark = '"' && c = '\\' then
        if rest.head? = some '\n' then
          skip 2
          let breaks ← skipBreaks (rest.length + 1)
          return List.replicate breaks '\n' ++ (← quotedRest mark steps)
        match escaped? rest with
        | none => failure
        | some (value, size) =>
          skip (size + 1)
          return value :: (← quotedRest mark steps)
      else
        skip 1
        return c :: (← quotedRest mark steps)

/-- Reads a scalar between quotation marks. -/
def quoted (mark : Char) : Scanner String := do
  skip 1
  return String.ofList (← quotedRest mark ((← get).rest.length + 1))

end Gazetteer.Yaml.Scanner
