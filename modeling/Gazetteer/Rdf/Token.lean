import Gazetteer.Json.Reader
import Gazetteer.Text.Split
import Gazetteer.Text.Word

/-!
# Rdf/Token — the tokens of Turtle and of queries

Turtle and SPARQL share their tokens: IRIs between angle brackets, prefixed names, variables,
strings, language tags, words and marks. Blanks and comments stand between tokens and are dropped.
-/

namespace Gazetteer.Rdf

/-- A token. -/
inductive Token where
  | iri (text : String)
  | name (space rest : String)
  | var (name : String)
  | text (s : String)
  /-- What follows an at sign: a language, or the word of a directive. -/
  | tag (word : String)
  | word (s : String)
  | mark (c : Char)
  /-- A mark of two characters. -/
  | operator (s : String)
deriving Repr, DecidableEq, Inhabited

namespace Token

/-- Whether a character can stand in an IRI between angle brackets. -/
def isIriChar (c : Char) : Bool :=
  c.toNat > 0x20 && !(['<', '>', '"', '{', '}', '|', '^', '\\', '`'].contains c)

/-- Whether a character can stand in a name or a word; a name does not end in a dot. -/
def isNameChar (c : Char) : Bool :=
  Text.isWord c || c = '-' || c = ':' || c = '.' || c = '%'

/-- The marks that are made of two characters. -/
def longMarks : List (Char × Char) :=
  [('^', '^'), ('&', '&'), ('|', '|'), ('!', '='), ('<', '='), ('>', '=')]

/-- The marks that are made of one character. -/
def marks : List Char :=
  ['{', '}', '(', ')', '[', ']', '.', ';', ',', '=', '!', '*', '<', '>', '+', '/', '|', '^', '-']

/-- The value of hexadecimal digits. -/
def hexValue? (digits : List Char) : Option Nat :=
  digits.foldlM (fun n c => (Json.hexDigit? c).map fun d => 16 * n + d) 0

/-- The character that an escape stands for, after its backslash, with what follows. -/
def readEscape : List Char → Option (Char × List Char)
  | 'u' :: rest => (hexValue? (rest.take 4)).bind fun n =>
      if rest.length < 4 then none else some (Char.ofNat n, rest.drop 4)
  | 'U' :: rest => (hexValue? (rest.take 8)).bind fun n =>
      if rest.length < 8 then none else some (Char.ofNat n, rest.drop 8)
  | '\'' :: rest => some ('\'', rest)
  | '/' :: _ => none
  | c :: rest => (Json.escape? c).map fun e => (e, rest)
  | [] => none

/-- Reads a string after its opening mark, which is three quotation marks if it is `long`. A short
string ends with its line. -/
def readText (quote : Char) (long : Bool) : Nat → List Char → Option (List Char × List Char)
  | 0, _ => none
  | _ + 1, [] => none
  | fuel + 1, c :: rest =>
    if c = '\\' then
      match readEscape rest with
      | none => none
      | some (e, rest) => (readText quote long fuel rest).map fun (cs, r) => (e :: cs, r)
    else if c = quote then
      if !long then some ([], rest)
      else
        match rest with
        | a :: b :: r =>
          if a = quote && b = quote then some ([], r)
          else (readText quote long fuel rest).map fun (cs, r) => (c :: cs, r)
        | _ => none
    else if !long && (c = '\n' || c = '\r') then none
    else (readText quote long fuel rest).map fun (cs, r) => (c :: cs, r)

/-- The string that begins with a quotation mark, given what follows the mark. -/
def textAfter (quote : Char) (rest : List Char) : Option (Token × List Char) :=
  let found :=
    match rest with
    | a :: b :: r =>
      if a = quote && b = quote then readText quote true (r.length + 1) r
      else readText quote false (rest.length + 1) rest
    | r => readText quote false (r.length + 1) r
  found.map fun (cs, r) => (.text (String.ofList cs), r)

/-- The name or the word that some characters begin with. -/
def nameOrWord (cs : List Char) : Token × List Char :=
  let run := cs.takeWhile isNameChar
  let body := (run.reverse.dropWhile (· = '.')).reverse
  let token :=
    if body.contains ':' then
      Token.name (String.ofList (Text.beforeFirst ':' body))
        (String.ofList (Text.afterFirst ':' body))
    else .word (String.ofList body)
  (token, cs.drop body.length)

/-- The mark that a character begins, with what follows. -/
def markAt (c : Char) (rest : List Char) : Option (Token × List Char) :=
  match rest with
  | d :: r =>
    if longMarks.contains (c, d) then some (.operator (String.ofList [c, d]), r)
    else if marks.contains c then some (.mark c, rest)
    else none
  | [] => if marks.contains c then some (.mark c, rest) else none

/-- The token that a character begins, with what follows. -/
def first (c : Char) (rest : List Char) : Option (Token × List Char) :=
  if c = '<' then
    match rest.dropWhile isIriChar with
    | '>' :: r => some (.iri (String.ofList (rest.takeWhile isIriChar)), r)
    | _ => markAt c rest
  else if c = '"' || c = '\'' then textAfter c rest
  else if c = '?' || c = '$' then
    let name := rest.takeWhile Text.isWord
    if name.isEmpty then none else some (.var (String.ofList name), rest.drop name.length)
  else if c = '@' then
    let word := rest.takeWhile fun c => Text.isWord c || c = '-'
    if word.isEmpty then none else some (.tag (String.ofList word), rest.drop word.length)
  else if Text.isWord c || c = ':' then some (nameOrWord (c :: rest))
  else markAt c rest

/-- Whether a character stands between tokens. -/
def isGap (c : Char) : Bool := c = ' ' || c = '\t' || c = '\n' || c = '\r'

/-- Reads tokens to the end; every token takes at least one character, so that a number of steps
above the number of characters is enough. -/
def scanFor : Nat → List Char → Option (List Token)
  | _, [] => some []
  | 0, _ :: _ => none
  | steps + 1, c :: rest =>
    if isGap c then scanFor steps rest
    else if c = '#' then scanFor steps (rest.dropWhile (· ≠ '\n'))
    else
      match first c rest with
      | none => none
      | some (token, rest) => (scanFor steps rest).map (token :: ·)

/-- The tokens of a text; none if something in it is no token. -/
def scan (cs : List Char) : Option (List Token) := scanFor cs.length cs

/-- Whether a token is a word, in any case. -/
def isWordOf (word : String) : Token → Bool
  | .word s => String.ofList (s.toList.map Char.toUpper) == word
  | _ => false

end Token

end Gazetteer.Rdf
