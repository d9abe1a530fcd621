import Gazetteer.Location.Host
import Gazetteer.Text.Utf8

/-!
# Location/Url — the parts of a URL, and escapes in it

A URL is read leniently: blanks and control characters in front are passed over, tabs and line
breaks are dropped, and a text without a scheme is a bare path. An escape is a percent sign with two
hexadecimal digits, and stands for a byte of the UTF-8 form of the text.
-/

namespace Gazetteer.Location

/-- A URL without its query and fragment. The scheme is in lower case, and empty if there is
none. -/
structure Url where
  scheme : List Char
  host : List Char
  path : List Char
deriving Repr, DecidableEq

/-- Whether a character is a letter of ASCII. -/
def isLetter (c : Char) : Bool := 'a' ≤ c && c ≤ 'z' || 'A' ≤ c && c ≤ 'Z'

/-- Whether a character can stand in a scheme. -/
def isSchemeChar (c : Char) : Bool :=
  isLetter c || isDecimal c || c = '+' || c = '-' || c = '.'

/-- The lower case of a letter of ASCII. -/
def lowerLetter (c : Char) : Char :=
  if 'A' ≤ c && c ≤ 'Z' then Char.ofNat (c.toNat + 32) else c

/-- The scheme in front of a text, and the rest; no scheme if the text does not begin with one. -/
def splitScheme (cs : List Char) : List Char × List Char :=
  let scheme := Text.beforeFirst ':' cs
  if cs.contains ':' && scheme.head?.any isLetter && scheme.all isSchemeChar then
    (scheme.map lowerLetter, Text.afterFirst ':' cs)
  else ([], cs)

/-- The characters that a URL means: no blanks or control characters in front, and no tabs or line
breaks. -/
def meantChars (cs : List Char) : List Char :=
  (cs.dropWhile fun c => c.toNat ≤ 0x20).filter fun c => c ≠ '\t' && c ≠ '\r' && c ≠ '\n'

/-- Reads a URL. -/
def Url.parse (cs : List Char) : Except HostFlaw Url :=
  let (scheme, rest) := splitScheme (meantChars cs)
  let isEnd : Char → Bool := fun c => c = '/' || c = '?' || c = '#'
  let (host, rest) :=
    match rest with
    | '/' :: '/' :: r => (r.takeWhile (!isEnd ·), r.dropWhile (!isEnd ·))
    | r => ([], r)
  match hostFlaw host with
  | some flaw => .error flaw
  | none => .ok ⟨scheme, host, Text.beforeFirst '?' (Text.beforeFirst '#' rest)⟩

/-- The value of a hexadecimal digit. -/
def hexValue (c : Char) : Nat :=
  if isDecimal c then c.toNat - '0'.toNat
  else if 'a' ≤ c && c ≤ 'f' then c.toNat - 'a'.toNat + 10
  else c.toNat - 'A'.toNat + 10

/-- The bytes of an ASCII text in which escapes stand for bytes. -/
def unescapeBytes : List Char → List UInt8
  | '%' :: a :: b :: rest =>
    if isHex a && isHex b then UInt8.ofNat (16 * hexValue a + hexValue b) :: unescapeBytes rest
    else 0x25 :: unescapeBytes (a :: b :: rest)
  | c :: rest => UInt8.ofNat c.toNat :: unescapeBytes rest
  | [] => []

/-- Cuts a text into stretches of ASCII characters and the other characters between them. -/
def unescapePieces (ascii : List Char) : List Char → List Char
  | [] => Text.decodeLossy (unescapeBytes ascii.reverse)
  | c :: rest =>
    if c.toNat < 0x80 then unescapePieces (c :: ascii) rest
    else Text.decodeLossy (unescapeBytes ascii.reverse) ++ c :: unescapePieces [] rest

/-- The text with its escapes replaced; bytes that are no UTF-8 become `U+FFFD`. -/
def unescape (cs : List Char) : List Char := unescapePieces [] cs

/-- Whether a byte stands for itself in the path of a URL: a letter, a digit or one of `_.-~/`. -/
def isPlainByte (b : UInt8) : Bool :=
  let c := Char.ofNat b.toNat
  b < 0x80 && (isLetter c || isDecimal c || c = '_' || c = '.' || c = '-' || c = '~' || c = '/')

/-- A hexadecimal digit in upper case. -/
def upperHex (n : Nat) : Char :=
  if n < 10 then Char.ofNat ('0'.toNat + n) else Char.ofNat ('A'.toNat + (n - 10))

/-- The text with every byte but the plain ones written as an escape. -/
def escape (cs : List Char) : List Char :=
  (Text.encode cs).flatMap fun b =>
    if isPlainByte b then [Char.ofNat b.toNat]
    else ['%', upperHex (b.toNat / 16), upperHex (b.toNat % 16)]

end Gazetteer.Location
