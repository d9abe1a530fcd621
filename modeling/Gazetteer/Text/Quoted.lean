import Gazetteer.Text.Printable

/-!
# Text/Quoted — a text between quotation marks, for messages

Messages show a text between single quotation marks, or between double ones when it holds a single
and no double one. The mark in use and the backslash are escaped by a backslash, line breaks and
tabs by a letter, and every other character that is not printable by its code point in hexadecimal.
-/

namespace Gazetteer.Text

/-- The hexadecimal digits of a number, in lower case, filled up with zeros to a width. -/
def hexPadded (width n : Nat) : List Char :=
  let digits := Nat.toDigits 16 n
  List.replicate (width - digits.length) '0' ++ digits

/-- The mark that stands on both sides of a quoted text. -/
def quoteMark (cs : List Char) : Char :=
  if cs.contains '\'' && !cs.contains '"' then '"' else '\''

/-- A code point as an escape: two, four or eight hexadecimal digits, as few as it needs. -/
def codeEscape (n : Nat) : List Char :=
  if n < 0x100 then '\\' :: 'x' :: hexPadded 2 n
  else if n < 0x10000 then '\\' :: 'u' :: hexPadded 4 n
  else '\\' :: 'U' :: hexPadded 8 n

/-- A character of a quoted text, given the mark that surrounds it and the characters that are
shown as they are. -/
def quoteChar (shown : Char → Bool) (mark c : Char) : List Char :=
  if c = mark || c = '\\' then ['\\', c]
  else if c = '\n' then ['\\', 'n']
  else if c = '\r' then ['\\', 'r']
  else if c = '\t' then ['\\', 't']
  else if shown c then [c]
  else codeEscape c.toNat

/-- A text between quotation marks; the characters outside `shown` are written as escapes. -/
def quoteWith (shown : Char → Bool) (cs : List Char) : List Char :=
  let mark := quoteMark cs
  mark :: cs.flatMap (quoteChar shown mark) ++ [mark]

/-- A text between quotation marks. -/
def quote (s : String) : String := String.ofList (quoteWith isPrintable s.toList)

end Gazetteer.Text
