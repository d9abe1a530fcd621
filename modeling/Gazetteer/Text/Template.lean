import Gazetteer.Text.Quoted

/-!
# Text/Template — templates with one argument

A template is a text in which a percent sign opens a directive: flags, a width, a precision and a
conversion letter. `fill` puts one text in the place of the one directive that takes an argument.
The directives that print a text are `s`, `r` (between quotation marks), `a` (the same in ASCII) and
`c` (a single character); two percent signs with nothing between them stand for one. Everything else
is refused, for the reason that `Template.Flaw` names.
-/

namespace Gazetteer.Text

namespace Template

/-- Why a template does not accept its argument. -/
inductive Flaw where
  /-- A directive names a key. -/
  | mappingRequired
  /-- A width or precision is to be taken from the argument. -/
  | integerWanted
  | widthTooBig
  | precisionTooBig
  /-- The template ends inside a directive. -/
  | incomplete
  | unsupported (conversion : Char) (index : Nat)
  /-- A second directive takes an argument. -/
  | notEnoughArguments
  /-- No directive takes the argument. -/
  | notAllConverted
  /-- A decimal conversion. -/
  | numberRequired (conversion : Char)
  /-- An octal or hexadecimal conversion. -/
  | integerRequired (conversion : Char)
  /-- A floating-point conversion. -/
  | realRequired
  /-- A character conversion of a text that is not a single character. -/
  | characterRequired
deriving Repr, DecidableEq

namespace Flaw

/-- Whether the flaw lies in the kind of argument, and not in the template's own text. -/
def concernsArgument : Flaw → Bool
  | widthTooBig | precisionTooBig | incomplete | unsupported .. => false
  | _ => true

/-- The text of a flaw. -/
def message : Flaw → String
  | mappingRequired => "format requires a mapping"
  | integerWanted => "* wants int"
  | widthTooBig => "width too big"
  | precisionTooBig => "precision too big"
  | incomplete => "incomplete format"
  | unsupported c index =>
    let shown := if 31 ≤ c.toNat && c.toNat ≤ 126 then c else '?'
    let code := String.ofList (Nat.toDigits 16 c.toNat)
    "unsupported format character '" ++ shown.toString ++ "' (0x" ++ code ++ ") at index "
      ++ toString index
  | notEnoughArguments => "not enough arguments for format string"
  | notAllConverted => "not all arguments converted during string formatting"
  | numberRequired c => "%" ++ c.toString ++ " format: a real number is required, not str"
  | integerRequired c => "%" ++ c.toString ++ " format: an integer is required, not str"
  | realRequired => "must be real number, not str"
  | characterRequired => "%c requires int or char"

end Flaw

/-- What a directive says besides its conversion letter. -/
structure Directive where
  /-- Fill up on the right instead of the left. -/
  leftAligned : Bool := false
  width : Nat := 0
  /-- How many characters of the argument are taken. -/
  precision : Option Nat := none
deriving Repr, DecidableEq

/-- How far the reading of a directive has come. -/
inductive Phase where
  | text
  | opened
  | flags (d : Directive)
  | width (d : Directive)
  | point (d : Directive)
  | precision (d : Directive)
  | modified (d : Directive)
deriving Repr, DecidableEq

/-- What one character of a directive leads to. -/
inductive Step where
  | go (phase : Phase)
  | convert (d : Directive)
  | fail (flaw : Flaw)
deriving Repr, DecidableEq

/-- The value of a decimal digit of ASCII. -/
def digit? (c : Char) : Option Nat :=
  if '0' ≤ c && c ≤ '9' then some (c.toNat - '0'.toNat) else none

/-- The argument is asked for, with nothing left to take it from or by a directive that wants a
number. -/
def starFlaw (used : Bool) : Flaw := if used then .notEnoughArguments else .integerWanted

/-- After the precision: a size letter, which says nothing, or the conversion. -/
def afterPrecision (d : Directive) (c : Char) : Step :=
  if c = 'h' || c = 'l' || c = 'L' then .go (.modified d) else .convert d

/-- After the width: a precision, or what follows it. -/
def afterWidth (d : Directive) (c : Char) : Step :=
  if c = '.' then .go (.point { d with precision := some 0 }) else afterPrecision d c

/-- The largest width. -/
def widthLimit : Nat := 0x7fffffffffffffff

/-- The largest precision. -/
def precisionLimit : Nat := 0x7fffffff

/-- A flag, or what follows the flags: a width or what comes after it. -/
def amongFlags (used : Bool) (d : Directive) (c : Char) : Step :=
  if c = '-' then .go (.flags { d with leftAligned := true })
  else if c = '+' || c = ' ' || c = '#' || c = '0' then .go (.flags d)
  else if c = '*' then .fail (starFlaw used)
  else match digit? c with
    | some n => .go (.width { d with width := n })
    | none => afterWidth d c

/-- One character of a directive. -/
def next (used : Bool) : Phase → Char → Step
  | .text, _ => .go .text
  | .opened, c => if c = '(' then .fail .mappingRequired else amongFlags used {} c
  | .flags d, c => amongFlags used d c
  | .width d, c =>
    match digit? c with
    | some n =>
      if d.width > (widthLimit - n) / 10 then .fail .widthTooBig
      else .go (.width { d with width := d.width * 10 + n })
    | none => afterWidth d c
  | .point d, c =>
    if c = '*' then .fail (starFlaw used)
    else match digit? c with
      | some n => .go (.precision { d with precision := some n })
      | none => afterPrecision d c
  | .precision d, c =>
    match digit? c with
    | some n =>
      if d.precision.getD 0 > (precisionLimit - n) / 10 then .fail .precisionTooBig
      else .go (.precision { d with precision := some (d.precision.getD 0 * 10 + n) })
    | none => afterPrecision d c
  | .modified d, _ => .convert d

/-- A text filled up with spaces to the width of a directive. -/
def Directive.pad (d : Directive) (cs : List Char) : List Char :=
  let gap := List.replicate (d.width - cs.length) ' '
  if d.leftAligned then cs ++ gap else gap ++ cs

/-- The text of a directive that prints texts, cut to its precision and filled up to its width. -/
def Directive.show (d : Directive) (cs : List Char) : List Char :=
  d.pad (match d.precision with
    | some p => cs.take p
    | none => cs)

/-- What a conversion other than the percent sign prints for the argument. -/
def convert (d : Directive) (conversion : Char) (index : Nat) (arg : List Char) :
    Except Flaw (List Char) :=
  match conversion with
  | 's' => .ok (d.show arg)
  | 'r' => .ok (d.show (quoteWith isPrintable arg))
  | 'a' => .ok (d.show (quoteWith (fun c => c.toNat < 0x80 && isPrintable c) arg))
  | 'c' => if arg.length = 1 then .ok (d.pad arg) else .error .characterRequired
  | 'd' | 'i' | 'u' => .error (.numberRequired conversion)
  | 'o' | 'x' | 'X' => .error (.integerRequired conversion)
  | 'e' | 'E' | 'f' | 'F' | 'g' | 'G' => .error .realRequired
  | _ => .error (.unsupported conversion index)

/-- The rest of a template from an index on; `used` tells whether the argument has been taken. -/
def fillFrom (arg : List Char) : Nat → Phase → Bool → List Char → Except Flaw (List Char)
  | _, .text, used, [] => if used then .ok [] else .error .notAllConverted
  | _, _, _, [] => .error .incomplete
  | index, .text, used, c :: rest =>
    if c = '%' then fillFrom arg (index + 1) .opened used rest
    else (fillFrom arg (index + 1) .text used rest).map (c :: ·)
  | index, phase, used, c :: rest =>
    match next used phase c with
    | .fail flaw => .error flaw
    | .go phase => fillFrom arg (index + 1) phase used rest
    | .convert d =>
      if c = '%' && phase = .opened then (fillFrom arg (index + 1) .text used rest).map ('%' :: ·)
      else if used then .error .notEnoughArguments
      else
        match convert d c index arg with
        | .error flaw => .error flaw
        | .ok text => (fillFrom arg (index + 1) .text true rest).map (text ++ ·)

/-- The template with a text in the place of its one directive. -/
def fill (template arg : List Char) : Except Flaw (List Char) := fillFrom arg 0 .text false template

end Template

end Gazetteer.Text
