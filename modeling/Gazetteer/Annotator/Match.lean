import Gazetteer.Dictionary.Basic

/-!
# Annotator/Match — the longest alias at a place of a text

At a place of a text the longest stretch of lexemes counts that is an alias of the dictionary for
all documents or of the one for this document. All its records are taken, those of the first
dictionary before those of the second.
-/

namespace Gazetteer

/-- Tries stretches of at most `n` lexemes, the longest first. -/
def findMatch (records : String → List Entity) (lexemes : List Lexeme) :
    Nat → Option (Nat × List Entity)
  | 0 => none
  | n + 1 =>
    let found := records (Alias.keyOf (lexemes.take (n + 1)))
    if found.isEmpty then findMatch records lexemes n else some (n + 1, found)

/-- The longest stretch at the beginning of some lexemes that is an alias, and its records. -/
def matchAt (globals locals : Dictionary) (lexemes : List Lexeme) : Option (Nat × List Entity) :=
  findMatch (fun key => globals.lookupKey key ++ locals.lookupKey key) lexemes
    (min (max globals.longest locals.longest) lexemes.length)

/-- The lexemes that a feeder sees ahead: as many as the lookahead says. A lookahead below zero
leaves out lexemes at the end of the text instead. -/
def windowOf (total : Nat) (lookahead : Int) (rest : List Lexeme) : List String :=
  let position : Int := (total : Int) - rest.length
  let stop := position + lookahead
  let stop := if stop < 0 then max (stop + total) 0 else stop
  (rest.take (stop - position).toNat).map fun l => String.ofList l.text

end Gazetteer
