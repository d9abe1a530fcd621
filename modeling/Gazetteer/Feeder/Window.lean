import Gazetteer.Fault

/-!
# Feeder/Window — the lexemes that lie ahead, as a feeder sees them

A window gives its lexemes by number. `get` takes numbers from zero up; `item` takes negative ones
too, which count from the end.
-/

namespace Gazetteer

/-- The lexemes that lie ahead, the next one first. -/
structure Window where
  lexemes : List String
deriving Repr, DecidableEq, Inhabited

namespace Window

/-- How many lexemes lie ahead. -/
def size (w : Window) : Nat := w.lexemes.length

/-- The lexeme with a number. -/
def get (w : Window) (index : Int) : Except Fault String :=
  if index < 0 then .error (.lexemeOutOfRange index w.size)
  else
    match w.lexemes[index.toNat]? with
    | some lexeme => .ok lexeme
    | none => .error (.lexemeOutOfRange index w.size)

/-- The lexeme with a number, which counts from the end if it is negative. -/
def item (w : Window) (index : Int) : Except Fault String :=
  let position := if index < 0 then index + w.size else index
  if position < 0 then .error .windowIndex
  else
    match w.lexemes[position.toNat]? with
    | some lexeme => .ok lexeme
    | none => .error .windowIndex

/-- How a window shows itself. -/
def shown (w : Window) : String :=
  "<SequenceLexemeWindow(" ++ (Value.array (w.lexemes.map .string)).quoted ++ ")>"

end Window

end Gazetteer
