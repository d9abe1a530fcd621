import Gazetteer.Action
import Gazetteer.Entity

/-!
# Sparql/Rows — the rows of a query, and the records they stand for

A query yields rows one by one and may fail after some of them. `deliver` hands the records of the
rows to a listener, in order, up to the first bad point: a row whose first three columns are not all
bound, a record that the listener refuses, or the failure of the query.
-/

namespace Gazetteer

/-- What a query yields: rows, and the fault that ends them if it does not succeed. -/
structure Rows where
  rows : List Row
  failure : Option Fault := none
deriving Repr, Inhabited

/-- What takes in entity records; its state is kept when it refuses one. -/
abbrev Listener (ℓ : Type) := Entity → Action ℓ Unit

namespace Row

/-- The values of a row, in the order of its columns. -/
def values (row : Row) : List Value := row.map (·.2)

/-- The row with cells put in one by one; a repeated column keeps its place and its last value. -/
def ofCells (cells : List (Value × Value)) : Row :=
  cells.foldl (fun row cell => Value.put cell.1 cell.2 row) []

/-- The record in the first three columns, if all three are bound. -/
def entity? (row : Row) : Option Entity :=
  match (values row).take 3 with
  | [.null, _, _] | [_, .null, _] | [_, _, .null] => none
  | [inst, cls, label] => some ⟨inst, cls, label⟩
  | _ => none

end Row

namespace Rows

/-- All rows, if the query succeeds. -/
def all (result : Rows) : Except Fault (List Row) :=
  match result.failure with
  | some fault => .error fault
  | none => .ok result.rows

/-- Hands the records of the rows from number `index` on to a listener, and counts them. -/
def deliverFrom {ℓ : Type} (listener : Listener ℓ) (failure : Option Fault) :
    Nat → List Row → Action ℓ Nat
  | index, [] =>
    match failure with
    | some fault => throw fault
    | none => pure index
  | index, row :: rest =>
    match Row.entity? row with
    | none => throw (.incompleteRow index row)
    | some e => do
      listener e
      deliverFrom listener failure (index + 1) rest

/-- Hands the records of the rows to a listener, and counts them. -/
def deliver {ℓ : Type} (result : Rows) (listener : Listener ℓ) : Action ℓ Nat :=
  deliverFrom listener result.failure 0 result.rows

end Rows

end Gazetteer
