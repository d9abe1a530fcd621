import Gazetteer.Sparql.Rows
import Gazetteer.Value.Access

/-!
# Sparql/Results — rows read from a JSON document of query results

A result document has its columns in `head.vars` and its rows in `results.bindings`; each row is an
object with an object for every bound column, whose `value` is the value. The document is not
validated: values of another shape are gone through as far as that is possible, a text by its
characters and an object by its keys, and are a fault only where they cannot be.
-/

namespace Gazetteer.Sparql

/-- Whether a binding holds a column. -/
def holds (binding column : Value) : Except Fault Bool :=
  match binding with
  | .object members =>
    match column with
    | .string name => .ok (Value.find? name members).isSome
    | column =>
      if column.isKey then .ok false else .error (.shape (.notHashable column.typeName))
  | .array items => .ok (items.any fun item => item.same column)
  | .string s =>
    match column with
    | .string name => .ok (Text.occursIn name.toList s.toList)
    | column => .error (.shape (.substringOperand column.typeName))
  | v => .error (.shape (.notContainer v.typeName))

/-- The value of one column in a binding; null if it is not bound. -/
def cell (binding column : Value) : Except Fault Value :=
  match holds binding column with
  | .error fault => .error fault
  | .ok false => .ok .null
  | .ok true =>
    match binding.under column with
    | .error fault => .error fault
    | .ok bound => bound.under (.string "value")

/-- The row of a binding, after the columns already read. -/
def rowFrom (binding : Value) (row : Row) : List Value → Except Fault Row
  | [] => .ok row
  | column :: rest =>
    match cell binding column with
    | .error fault => .error fault
    | .ok v =>
      if column.isKey then rowFrom binding (Value.put column v row) rest
      else .error (.shape (.notHashable column.typeName))

/-- The row of a binding. -/
def rowOf (columns binding : Value) : Except Fault Row :=
  match columns.items with
  | .error fault => .error fault
  | .ok columns => rowFrom binding [] columns

/-- The rows of bindings, in order. -/
def rowsFrom (columns : Value) : List Value → Except Fault (List Row)
  | [] => .ok []
  | binding :: rest =>
    match rowOf columns binding with
    | .error fault => .error fault
    | .ok row =>
      match rowsFrom columns rest with
      | .error fault => .error fault
      | .ok rows => .ok (row :: rows)

/-- The rows of a result document. -/
def rowsOf (document : Value) : Except Fault (List Row) := do
  let head ← Value.member "head" (.object []) document
  let columns ← Value.member "vars" (.array []) head
  let results ← Value.member "results" (.object []) document
  let bindings ← Value.member "bindings" (.array []) results
  let bindings ← bindings.items
  rowsFrom columns bindings

end Gazetteer.Sparql
