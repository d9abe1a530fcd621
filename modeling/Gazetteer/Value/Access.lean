import Gazetteer.Fault

/-!
# Value/Access — going through values of unknown shape

Data from outside is used as it is found: members are asked of what should be an object, items of
what should be an array. A text is gone through by its characters and an object by its keys; what
has no parts at all is a fault that names its type.
-/

namespace Gazetteer.Value

/-- A member of an object, or another value if it is not there. -/
def member (name : String) (otherwise : Value) : Value → Except Fault Value
  | .object members => .ok ((find? name members).getD otherwise)
  | v => .error (.shape (.noOperation v.typeName "get"))

/-- What is found when going through a value: items, characters or keys. -/
def items : Value → Except Fault (List Value)
  | .array items => .ok items
  | .string s => .ok (s.toList.map fun c => .string c.toString)
  | .object members => .ok (members.map fun m => .string m.1)
  | v => .error (.shape (.notIterable v.typeName))

/-- The item at an index, counted from the end if it is negative. -/
def itemAt (items : List Value) (index : Int) : Except Fault Value :=
  let position := if index < 0 then index + items.length else index
  if position < 0 then .error (.shape .indexOutOfRange)
  else
    match items[position.toNat]? with
    | some v => .ok v
    | none => .error (.shape .indexOutOfRange)

/-- What a value holds under a key. -/
def under (v key : Value) : Except Fault Value :=
  match v with
  | .object members =>
    match key with
    | .string name =>
      match Value.find? name members with
      | some v => .ok v
      | none => .error (.shape (.missingKey name))
    | key => .error (.shape (.missingKey key.shown))
  | .array items =>
    match key with
    | .int n => itemAt items n
    | .bool b => itemAt items (Value.ofBool b)
    | key => .error (.shape (.arrayIndex key.typeName))
  | .string s =>
    let characters := s.toList.map fun c => Value.string c.toString
    match key with
    | .int n => itemAt characters n
    | .bool b => itemAt characters (Value.ofBool b)
    | key => .error (.shape (.textIndex key.typeName))
  | v => .error (.shape (.notSubscriptable v.typeName))

end Gazetteer.Value
