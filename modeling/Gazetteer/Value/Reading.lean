import Gazetteer.Entity
import Gazetteer.Fault

/-!
# Value/Reading — data read as values of other types

A type is `Readable` if its values can be read from data. A `Reading` goes through the members of an
object: a member that is needed, one with a default, or one that may be missing or null.
-/

namespace Gazetteer

/-- The members of an object. -/
abbrev Members := List (String × Value)

/-- Types whose values are read from data. -/
class Readable (α : Type) where
  read : Value → Except Fault α

/-- What is read from the members of an object. -/
abbrev Reading := ReaderT Members (Except Fault)

namespace Value

/-- The members of an object; null has none. -/
def members : Value → Except Fault Members
  | .object members => .ok members
  | .null => .ok []
  | v => .error (.shape (.noOperation v.typeName "get"))

end Value

namespace Reading

variable {α : Type} [Readable α]

/-- A member as it stands. -/
def member? (name : String) : Reading (Option Value) := return Value.find? name (← read)

/-- A member that has to be there. -/
def need (name : String) : Reading α := do
  match ← member? name with
  | some v => Readable.read v
  | none => throw (.shape (.missingKey name))

/-- A member, or a default if it is missing. -/
def given (name : String) (default : α) : Reading α := do
  match ← member? name with
  | some v => Readable.read v
  | none => return default

/-- A member that may be missing or null. -/
def maybe (name : String) : Reading (Option α) := do
  match ← member? name with
  | none | some .null => return none
  | some v => return some (← Readable.read v)

/-- The result of a reading on the members of a value. -/
def within {α : Type} (reading : Reading α) (v : Value) : Except Fault α := do
  reading (← v.members)

end Reading

instance : Readable Value := ⟨.ok⟩

instance : Readable Bool := ⟨fun v => .ok v.isGiven⟩

instance : Readable String where
  read
    | .string s => .ok s
    | v => .error (.shape (.notText v.typeName))

instance : Readable Int where
  read
    | .int n => .ok n
    | .bool b => .ok (Value.ofBool b)
    | v => .error (.shape (.notConvertible v.typeName))

instance : Readable Nat where
  read
    | .int n => .ok n.toNat
    | v => .error (.shape (.notConvertible v.typeName))

instance : Readable Path := ⟨fun v => return Path.ofString (← Readable.read v)⟩

instance {α : Type} [Readable α] : Readable (Option α) where
  read
    | .null => .ok none
    | v => return some (← Readable.read v)

instance {α : Type} [Readable α] : Readable (List α) where
  read
    | .array items => items.mapM Readable.read
    | .string s => s.toList.mapM fun c => Readable.read (.string c.toString)
    | v => .error (.shape (.notIterable v.typeName))

instance {α β : Type} [Readable α] [Readable β] : Readable (α × β) where
  read
    | .array [x, y] => return (← Readable.read x, ← Readable.read y)
    | v => .error (.shape (.notUnpackable v.typeName))

instance : Readable Entity where
  read
    | .array [inst, cls, label] => .ok ⟨inst, cls, label⟩
    | v => .error (.shape (.notUnpackable v.typeName))

end Gazetteer
