import Gazetteer.Entity
import Gazetteer.Location.Path

/-!
# Value/Writing — values of other types as data
-/

namespace Gazetteer

/-- Types whose values are written as data. -/
class Writable (α : Type) where
  value : α → Value

export Writable (value)

instance : Writable Value := ⟨id⟩
instance : Writable Unit := ⟨fun _ => .null⟩
instance : Writable Bool := ⟨.bool⟩
instance : Writable String := ⟨.string⟩
instance : Writable Int := ⟨.int⟩
instance : Writable Nat := ⟨fun n => .int n⟩
instance : Writable Path := ⟨fun p => .string p.text⟩
instance : Writable Entity := ⟨Entity.toValue⟩

instance {α : Type} [Writable α] : Writable (Option α) := ⟨fun x => (x.map value).getD .null⟩

instance {α : Type} [Writable α] : Writable (List α) := ⟨fun xs => .array (xs.map value)⟩

end Gazetteer
