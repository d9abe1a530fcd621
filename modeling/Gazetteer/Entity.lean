import Gazetteer.Value.Text

/-!
# Entity — one alias of an individual

An entity record is an individual, its class and one of its aliases, each as it came from the
source: nearly always text, but a server may send data of any shape.
-/

namespace Gazetteer

/-- An individual, its class and a label: one of its aliases. -/
structure Entity where
  inst : Value
  cls : Value
  label : Value
deriving Repr, Inhabited

namespace Entity

/-- The record of three texts. -/
def ofStrings (inst cls label : String) : Entity := ⟨.string inst, .string cls, .string label⟩

/-- The record as an array. -/
def toValue (e : Entity) : Value := .array [e.inst, e.cls, e.label]

end Entity

end Gazetteer
