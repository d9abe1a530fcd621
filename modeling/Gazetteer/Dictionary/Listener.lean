import Gazetteer.Dictionary.Basic
import Gazetteer.Sparql.Rows

/-!
# Dictionary/Listener — what takes in the records of a feed

A dictionary takes in every record with a text for an alias. A collector keeps all records as they
come and may be set to refuse one of them.
-/

namespace Gazetteer

/-- Adds each record to a dictionary. -/
def Dictionary.listener : Listener Dictionary := fun e => do
  let d ← get
  match d.add e with
  | .ok d => set d
  | .error fault => throw fault

/-- Keeps each record; the one with the number `refused` is refused with a fault. -/
def collector (refused : Option (Nat × Fault)) : Listener (List Entity) := fun e => do
  let taken ← get
  match refused with
  | some (number, fault) => if taken.length = number then throw fault else set (taken ++ [e])
  | none => set (taken ++ [e])

/-- Hands records to a listener one after the other. -/
def handAll {ℓ : Type} (listener : Listener ℓ) : List Entity → Action ℓ Unit
  | [] => pure ()
  | e :: rest => do
    listener e
    handAll listener rest

end Gazetteer
