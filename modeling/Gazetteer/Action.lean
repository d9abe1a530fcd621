import Gazetteer.Fault

/-!
# Action — computations that change a state and may fail

An action takes a state to a new state and a result or a fault. The new state is kept when the
action fails: what happened before the fault has happened. States are combined as pairs; `onFirst`
and `onSecond` run an action on one side of a pair.
-/

namespace Gazetteer

/-- A computation over states of type `σ` that may fail. -/
abbrev Action (σ α : Type) := EStateM Fault σ α

namespace Action

variable {σ τ α β : Type}

/-- The result or the fault of an action, with the state it leaves. -/
def outcome (action : Action σ α) (s : σ) : Except Fault α × σ :=
  match action s with
  | .ok a s => (.ok a, s)
  | .error fault s => (.error fault, s)

/-- A result or a fault, with the state left as it is. -/
def ofExcept : Except Fault α → Action σ α
  | .ok a => pure a
  | .error fault => throw fault

/-- Runs an action on the first part of a pair. -/
def onFirst (action : Action σ α) : Action (σ × τ) α := fun (s, t) =>
  match action s with
  | .ok a s => .ok a (s, t)
  | .error fault s => .error fault (s, t)

/-- Runs an action on the second part of a pair. -/
def onSecond (action : Action τ α) : Action (σ × τ) α := fun (s, t) =>
  match action t with
  | .ok a t => .ok a (s, t)
  | .error fault t => .error fault (s, t)

/-- Runs an action on a part of a state. -/
def zoom (part : σ → τ) (put : τ → σ → σ) (action : Action τ α) : Action σ α := fun s =>
  match action (part s) with
  | .ok a t => .ok a (put t s)
  | .error fault t => .error fault (put t s)

/-- Runs an action with a second state of its own, and gives that state's end beside the result. -/
def withState (t : τ) (action : Action (σ × τ) α) : Action σ (α × τ) := fun s =>
  match action (s, t) with
  | .ok a (s, t) => .ok (a, t) s
  | .error fault (s, _) => .error fault s

/-- Runs an action to its end with a second state of its own, and gives the end of that state beside
the result or the fault. -/
def trial (t : τ) (action : Action (σ × τ) α) : Action σ (Except Fault α × τ) := fun s =>
  match action (s, t) with
  | .ok a (s, t) => .ok (.ok a, t) s
  | .error fault (s, t) => .ok (.error fault, t) s

/-- Runs an action to its end, whichever way it ends. -/
def attempt (action : Action σ α) : Action σ (Except Fault α) := fun s =>
  match action s with
  | .ok a s => .ok (.ok a) s
  | .error fault s => .ok (.error fault) s

/-- Runs an action with another one after it on every way out; a fault of the second replaces the
outcome of the first. -/
def ensuring (action : Action σ α) (cleanup : Action σ Unit) : Action σ α := do
  let result ← attempt action
  cleanup
  ofExcept result

/-- Runs an action, with its fault replaced. -/
def mapFault (f : Fault → Fault) (action : Action σ α) : Action σ α := fun s =>
  match action s with
  | .ok a s => .ok a s
  | .error fault s => .error (f fault) s

@[simp] theorem outcome_pure (a : α) (s : σ) : outcome (pure a) s = (.ok a, s) := rfl

@[simp] theorem outcome_throw (fault : Fault) (s : σ) :
    outcome (throw fault : Action σ α) s = (.error fault, s) := rfl

theorem outcome_bind (action : Action σ α) (next : α → Action σ β) (s : σ) :
    outcome (action >>= next) s =
      match outcome action s with
      | (.ok a, s) => outcome (next a) s
      | (.error fault, s) => (.error fault, s) := by
  simp only [outcome, bind, EStateM.bind]
  cases action s <;> rfl

theorem outcome_attempt (action : Action σ α) (s : σ) :
    outcome (attempt action) s = (.ok (outcome action s).1, (outcome action s).2) := by
  simp only [outcome, attempt]
  cases action s <;> rfl

theorem outcome_mapFault (f : Fault → Fault) (action : Action σ α) (s : σ) :
    outcome (mapFault f action) s
      = ((outcome action s).1.mapError f, (outcome action s).2) := by
  simp only [outcome, mapFault]
  cases action s <;> rfl

end Action

end Gazetteer
