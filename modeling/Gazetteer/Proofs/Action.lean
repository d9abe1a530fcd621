import Gazetteer.Action

/-!
# Proofs/Action — running an action step by step

What an action does is read off its first step: where the step gives a result, the rest runs from
the state it leaves (`bind_ok`), and where it fails, the whole does (`bind_error`). The other lemmas
say the same of the ways to run an action on a part of a state.

`Keeps f` says of an action that it leaves a part `f` of the state as it is, whether it gives a
result or fails. It goes through all the ways to build actions, so that what a long action leaves
alone is known from its steps. `Ends P action Q E` says where an action ends that is run from
states with `P`, with a result or with a fault, and `Leads P action R` that it ends in states with
`R` either way. `GoesAlong f` says of two actions that the second does to a state seen through `f`
what the first does to the state.
-/

namespace Gazetteer.Action

variable {σ τ α β γ : Type}

theorem bind_ok {action : Action σ α} {s s' : σ} {a : α} (h : action s = .ok a s')
    (next : α → Action σ β) : (action >>= next) s = next a s' := by
  simp only [bind, EStateM.bind, h]

theorem bind_error {action : Action σ α} {s s' : σ} {fault : Fault}
    (h : action s = .error fault s') (next : α → Action σ β) :
    (action >>= next) s = .error fault s' := by
  simp only [bind, EStateM.bind, h]

/-- **Peeling off the first step** of an action that gave a result. -/
theorem exists_of_bind_ok {action : Action σ α} {next : α → Action σ β} {s s' : σ} {b : β}
    (h : (action >>= next) s = .ok b s') :
    ∃ a s₁, action s = .ok a s₁ ∧ next a s₁ = .ok b s' := by
  cases hrun : action s with
  | ok a s₁ => exact ⟨a, s₁, rfl, (bind_ok hrun next).symm.trans h⟩
  | error fault s₁ => exact absurd ((bind_error hrun next).symm.trans h) (by simp)

theorem map_ok {action : Action σ α} {s s' : σ} {a : α} (h : action s = .ok a s') (f : α → β) :
    (f <$> action) s = .ok (f a) s' := by
  simp only [Functor.map, EStateM.map, h]

theorem exists_of_map_ok {action : Action σ α} {f : α → β} {s s' : σ} {b : β}
    (h : (f <$> action) s = .ok b s') : ∃ a, action s = .ok a s' ∧ f a = b := by
  rw [map_eq_pure_bind] at h
  obtain ⟨a, s₁, hrun, h⟩ := exists_of_bind_ok h
  obtain ⟨rfl, rfl⟩ := EStateM.Result.ok.inj h
  exact ⟨a, hrun, rfl⟩

theorem get_bind (next : σ → Action σ β) (s : σ) : (get >>= next) s = next s s := rfl

theorem modify_bind (f : σ → σ) (next : PUnit → Action σ β) (s : σ) :
    (modify f >>= next) s = next ⟨⟩ (f s) := rfl

theorem ofExcept_ok (a : α) (s : σ) : ofExcept (.ok a) s = .ok a s := rfl

theorem throw_ne_ok {fault : Fault} {s s' : σ} {a : α} :
    (throw fault : Action σ α) s ≠ .ok a s' := by
  intro h
  have herror : EStateM.Result.error fault s = .ok a s' := h
  exact absurd herror (by simp)

theorem ofExcept_eq_ok {r : Except Fault α} {s s' : σ} {a : α} (h : ofExcept r s = .ok a s') :
    r = .ok a ∧ s' = s := by
  cases r with
  | error fault => exact absurd h throw_ne_ok
  | ok b =>
    obtain ⟨rfl, rfl⟩ := EStateM.Result.ok.inj h
    exact ⟨rfl, rfl⟩

theorem onFirst_ok {action : Action σ α} {s s' : σ} {a : α} (h : action s = .ok a s') (t : τ) :
    onFirst action (s, t) = .ok a (s', t) := by
  simp only [onFirst, h]

theorem onFirst_eq_ok {action : Action σ α} {s s' : σ} {t t' : τ} {a : α}
    (h : onFirst action (s, t) = .ok a (s', t')) : action s = .ok a s' ∧ t' = t := by
  rw [onFirst] at h
  cases hrun : action s with
  | ok b s₁ =>
    simp only [hrun] at h
    obtain ⟨rfl, hs⟩ := EStateM.Result.ok.inj h
    obtain ⟨rfl, rfl⟩ := Prod.mk.inj hs
    exact ⟨rfl, rfl⟩
  | error fault s₁ =>
    simp only [hrun] at h
    exact absurd h (by simp)

theorem onFirst_error {action : Action σ α} {s s' : σ} {fault : Fault}
    (h : action s = .error fault s') (t : τ) :
    onFirst action (s, t) = .error fault (s', t) := by
  simp only [onFirst, h]

theorem onSecond_ok {action : Action τ α} {t t' : τ} {a : α} (h : action t = .ok a t') (s : σ) :
    onSecond action (s, t) = .ok a (s, t') := by
  simp only [onSecond, h]

theorem onSecond_eq_ok {action : Action τ α} {s s' : σ} {t t' : τ} {a : α}
    (h : onSecond action (s, t) = .ok a (s', t')) : action t = .ok a t' ∧ s' = s := by
  rw [onSecond] at h
  cases hrun : action t with
  | ok b t₁ =>
    simp only [hrun] at h
    obtain ⟨rfl, hs⟩ := EStateM.Result.ok.inj h
    obtain ⟨rfl, rfl⟩ := Prod.mk.inj hs
    exact ⟨rfl, rfl⟩
  | error fault t₁ =>
    simp only [hrun] at h
    exact absurd h (by simp)

theorem zoom_ok {part : σ → τ} {put : τ → σ → σ} {action : Action τ α} {s : σ} {t t' : τ} {a : α}
    (h : action t = .ok a t') (hpart : part s = t) :
    zoom part put action s = .ok a (put t' s) := by
  subst hpart
  simp only [zoom, h]

theorem withState_ok {action : Action (σ × τ) α} {s s' : σ} {t t' : τ} {a : α}
    (h : action (s, t) = .ok a (s', t')) : withState t action s = .ok (a, t') s' := by
  simp only [withState, h]

theorem withState_eq_ok {action : Action (σ × τ) α} {s s' : σ} {t t' : τ} {a : α}
    (h : withState t action s = .ok (a, t') s') : action (s, t) = .ok a (s', t') := by
  rw [withState] at h
  cases hrun : action (s, t) with
  | ok b s₁ =>
    simp only [hrun] at h
    obtain ⟨hb, rfl⟩ := EStateM.Result.ok.inj h
    obtain ⟨rfl, rfl⟩ := Prod.mk.inj hb
    rfl
  | error fault s₁ =>
    simp only [hrun] at h
    exact absurd h (by simp)

theorem attempt_ok {action : Action σ α} {s s' : σ} {a : α} (h : action s = .ok a s') :
    attempt action s = .ok (.ok a) s' := by
  simp only [attempt, h]

theorem attempt_error {action : Action σ α} {s s' : σ} {fault : Fault}
    (h : action s = .error fault s') : attempt action s = .ok (.error fault) s' := by
  simp only [attempt, h]

theorem mapFault_ok {f : Fault → Fault} {action : Action σ α} {s s' : σ} {a : α}
    (h : action s = .ok a s') : mapFault f action s = .ok a s' := by
  simp only [mapFault, h]

theorem mapFault_error {f : Fault → Fault} {action : Action σ α} {s s' : σ} {fault : Fault}
    (h : action s = .error fault s') : mapFault f action s = .error (f fault) s' := by
  simp only [mapFault, h]

/-- **An action that gives a result, and then its cleanup**: the result stays. -/
theorem ensuring_ok {action : Action σ α} {cleanup : Action σ Unit} {s s' s'' : σ} {a : α}
    (h : action s = .ok a s') (hc : cleanup s' = .ok () s'') :
    ensuring action cleanup s = .ok a s'' := by
  rw [ensuring, bind_ok (attempt_ok h), bind_ok hc, ofExcept_ok]

/-- **An action that fails, and then its cleanup**: the fault stays. -/
theorem ensuring_error {action : Action σ α} {cleanup : Action σ Unit} {s s' s'' : σ}
    {fault : Fault} (h : action s = .error fault s') (hc : cleanup s' = .ok () s'') :
    ensuring action cleanup s = .error fault s'' := by
  rw [ensuring, bind_ok (attempt_error h), bind_ok hc]
  rfl

theorem mapFault_eq_ok {f : Fault → Fault} {action : Action σ α} {s s' : σ} {a : α}
    (h : mapFault f action s = .ok a s') : action s = .ok a s' := by
  rw [mapFault] at h
  cases hrun : action s with
  | ok b s₁ =>
    simp only [hrun] at h
    exact h
  | error fault s₁ =>
    simp only [hrun] at h
    exact absurd h (by simp)

theorem attempt_eq_ok {action : Action σ α} {s s' : σ} {a : α}
    (h : attempt action s = .ok (.ok a) s') : action s = .ok a s' := by
  rw [attempt] at h
  cases hrun : action s with
  | ok b s₁ =>
    simp only [hrun] at h
    obtain ⟨hb, rfl⟩ := EStateM.Result.ok.inj h
    rw [Except.ok.inj hb]
  | error fault s₁ =>
    simp only [hrun] at h
    exact absurd (EStateM.Result.ok.inj h).1 (by simp)

/-- What ended well under a cleanup: both did. -/
theorem exists_of_ensuring_ok {action : Action σ α} {cleanup : Action σ Unit} {s s'' : σ} {a : α}
    (h : ensuring action cleanup s = .ok a s'') :
    ∃ s', action s = .ok a s' ∧ cleanup s' = .ok () s'' := by
  obtain ⟨result, s₁, hattempt, h⟩ := exists_of_bind_ok h
  obtain ⟨⟨⟩, s₂, hc, h⟩ := exists_of_bind_ok h
  obtain ⟨rfl, rfl⟩ := ofExcept_eq_ok h
  exact ⟨s₁, attempt_eq_ok hattempt, hc⟩

/-! ## Outcomes -/

theorem outcome_congr {action action' : Action σ α} {s s' : σ} (h : action s = action' s') :
    outcome action s = outcome action' s' := by
  simp only [outcome, h]

theorem outcome_ok {action : Action σ α} {s s' : σ} {a : α} (h : action s = .ok a s') :
    outcome action s = (.ok a, s') := by
  rw [outcome, h]

theorem outcome_error {action : Action σ α} {s s' : σ} {fault : Fault}
    (h : action s = .error fault s') : outcome action s = (.error fault, s') := by
  rw [outcome, h]

theorem eq_ok_of_outcome {action : Action σ α} {s s' : σ} {a : α}
    (h : outcome action s = (.ok a, s')) : action s = .ok a s' := by
  rw [outcome] at h
  cases hrun : action s with
  | ok b s₁ =>
    simp only [hrun] at h
    obtain ⟨hb, rfl⟩ := Prod.mk.inj h
    rw [Except.ok.inj hb]
  | error fault s₁ =>
    simp only [hrun] at h
    exact absurd (Prod.mk.inj h).1 (by simp)

theorem eq_error_of_outcome {action : Action σ α} {s s' : σ} {fault : Fault}
    (h : outcome action s = (.error fault, s')) : action s = .error fault s' := by
  rw [outcome] at h
  cases hrun : action s with
  | ok b s₁ =>
    simp only [hrun] at h
    exact absurd (Prod.mk.inj h).1 (by simp)
  | error fault s₁ =>
    simp only [hrun] at h
    obtain ⟨hfault, rfl⟩ := Prod.mk.inj h
    rw [Except.error.inj hfault]

theorem outcome_get_bind (next : σ → Action σ β) (s : σ) :
    outcome (get >>= next) s = outcome (next s) s := rfl

theorem outcome_modify_bind (f : σ → σ) (next : PUnit → Action σ β) (s : σ) :
    outcome (modify f >>= next) s = outcome (next ⟨⟩) (f s) := rfl

theorem outcome_ofExcept (r : Except Fault α) (s : σ) : outcome (ofExcept r) s = (r, s) := by
  cases r <;> rfl

theorem outcome_map (f : α → β) (action : Action σ α) (s : σ) :
    outcome (f <$> action) s = ((outcome action s).1.map f, (outcome action s).2) := by
  simp only [outcome, Functor.map, EStateM.map]
  cases action s <;> rfl

theorem outcome_onFirst (action : Action σ α) (s : σ) (t : τ) :
    outcome (onFirst action) (s, t) = ((outcome action s).1, (outcome action s).2, t) := by
  simp only [outcome, onFirst]
  cases action s <;> rfl

theorem outcome_onSecond (action : Action τ α) (s : σ) (t : τ) :
    outcome (onSecond action) (s, t) = ((outcome action t).1, s, (outcome action t).2) := by
  simp only [outcome, onSecond]
  cases action t <;> rfl

theorem outcome_zoom (part : σ → τ) (put : τ → σ → σ) (action : Action τ α) (s : σ) :
    outcome (zoom part put action) s
      = ((outcome action (part s)).1, put (outcome action (part s)).2 s) := by
  simp only [outcome, zoom]
  cases action (part s) <;> rfl

theorem outcome_withState (action : Action (σ × τ) α) (s : σ) (t : τ) :
    outcome (withState t action) s
      = ((outcome action (s, t)).1.map fun a => (a, (outcome action (s, t)).2.2),
        (outcome action (s, t)).2.1) := by
  simp only [outcome, withState]
  cases action (s, t) <;> rfl

/-- **The outcome under a cleanup** is that of the action, unless the cleanup fails. -/
theorem outcome_ensuring_eq (action : Action σ α) (cleanup : Action σ Unit) (s : σ) :
    outcome (ensuring action cleanup) s
      = ((outcome cleanup (outcome action s).2).1 >>= fun _ => (outcome action s).1,
        (outcome cleanup (outcome action s).2).2) := by
  rw [ensuring, outcome_bind, outcome_attempt]
  simp only [outcome_bind]
  rcases outcome cleanup (outcome action s).2 with ⟨fault | _, s''⟩
  · rfl
  · exact outcome_ofExcept _ _

/-- **The outcome under a cleanup** that never fails is that of the action. -/
theorem outcome_ensuring {action : Action σ α} {cleanup : Action σ Unit} {s s'' : σ}
    (hc : cleanup (outcome action s).2 = .ok () s'') :
    outcome (ensuring action cleanup) s = ((outcome action s).1, s'') := by
  rw [outcome_ensuring_eq, outcome_ok hc]
  rfl

/-! ## What an action leaves alone -/

/-- Whether an action leaves a part of the state as it is, on every way out. -/
def Keeps (f : σ → γ) (action : Action σ α) : Prop := ∀ s, f (outcome action s).2 = f s

variable {f : σ → γ}

theorem Keeps.ok {action : Action σ α} (hk : Keeps f action) {s s' : σ} {a : α}
    (h : action s = .ok a s') : f s' = f s := by
  have hs := hk s
  rwa [outcome_ok h] at hs

theorem Keeps.error {action : Action σ α} (hk : Keeps f action) {s s' : σ} {fault : Fault}
    (h : action s = .error fault s') : f s' = f s := by
  have hs := hk s
  rwa [outcome_error h] at hs

theorem keeps_pure (a : α) : Keeps f (pure a) := fun _ => rfl

theorem keeps_throw (fault : Fault) : Keeps f (throw fault : Action σ α) := fun _ => rfl

theorem keeps_ofExcept (r : Except Fault α) : Keeps f (ofExcept r) := by
  cases r with
  | ok a => exact keeps_pure a
  | error fault => exact keeps_throw fault

theorem keeps_get : Keeps f (get : Action σ σ) := fun _ => rfl

theorem keeps_modify {g : σ → σ} (h : ∀ s, f (g s) = f s) : Keeps f (modify g) := h

/-- **Keeping goes on** from one step to the next. -/
theorem Keeps.bind {action : Action σ α} {next : α → Action σ β} (h : Keeps f action)
    (hnext : ∀ a, Keeps f (next a)) : Keeps f (action >>= next) := by
  intro s
  rw [outcome_bind]
  have hs := h s
  split
  · rename_i a s' heq
    rw [heq] at hs
    exact (hnext a s').trans hs
  · rename_i fault s' heq
    rwa [heq] at hs

theorem keeps_onFirst {action : Action σ α} (h : Keeps f action) :
    Keeps (fun s : σ × τ => f s.1) (onFirst action) := by
  rintro ⟨s, t⟩
  rw [outcome_onFirst]
  exact h s

theorem keeps_onSecond (action : Action τ α) :
    Keeps (fun s : σ × τ => f s.1) (onSecond action) := by
  rintro ⟨s, t⟩
  rw [outcome_onSecond]

theorem keeps_snd_onFirst (g : τ → γ) (action : Action σ α) :
    Keeps (fun s : σ × τ => g s.2) (onFirst action) := by
  rintro ⟨s, t⟩
  rw [outcome_onFirst]

theorem keeps_zoom {part : σ → τ} {put : τ → σ → σ} {action : Action τ α} {g : τ → γ}
    (h : Keeps g action) (hput : ∀ s t, g t = g (part s) → f (put t s) = f s) :
    Keeps f (zoom part put action) := by
  intro s
  rw [outcome_zoom]
  exact hput s _ (h (part s))

theorem keeps_attempt {action : Action σ α} (h : Keeps f action) : Keeps f (attempt action) := by
  intro s
  rw [outcome_attempt]
  exact h s

theorem keeps_mapFault {g : Fault → Fault} {action : Action σ α} (h : Keeps f action) :
    Keeps f (mapFault g action) := by
  intro s
  rw [outcome_mapFault]
  exact h s

theorem keeps_ensuring {action : Action σ α} {cleanup : Action σ Unit} (h : Keeps f action)
    (hc : Keeps f cleanup) : Keeps f (ensuring action cleanup) :=
  (keeps_attempt h).bind fun _ => hc.bind fun _ => keeps_ofExcept _

/-! ## Where an action ends -/

/-- Whether an action that is run from states with `P` ends in states with `Q` where it gives a
result, and in states with `E` where it fails. -/
def Ends (P : σ → Prop) (action : Action σ α) (Q : α → σ → Prop) (E : σ → Prop) : Prop :=
  ∀ s, P s → match outcome action s with
    | (.ok a, s') => Q a s'
    | (.error _, s') => E s'

/-- Whether an action leads from states with `P` to states with `R`, on every way out. -/
abbrev Leads (P : σ → Prop) (action : Action σ α) (R : σ → Prop) : Prop :=
  Ends P action (fun _ => R) R

section Ends

variable {P R : σ → Prop} {Q : α → σ → Prop} {Q' : β → σ → Prop} {E : σ → Prop}

/-- What holds on every way out holds of the state that is left. -/
theorem Ends.outcome {action : Action σ α} (h : Leads P action R) {s : σ} (hs : P s) :
    R (outcome action s).2 := by
  have hend := h s hs
  rcases hrun : Action.outcome action s with ⟨fault | a, s'⟩ <;> rw [hrun] at hend <;> exact hend

theorem leads_of_outcome {action : Action σ α} (h : ∀ s, P s → R (Action.outcome action s).2) :
    Leads P action R := by
  intro s hs
  have hend := h s hs
  rcases hrun : Action.outcome action s with ⟨fault | a, s'⟩ <;> rw [hrun] at hend <;> exact hend

theorem ends_pure {a : α} (h : ∀ s, P s → Q a s) : Ends P (pure a) Q E := h

theorem ends_throw {fault : Fault} (h : ∀ s, P s → E s) :
    Ends P (throw fault : Action σ α) Q E := h

/-- **An action that leaves alone what matters** ends where it began. -/
theorem leads_of_keeps {action : Action σ α} {f : σ → γ} {R : γ → Prop} (h : Keeps f action) :
    Leads (fun s => R (f s)) action fun s => R (f s) :=
  leads_of_outcome fun s hs => by
    rw [h s]
    exact hs

theorem Ends.weaken {P' E' : σ → Prop} {Q' : α → σ → Prop} {action : Action σ α}
    (h : Ends P action Q E) (hP : ∀ s, P' s → P s) (hQ : ∀ a s, Q a s → Q' a s)
    (hE : ∀ s, E s → E' s) : Ends P' action Q' E' := by
  intro s hs
  have hend := h s (hP s hs)
  rcases hrun : Action.outcome action s with ⟨fault | a, s'⟩
  · rw [hrun] at hend
    exact hE s' hend
  · rw [hrun] at hend
    exact hQ a s' hend

/-- **One action after another** begins where the first one ends. -/
theorem Ends.bind {action : Action σ α} {next : α → Action σ β} (h : Ends P action Q E)
    (hnext : ∀ a, Ends (Q a) (next a) Q' E) : Ends P (action >>= next) Q' E := by
  intro s hs
  have hend := h s hs
  rw [outcome_bind]
  rcases hrun : Action.outcome action s with ⟨fault | a, s'⟩
  · rw [hrun] at hend
    exact hend
  · rw [hrun] at hend
    exact hnext a s' hend

theorem Ends.mapFault {action : Action σ α} (h : Ends P action Q E) (g : Fault → Fault) :
    Ends P (action.mapFault g) Q E := by
  intro s hs
  have hend := h s hs
  rw [outcome_mapFault]
  rcases hrun : Action.outcome action s with ⟨fault | a, s'⟩ <;> rw [hrun] at hend <;> exact hend

theorem Ends.attempt {action : Action σ α} (h : Leads P action R) :
    Ends P action.attempt (fun _ => R) E := by
  intro s hs
  have hend := h.outcome hs
  rw [outcome_attempt]
  exact hend

/-- **A cleanup** begins wherever the action has ended. -/
theorem Ends.ensuring {action : Action σ α} {cleanup : Action σ Unit} {S : σ → Prop}
    (h : Leads P action R) (hc : Leads R cleanup S) : Leads P (action.ensuring cleanup) S :=
  leads_of_outcome fun s hs => by
    rw [outcome_ensuring_eq]
    exact hc.outcome (h.outcome hs)

theorem ends_onFirst {action : Action σ α} (h : Ends P action Q E) :
    Ends (fun s : σ × τ => P s.1) (onFirst action) (fun a s => Q a s.1) fun s => E s.1 := by
  rintro ⟨s, t⟩ hs
  have hend := h s hs
  rw [outcome_onFirst]
  rcases hrun : Action.outcome action s with ⟨fault | a, s'⟩ <;> rw [hrun] at hend <;> exact hend

theorem ends_withState {action : Action (σ × τ) α} (t : τ)
    (h : Ends (fun s => P s.1) action (fun a s => Q a s.1) fun s => E s.1) :
    Ends P (withState t action) (fun a s => Q a.1 s) E := by
  intro s hs
  have hend := h (s, t) hs
  rw [outcome_withState]
  rcases hrun : Action.outcome action (s, t) with ⟨fault | a, s'⟩ <;> rw [hrun] at hend <;>
    exact hend

theorem leads_zoom {part : σ → τ} {put : τ → σ → σ} {action : Action τ α} {P' R' : τ → Prop}
    (h : Leads P' action R') (hpart : ∀ s, P s → P' (part s))
    (hput : ∀ s t, P s → R' t → R (put t s)) : Leads P (zoom part put action) R :=
  leads_of_outcome fun s hs => by
    rw [outcome_zoom]
    exact hput s _ hs (h.outcome (hpart s hs))

end Ends

/-! ## Actions that go along with a map of states -/

/-- Whether an action on states seen through a map does what another does to the states. -/
def GoesAlong (f : σ → τ) (action : Action σ α) (action' : Action τ α) : Prop :=
  ∀ s, outcome action' (f s) = ((outcome action s).1, f (outcome action s).2)

section GoesAlong

variable {f : σ → τ}

theorem goesAlong_pure (a : α) : GoesAlong f (pure a) (pure a) := fun _ => rfl

theorem goesAlong_throw (fault : Fault) :
    GoesAlong f (throw fault : Action σ α) (throw fault) := fun _ => rfl

theorem goesAlong_ofExcept (r : Except Fault α) : GoesAlong f (ofExcept r) (ofExcept r) := by
  intro s
  rw [outcome_ofExcept, outcome_ofExcept]

theorem goesAlong_modify {g : σ → σ} {g' : τ → τ} (h : ∀ s, g' (f s) = f (g s)) :
    GoesAlong f (modify g : Action σ PUnit) (modify g') := fun s =>
  congrArg (Prod.mk (Except.ok PUnit.unit)) (h s)

theorem GoesAlong.bind {action : Action σ α} {action' : Action τ α} {next : α → Action σ β}
    {next' : α → Action τ β} (h : GoesAlong f action action')
    (hnext : ∀ a, GoesAlong f (next a) (next' a)) :
    GoesAlong f (action >>= next) (action' >>= next') := by
  intro s
  rw [outcome_bind, outcome_bind, h s]
  rcases outcome action s with ⟨fault | a, s'⟩
  · rfl
  · exact hnext a s'

theorem goesAlong_onFirst {γ : Type} {action : Action σ α} {action' : Action τ α}
    (h : GoesAlong f action action') :
    GoesAlong (Prod.map f (id : γ → γ)) (onFirst action) (onFirst action') := by
  rintro ⟨s, t⟩
  rw [outcome_onFirst, Prod.map, outcome_onFirst, h s]
  rfl

theorem GoesAlong.ensuring {action : Action σ α} {action' : Action τ α}
    {cleanup : Action σ Unit} {cleanup' : Action τ Unit} (h : GoesAlong f action action')
    (hc : GoesAlong f cleanup cleanup') :
    GoesAlong f (action.ensuring cleanup) (action'.ensuring cleanup') := by
  intro s
  rw [outcome_ensuring_eq, outcome_ensuring_eq, h s, hc _]

end GoesAlong

end Gazetteer.Action
