import Gazetteer.Dictionary.Listener
import Gazetteer.Proofs.Action
import Gazetteer.Proofs.Dictionary.Indexed

/-!
# Proofs/Feed/Listening — what listeners are handed

Rows are delivered as records. `Rows.entities` are the records of rows without a bad point, and
delivering the rows is handing these over (`deliver_ok_iff`).

An action is `Impartial` if it does the same whoever listens: what one listener took in, any other
is handed just as well. So a collector tells what a dictionary was given. `Adds` says of an action
on a dictionary that it only ever adds records, also when it fails halfway.
-/

namespace Gazetteer

section Rows

variable {ℓ : Type} {listener : Listener ℓ}

/-- The records of the rows from number `index` on, or the first bad point. -/
def Rows.entitiesFrom (failure : Option Fault) : Nat → List Row → Except Fault (List Entity)
  | _, [] =>
    match failure with
    | some fault => .error fault
    | none => .ok []
  | index, row :: rest =>
    match Row.entity? row with
    | none => .error (.incompleteRow index row)
    | some e => (entitiesFrom failure (index + 1) rest).map (e :: ·)

/-- The records of rows, or their first bad point. -/
def Rows.entities (result : Rows) : Except Fault (List Entity) :=
  entitiesFrom result.failure 0 result.rows

@[simp] theorem handAll_nil (listener : Listener ℓ) (l : ℓ) :
    handAll listener [] l = .ok () l := rfl

theorem handAll_cons_of_ok {e : Entity} {l l' : ℓ} (h : listener e l = .ok () l')
    (es : List Entity) : handAll listener (e :: es) l = handAll listener es l' :=
  Action.bind_ok h _

theorem handAll_cons_ok {e : Entity} {es : List Entity} {l l' : ℓ}
    (h : handAll listener (e :: es) l = .ok () l') :
    ∃ l₁, listener e l = .ok () l₁ ∧ handAll listener es l₁ = .ok () l' := by
  obtain ⟨⟨⟩, l₁, he, hes⟩ := Action.exists_of_bind_ok h
  exact ⟨l₁, he, hes⟩

theorem handAll_append {xs : List Entity} {l l₁ : ℓ} (h : handAll listener xs l = .ok () l₁)
    (ys : List Entity) : handAll listener (xs ++ ys) l = handAll listener ys l₁ := by
  induction xs generalizing l with
  | nil =>
    obtain ⟨-, rfl⟩ := EStateM.Result.ok.inj h
    rfl
  | cons e xs ih =>
    obtain ⟨l₂, he, hrest⟩ := handAll_cons_ok h
    rw [List.cons_append, handAll_cons_of_ok he, ih hrest]

theorem handAll_append_ok {xs ys : List Entity} {l l'' : ℓ}
    (h : handAll listener (xs ++ ys) l = .ok () l'') :
    ∃ l', handAll listener xs l = .ok () l' ∧ handAll listener ys l' = .ok () l'' := by
  induction xs generalizing l with
  | nil => exact ⟨l, rfl, h⟩
  | cons e xs ih =>
    obtain ⟨l₁, he, hrest⟩ := handAll_cons_ok h
    obtain ⟨l', hxs, hys⟩ := ih hrest
    exact ⟨l', (handAll_cons_of_ok he xs).trans hxs, hys⟩

theorem Rows.deliverFrom_ok_iff {failure : Option Fault} {n : Nat} :
    ∀ {index : Nat} {rows : List Row} {l l' : ℓ},
      deliverFrom listener failure index rows l = .ok n l' ↔
        ∃ es, entitiesFrom failure index rows = .ok es ∧ handAll listener es l = .ok () l' ∧
          n = index + es.length
  | index, [], l, l' => by
      cases failure with
      | some fault =>
        constructor
        · exact fun h => absurd h Action.throw_ne_ok
        · rintro ⟨es, hes, -⟩
          exact absurd hes (by simp [entitiesFrom])
      | none =>
        constructor
        · intro h
          obtain ⟨rfl, rfl⟩ := EStateM.Result.ok.inj h
          exact ⟨[], rfl, rfl, rfl⟩
        · rintro ⟨es, hes, hhand, rfl⟩
          obtain rfl := Except.ok.inj hes
          obtain ⟨-, rfl⟩ := EStateM.Result.ok.inj hhand
          rfl
  | index, row :: rest, l, l' => by
      rw [deliverFrom, entitiesFrom]
      cases Row.entity? row with
      | none =>
        constructor
        · exact fun h => absurd h Action.throw_ne_ok
        · rintro ⟨es, hes, -⟩
          exact absurd hes (by simp)
      | some e =>
        constructor
        · intro h
          obtain ⟨⟨⟩, l₁, he, hrest⟩ := Action.exists_of_bind_ok h
          obtain ⟨es, hes, hhand, rfl⟩ := deliverFrom_ok_iff.mp hrest
          refine ⟨e :: es, by rw [hes]; rfl, (handAll_cons_of_ok he es).trans hhand, ?_⟩
          rw [List.length_cons]
          omega
        · rintro ⟨es, hes, hhand, rfl⟩
          cases hrest : entitiesFrom failure (index + 1) rest with
          | error fault =>
            rw [hrest] at hes
            exact absurd hes (by simp [Except.map])
          | ok fs =>
            rw [hrest] at hes
            obtain rfl := Except.ok.inj hes
            obtain ⟨l₁, he, hfs⟩ := handAll_cons_ok hhand
            refine (Action.bind_ok he _).trans (deliverFrom_ok_iff.mpr ⟨fs, hrest, hfs, ?_⟩)
            rw [List.length_cons]
            omega

/-- **Delivering rows** is handing over their records, if they have no bad point. -/
theorem Rows.deliver_ok_iff {result : Rows} {n : Nat} {l l' : ℓ} :
    result.deliver listener l = .ok n l' ↔
      ∃ es, result.entities = .ok es ∧ handAll listener es l = .ok () l' ∧ n = es.length := by
  rw [deliver, deliverFrom_ok_iff, entities]
  simp only [Nat.zero_add]

end Rows

/-- **A dictionary that listens** adds what it is handed. -/
theorem handAll_listener_iff {es : List Entity} {d d' : Dictionary} :
    handAll Dictionary.listener es d = .ok () d' ↔ d.addAll es = .ok d' := by
  induction es generalizing d with
  | nil =>
    constructor
    · intro h
      obtain ⟨-, rfl⟩ := EStateM.Result.ok.inj h
      rfl
    · intro h
      obtain rfl := Except.ok.inj h
      rfl
  | cons e es ih =>
    constructor
    · intro h
      obtain ⟨d₁, he, hes⟩ := handAll_cons_ok h
      rw [Dictionary.listener, Action.get_bind] at he
      cases hadd : d.add e with
      | ok d₂ =>
        simp only [hadd] at he
        obtain ⟨-, rfl⟩ := EStateM.Result.ok.inj he
        exact (Dictionary.addAll_cons_of_add hadd es).trans (ih.mp hes)
      | error fault =>
        simp only [hadd] at he
        exact absurd he Action.throw_ne_ok
    · intro h
      obtain ⟨d₁, hadd, hrest⟩ := Dictionary.add_of_addAll_cons h
      have hlistener : Dictionary.listener e d = .ok () d₁ := by
        simp only [Dictionary.listener, Action.get_bind, hadd]
        rfl
      exact (handAll_cons_of_ok hlistener es).trans (ih.mpr hrest)

/-- **A collector** keeps all that it is handed. -/
theorem handAll_collector (es taken : List Entity) :
    handAll (collector none) es taken = .ok () (taken ++ es) := by
  induction es generalizing taken with
  | nil => rw [handAll_nil, List.append_nil]
  | cons e es ih =>
    have hlistener : collector none e taken = .ok () (taken ++ [e]) := rfl
    rw [handAll_cons_of_ok hlistener, ih, List.append_assoc, List.singleton_append]

/-! ## Actions that do the same whoever listens -/

section Impartial

variable {σ τ α β : Type}

/-- Whether an action does the same whoever listens: what one listener took in can be handed to any
other, and the action then gives the same result. -/
def Impartial (action : (ℓ : Type) → Listener ℓ → Action (σ × ℓ) α) : Prop :=
  ∀ (ℓ : Type) {listener : Listener ℓ} {s s' : σ} {l l' : ℓ} {a : α},
    action ℓ listener (s, l) = .ok a (s', l') →
      ∃ es, handAll listener es l = .ok () l' ∧
        ∀ {ℓ' : Type} (other : Listener ℓ') {m m' : ℓ'}, handAll other es m = .ok () m' →
          action ℓ' other (s, m) = .ok a (s', m')

/-- An action that does not listen. -/
theorem impartial_onFirst (action : Action σ α) : Impartial fun _ _ => Action.onFirst action := by
  intro ℓ listener s s' l l' a h
  obtain ⟨hrun, rfl⟩ := Action.onFirst_eq_ok h
  refine ⟨[], rfl, fun other m m' hm => ?_⟩
  obtain ⟨-, rfl⟩ := EStateM.Result.ok.inj hm
  exact Action.onFirst_ok hrun m

theorem impartial_pure (a : α) : Impartial fun ℓ _ => (pure a : Action (σ × ℓ) α) :=
  impartial_onFirst (pure a)

theorem impartial_deliver (result : Rows) :
    Impartial fun _ listener => Action.onSecond (σ := σ) (result.deliver listener) := by
  intro ℓ listener s s' l l' n h
  obtain ⟨hrun, rfl⟩ := Action.onSecond_eq_ok h
  obtain ⟨es, hes, hhand, hn⟩ := Rows.deliver_ok_iff.mp hrun
  exact ⟨es, hhand, fun other m m' hm =>
    Action.onSecond_ok (Rows.deliver_ok_iff.mpr ⟨es, hes, hm, hn⟩) _⟩

theorem impartial_handAll (es : List Entity) :
    Impartial fun _ listener => Action.onSecond (σ := σ) (handAll listener es) := by
  intro ℓ listener s s' l l' a h
  obtain ⟨hrun, rfl⟩ := Action.onSecond_eq_ok h
  exact ⟨es, hrun, fun other m m' hm => Action.onSecond_ok hm _⟩

/-- **One impartial action after another**: the records of both, in order. -/
theorem Impartial.bind {action : (ℓ : Type) → Listener ℓ → Action (σ × ℓ) α}
    {next : α → (ℓ : Type) → Listener ℓ → Action (σ × ℓ) β} (h : Impartial action)
    (hnext : ∀ a, Impartial (next a)) :
    Impartial fun ℓ listener => action ℓ listener >>= fun a => next a ℓ listener := by
  intro ℓ listener s s'' l l'' b hrun
  obtain ⟨a, ⟨s', l'⟩, hfirst, hrest⟩ := Action.exists_of_bind_ok hrun
  obtain ⟨xs, hxs, hfirst'⟩ := h _ hfirst
  obtain ⟨ys, hys, hrest'⟩ := hnext a _ hrest
  refine ⟨xs ++ ys, (handAll_append hxs ys).trans hys, fun other m m'' hm => ?_⟩
  obtain ⟨m', hmxs, hmys⟩ := handAll_append_ok hm
  exact (Action.bind_ok (hfirst' other hmxs) _).trans (hrest' other hmys)

theorem Impartial.mapFault {action : (ℓ : Type) → Listener ℓ → Action (σ × ℓ) α}
    (h : Impartial action) (f : Fault → Fault) :
    Impartial fun ℓ listener => Action.mapFault f (action ℓ listener) := by
  intro ℓ listener s s' l l' a hrun
  obtain ⟨es, hes, hrun'⟩ := h _ (Action.mapFault_eq_ok hrun)
  exact ⟨es, hes, fun other m m' hm => Action.mapFault_ok (hrun' other hm)⟩

theorem Impartial.ensuring {action : (ℓ : Type) → Listener ℓ → Action (σ × ℓ) α}
    (h : Impartial action) (cleanup : Action σ Unit) :
    Impartial fun ℓ listener =>
      Action.ensuring (action ℓ listener) (Action.onFirst cleanup) := by
  intro ℓ listener s s'' l l'' a hrun
  obtain ⟨⟨s', l'⟩, hfirst, hc⟩ := Action.exists_of_ensuring_ok hrun
  obtain ⟨hclean, rfl⟩ := Action.onFirst_eq_ok hc
  obtain ⟨es, hes, hfirst'⟩ := h _ hfirst
  exact ⟨es, hes, fun other m m' hm =>
    Action.ensuring_ok (hfirst' other hm) (Action.onFirst_ok hclean m')⟩

end Impartial

/-! ## Actions that only add to a dictionary -/

section Adds

variable {σ τ α β : Type}

/-- Whether an action only adds records to a dictionary, on every way out. -/
def Adds (action : Action (σ × Dictionary) α) : Prop :=
  ∀ (s : σ) (d : Dictionary), ∃ es, d.addAll es = .ok (Action.outcome action (s, d)).2.2

theorem adds_of_keeps {action : Action (σ × Dictionary) α}
    (h : Action.Keeps Prod.snd action) : Adds action := by
  intro s d
  refine ⟨[], ?_⟩
  rw [show (Action.outcome action (s, d)).2.2 = d from h (s, d)]
  rfl

theorem adds_onFirst (action : Action σ α) : Adds (Action.onFirst action) := by
  refine adds_of_keeps fun ⟨s, d⟩ => ?_
  simp only [Action.outcome, Action.onFirst]
  cases action s <;> rfl

/-- **Adding goes on** from one step to the next. -/
theorem Adds.bind {action : Action (σ × Dictionary) α} {next : α → Action (σ × Dictionary) β}
    (h : Adds action) (hnext : ∀ a, Adds (next a)) : Adds (action >>= next) := by
  intro s d
  obtain ⟨xs, hxs⟩ := h s d
  rw [Action.outcome_bind]
  split
  · rename_i a s' heq
    rw [heq] at hxs
    obtain ⟨ys, hys⟩ := hnext a s'.1 s'.2
    exact ⟨xs ++ ys, (Dictionary.addAll_append hxs ys).trans hys⟩
  · rename_i fault s' heq
    rw [heq] at hxs
    exact ⟨xs, hxs⟩

theorem Adds.mapFault {action : Action (σ × Dictionary) α} (h : Adds action) (f : Fault → Fault) :
    Adds (Action.mapFault f action) := by
  intro s d
  rw [Action.outcome_mapFault]
  exact h s d

theorem Adds.ensuring {action : Action (σ × Dictionary) α} (h : Adds action)
    (cleanup : Action σ Unit) : Adds (Action.ensuring action (Action.onFirst cleanup)) := by
  refine Adds.bind (fun s d => ?_) fun result => (adds_onFirst cleanup).bind fun _ =>
    adds_of_keeps (Action.keeps_ofExcept result)
  rw [Action.outcome_attempt]
  exact h s d

theorem adds_listener (e : Entity) :
    Adds (Action.onSecond (σ := σ) (Dictionary.listener e)) := by
  intro s d
  simp only [Action.outcome, Action.onSecond, Dictionary.listener, Action.get_bind]
  cases hadd : d.add e with
  | ok d' => exact ⟨[e], Dictionary.addAll_cons_of_add hadd []⟩
  | error fault => exact ⟨[], rfl⟩

theorem onSecond_bind (action : Action τ α) (next : α → Action τ β) :
    Action.onSecond (σ := σ) (action >>= next)
      = Action.onSecond action >>= fun a => Action.onSecond (next a) := by
  funext ⟨s, t⟩
  simp only [Action.onSecond, bind, EStateM.bind]
  cases action t <;> rfl

theorem adds_handAll : ∀ es : List Entity,
    Adds (Action.onSecond (σ := σ) (handAll Dictionary.listener es))
  | [] => adds_of_keeps fun _ => rfl
  | e :: es => by
      rw [handAll, onSecond_bind]
      exact (adds_listener e).bind fun _ => adds_handAll es

theorem adds_deliverFrom (failure : Option Fault) : ∀ (index : Nat) (rows : List Row),
    Adds (Action.onSecond (σ := σ) (Rows.deliverFrom Dictionary.listener failure index rows))
  | index, [] => by
      cases failure <;> exact adds_of_keeps fun _ => rfl
  | index, row :: rest => by
      rw [Rows.deliverFrom]
      cases Row.entity? row with
      | none => exact adds_of_keeps fun _ => rfl
      | some e =>
        simp only []
        rw [onSecond_bind]
        exact (adds_listener e).bind fun _ => adds_deliverFrom failure (index + 1) rest

theorem adds_deliver (result : Rows) :
    Adds (Action.onSecond (σ := σ) (result.deliver Dictionary.listener)) :=
  adds_deliverFrom result.failure 0 result.rows

end Adds

end Gazetteer
