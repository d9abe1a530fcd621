import Gazetteer.Proofs.Feed.Listening
import Mathlib.Data.List.Forall2

/-!
# Proofs/Feed/Delivery — what a listener has been handed when a delivery stops

A delivery goes on to the first bad point: a row that carries no record, the failure after the rows,
or a record that the listener refuses. `DeliveredFrom` says how far it got, what the listener has
been handed, and where it stopped. Every delivery stops somewhere (`exists_deliveredFrom`), and this
settles its outcome and the state of the listener (`DeliveredFrom.outcome_eq`).
-/

namespace Gazetteer

open Gazetteer.Action

/-! ## Records in rows -/

namespace Row

/-- Whether a row carries a record: its first three values, none of which is null. -/
def Carries (row : Row) (e : Entity) : Prop :=
  ∃ rest, values row = e.inst :: e.cls :: e.label :: rest ∧
    e.inst ≠ .null ∧ e.cls ≠ .null ∧ e.label ≠ .null

/-- Whether a row has fewer than three columns, or a null among the first three values. -/
def IsBad (row : Row) : Prop := row.length < 3 ∨ .null ∈ (values row).take 3

/-- **The record of a row** is what the row carries, and a row without one is bad. -/
theorem entity?_cases (row : Row) :
    (∃ e, entity? row = some e ∧ Carries row e) ∨ entity? row = none ∧ IsBad row := by
  have hlength : row.length = (values row).length := (List.length_map _).symm
  rw [entity?, IsBad, hlength]
  rcases hvalues : values row with _ | ⟨inst, _ | ⟨cls, _ | ⟨label, rest⟩⟩⟩
  · exact .inr ⟨rfl, .inl (by simp)⟩
  · exact .inr ⟨by simp, .inl (by simp)⟩
  · exact .inr ⟨by simp, .inl (by simp)⟩
  · simp only [List.take_succ_cons, List.take_zero]
    split
    · rename_i heq
      exact .inr ⟨rfl, .inr (heq ▸ by simp)⟩
    · rename_i heq
      exact .inr ⟨rfl, .inr (heq ▸ by simp)⟩
    · rename_i heq
      exact .inr ⟨rfl, .inr (heq ▸ by simp)⟩
    · rename_i hinst hcls hlabel heq
      obtain ⟨rfl, rfl, rfl⟩ : _ ∧ _ ∧ _ := by simpa using heq
      exact .inl ⟨_, rfl, rest, hvalues, hinst, hcls, hlabel⟩
    · rename_i hnot
      exact absurd rfl (hnot inst cls label)

theorem Carries.not_isBad {row : Row} {e : Entity} (h : Carries row e) : ¬ IsBad row := by
  obtain ⟨rest, hvalues, hinst, hcls, hlabel⟩ := h
  have hlength : row.length = (values row).length := (List.length_map _).symm
  rintro (hshort | hnull)
  · rw [hlength, hvalues] at hshort
    simp only [List.length_cons] at hshort
    omega
  · rw [hvalues] at hnull
    have hmem : .null ∈ [e.inst, e.cls, e.label] := hnull
    simp only [List.mem_cons, List.not_mem_nil, or_false] at hmem
    rcases hmem with h | h | h
    · exact hinst h.symm
    · exact hcls h.symm
    · exact hlabel h.symm

theorem entity?_of_carries {row : Row} {e : Entity} (h : Carries row e) :
    entity? row = some e := by
  rcases entity?_cases row with ⟨e', hentity, rest', hvalues', -⟩ | ⟨-, hbad⟩
  · obtain ⟨rest, hvalues, -⟩ := h
    have heq := hvalues.symm.trans hvalues'
    simp only [List.cons.injEq] at heq
    rw [hentity]
    exact congrArg some (by
      obtain ⟨inst, cls, label⟩ := e
      obtain ⟨inst', cls', label'⟩ := e'
      obtain ⟨rfl, rfl, rfl, -⟩ := heq
      rfl)
  · exact absurd hbad h.not_isBad

theorem entity?_of_isBad {row : Row} (h : IsBad row) : entity? row = none := by
  rcases entity?_cases row with ⟨e, -, hcarries⟩ | ⟨hnone, -⟩
  · exact absurd h hcarries.not_isBad
  · exact hnone

end Row

/-! ## Where a delivery stops -/

/-- Where a delivery stops: behind all rows, at a bad row with its number, at the failure behind
the rows, or at a record that is refused. -/
inductive Stop where
  | all
  | row (index : Nat) (row : Row)
  | failure (fault : Fault)
  | refused (fault : Fault)

/-- How a delivery ends that stops there, if faults from outside surface in a given way. -/
def Stop.result (surface : Fault → Fault) : Stop → Except Fault Unit
  | .all => .ok ()
  | .row index r => .error (.incompleteRow index r)
  | .failure fault | .refused fault => .error (surface fault)

section Delivered

variable {ℓ : Type} {listener : Listener ℓ} {failure : Option Fault} {index : Nat}
  {rows before : List Row} {row : Row} {e : Entity} {es handed : List Entity} {stop : Stop}
  {l l₁ l' : ℓ} {fault : Fault}

/-- How far a delivery of rows gets, from number `index` on: which records the listener has been
handed, where it stops, and the state of the listener then. All rows before that carry the records
handed over, one record each. -/
inductive DeliveredFrom (listener : Listener ℓ) (failure : Option Fault) (index : Nat)
    (rows : List Row) (l : ℓ) : List Entity → Stop → ℓ → Prop
  | all {es : List Entity} {l' : ℓ} (hrows : List.Forall₂ Row.Carries rows es)
      (hfailure : failure = none) (hhand : handAll listener es l = .ok () l') :
      DeliveredFrom listener failure index rows l es .all l'
  | failure {es : List Entity} {l' : ℓ} {fault : Fault} (hrows : List.Forall₂ Row.Carries rows es)
      (hfailure : failure = some fault) (hhand : handAll listener es l = .ok () l') :
      DeliveredFrom listener failure index rows l es (.failure fault) l'
  | row {before after : List Row} {row : Row} {es : List Entity} {l' : ℓ}
      (hsplit : rows = before ++ row :: after) (hrows : List.Forall₂ Row.Carries before es)
      (hbad : row.IsBad) (hhand : handAll listener es l = .ok () l') :
      DeliveredFrom listener failure index rows l es (.row (index + before.length) row) l'
  | refused {before after : List Row} {row : Row} {es : List Entity} {e : Entity} {l₁ l' : ℓ}
      {fault : Fault} (hsplit : rows = before ++ row :: after)
      (hrows : List.Forall₂ Row.Carries before es) (hrow : row.Carries e)
      (hhand : handAll listener es l = .ok () l₁) (hrefuse : listener e l₁ = .error fault l') :
      DeliveredFrom listener failure index rows l (es ++ [e]) (.refused fault) l'

/-- How far a delivery of rows gets. -/
def Delivered (listener : Listener ℓ) (rows : Rows) (l : ℓ) : List Entity → Stop → ℓ → Prop :=
  DeliveredFrom listener rows.failure 0 rows.rows l

/-! ## Every delivery stops -/

/-- **One row further**: the listener takes the record of the first row. -/
theorem DeliveredFrom.cons (hrow : row.Carries e) (htake : listener e l = .ok () l₁)
    (h : DeliveredFrom listener failure (index + 1) rows l₁ handed stop l') :
    DeliveredFrom listener failure index (row :: rows) l (e :: handed) stop l' := by
  have htakes : ∀ {es l₂}, handAll listener es l₁ = .ok () l₂ →
      handAll listener (e :: es) l = .ok () l₂ :=
    fun hhand => (handAll_cons_of_ok htake _).trans hhand
  cases h with
  | all hrows hfailure hhand => exact .all (.cons hrow hrows) hfailure (htakes hhand)
  | failure hrows hfailure hhand => exact .failure (.cons hrow hrows) hfailure (htakes hhand)
  | @row before after _ _ _ hsplit hrows hbad hhand =>
    have hindex : index + 1 + before.length = index + (row :: before).length := by
      rw [List.length_cons]
      omega
    rw [hsplit, hindex]
    exact .row rfl (.cons hrow hrows) hbad (htakes hhand)
  | refused hsplit hrows hrow' hhand hrefuse =>
    rw [hsplit]
    exact .refused rfl (.cons hrow hrows) hrow' (htakes hhand) hrefuse

/-- **Every delivery stops somewhere.** -/
theorem exists_deliveredFrom (listener : Listener ℓ) (failure : Option Fault) :
    ∀ (rows : List Row) (index : Nat) (l : ℓ),
      ∃ handed stop l', DeliveredFrom listener failure index rows l handed stop l'
  | [], index, l => by
      cases failure with
      | none => exact ⟨[], .all, l, .all .nil rfl rfl⟩
      | some fault => exact ⟨[], .failure fault, l, .failure .nil rfl rfl⟩
  | row :: rows, index, l => by
      rcases Row.entity?_cases row with ⟨e, -, hrow⟩ | ⟨-, hbad⟩
      · cases htake : listener e l with
        | error fault l' => exact ⟨[e], .refused fault, l', .refused rfl .nil hrow rfl htake⟩
        | ok u l₁ =>
          obtain ⟨handed, stop, l', h⟩ := exists_deliveredFrom listener failure rows (index + 1) l₁
          exact ⟨e :: handed, stop, l', h.cons hrow htake⟩
      · exact ⟨[], .row index row, l, .row rfl .nil hbad rfl⟩

theorem exists_delivered (listener : Listener ℓ) (rows : Rows) (l : ℓ) :
    ∃ handed stop l', Delivered listener rows l handed stop l' :=
  exists_deliveredFrom listener rows.failure rows.rows 0 l

/-! ## Where it stops settles how it ends -/

/-- Rows whose records the listener takes are delivered one by one. -/
theorem outcome_deliverFrom_append (after : List Row) (hrows : List.Forall₂ Row.Carries before es)
    (hhand : handAll listener es l = .ok () l₁) :
    outcome (Rows.deliverFrom listener failure index (before ++ after)) l
      = outcome (Rows.deliverFrom listener failure (index + before.length) after) l₁ := by
  induction hrows generalizing index l with
  | nil =>
    obtain ⟨-, rfl⟩ := EStateM.Result.ok.inj hhand
    rfl
  | @cons row e before es hrow hrows ih =>
    obtain ⟨l₂, htake, hhand⟩ := handAll_cons_ok hhand
    have hindex : index + 1 + before.length = index + (row :: before).length := by
      rw [List.length_cons]
      omega
    rw [List.cons_append, Rows.deliverFrom, Row.entity?_of_carries hrow, ← hindex]
    simp only [outcome_bind, outcome_ok htake]
    exact ih hhand

/-- **The outcome of a delivery** is known from where it stops. -/
theorem DeliveredFrom.outcome_eq (h : DeliveredFrom listener failure index rows l handed stop l') :
    ((outcome (Rows.deliverFrom listener failure index rows) l).1.map fun _ => ())
      = stop.result id ∧
    (outcome (Rows.deliverFrom listener failure index rows) l).2 = l' := by
  cases h with
  | all hrows hfailure hhand =>
    have happend : outcome (Rows.deliverFrom listener failure index (rows ++ [])) l = _ :=
      outcome_deliverFrom_append [] hrows hhand
    rw [List.append_nil] at happend
    rw [happend, hfailure]
    exact ⟨rfl, rfl⟩
  | failure hrows hfailure hhand =>
    have happend : outcome (Rows.deliverFrom listener failure index (rows ++ [])) l = _ :=
      outcome_deliverFrom_append [] hrows hhand
    rw [List.append_nil] at happend
    rw [happend, hfailure]
    exact ⟨rfl, rfl⟩
  | @row before after row _ _ hsplit hrows hbad hhand =>
    rw [hsplit, outcome_deliverFrom_append (row :: after) hrows hhand, Rows.deliverFrom,
      Row.entity?_of_isBad hbad]
    exact ⟨rfl, rfl⟩
  | @refused before after row _ _ _ _ _ hsplit hrows hrow hhand hrefuse =>
    rw [hsplit, outcome_deliverFrom_append (row :: after) hrows hhand, Rows.deliverFrom,
      Row.entity?_of_carries hrow]
    dsimp only
    rw [outcome_bind, outcome_error hrefuse]
    exact ⟨rfl, rfl⟩

theorem Delivered.outcome_eq {rows : Rows} (h : Delivered listener rows l handed stop l') :
    ((outcome (rows.deliver listener) l).1.map fun _ => ()) = stop.result id ∧
      (outcome (rows.deliver listener) l).2 = l' :=
  DeliveredFrom.outcome_eq h

/-! ## The calls of a listener -/

/-- A listener that has its calls on record. -/
def Listener.noting (listener : Listener ℓ) : Listener (ℓ × List Entity) := fun e (l, calls) =>
  match listener e l with
  | .ok _ l' => .ok () (l', calls ++ [e])
  | .error fault l' => .error fault (l', calls ++ [e])

theorem handAll_noting : ∀ {es : List Entity} {l : ℓ} (calls : List Entity),
    handAll listener es l = .ok () l' →
    handAll listener.noting es (l, calls) = .ok () (l', calls ++ es)
  | [], l, calls, h => by
      obtain ⟨-, rfl⟩ := EStateM.Result.ok.inj h
      rw [List.append_nil]
      rfl
  | e :: es, l, calls, h => by
      obtain ⟨l₁, htake, hhand⟩ := handAll_cons_ok h
      have hnote : listener.noting e (l, calls) = .ok () (l₁, calls ++ [e]) := by
        simp only [Listener.noting, htake]
      rw [handAll_cons_of_ok hnote, handAll_noting (calls ++ [e]) hhand, List.append_assoc]
      rfl

/-- **What a listener has been handed** are its calls. -/
theorem DeliveredFrom.noting (h : DeliveredFrom listener failure index rows l handed stop l')
    (calls : List Entity) :
    DeliveredFrom listener.noting failure index rows (l, calls) handed stop
      (l', calls ++ handed) := by
  cases h with
  | all hrows hfailure hhand => exact .all hrows hfailure (handAll_noting calls hhand)
  | failure hrows hfailure hhand => exact .failure hrows hfailure (handAll_noting calls hhand)
  | row hsplit hrows hbad hhand => exact .row hsplit hrows hbad (handAll_noting calls hhand)
  | refused hsplit hrows hrow hhand hrefuse =>
    refine .refused hsplit hrows hrow (handAll_noting calls hhand) ?_
    simp only [Listener.noting, hrefuse, List.append_assoc]

theorem Delivered.noting {rows : Rows} (h : Delivered listener rows l handed stop l') :
    Delivered listener.noting rows (l, []) handed stop (l', handed) :=
  DeliveredFrom.noting h []

end Delivered

end Gazetteer
