import Gazetteer.Proofs.Feeder.Standing
import Mathlib.Data.List.Nodup

/-!
# Proofs/Feeder/Lifecycle — every session is opened, and closed once

The sessions that a feeder opens are numbered in the order it opens them, by session operations that
keep a ledger (`SessionOps.audited`) and do the same otherwise. After any calls about any documents,
the registered sessions and the ledger are what the calls say about the numbers of documents
(`Account`). As long as documents are kept while they have sessions, this is what they say about the
documents (`Sessions.lifecycle`): a session stands for the document that began with it until the
document begins again or ends, and is closed then, once.

The calls enter the books by `Books.turn` alone, so the account is kept up from one call to the next
(`Account.turn`) by reading off the calls, without the sessions.
-/

namespace Gazetteer

open Gazetteer.Action

/-- The sessions of a feeder by number: how many have been opened, and which have been closed. -/
structure Ledger where
  opened : Nat := 0
  /-- The sessions that have been closed, the last one last. -/
  closed : List Nat := []

section Audit

variable {σ S : Type}

/-- The same operations on sessions that are numbered, with a ledger of what is done. -/
def SessionOps.audited (ops : SessionOps σ S) : SessionOps (σ × Ledger) (Nat × S) where
  openFor document := do
    match ← onFirst (ops.openFor document) with
    | none => return none
    | some session =>
      let (_, ledger) ← get
      modify fun (s, ledger) => (s, { ledger with opened := ledger.opened + 1 })
      return some (ledger.opened, session)
  checkpoint ahead :=
    zoom (fun ((s, _), (_, session)) => (s, session))
      (fun (s, session) ((_, ledger), (n, _)) => ((s, ledger), (n, session)))
      (ops.checkpoint ahead)
  close session := do
    onFirst (ops.close session.2)
    modify fun (s, ledger) => (s, { ledger with closed := ledger.closed ++ [session.1] })

end Audit

/-! ## The books -/

/-- The number of the session that each document has registered, and the ledger. -/
structure Books where
  registered : Sessions Nat
  ledger : Ledger

namespace Books

/-- The books where the session of a document, if it has one, has been closed. -/
def retire (books : Books) (document : Document) : Books where
  registered := books.registered.erase document
  ledger := { books.ledger with
    closed := books.ledger.closed ++ (books.registered.find? document).toList }

/-- The books where a document has a session that has just been opened. -/
def register (books : Books) (document : Document) : Books where
  registered := books.registered ++ [(document.key, books.ledger.opened)]
  ledger := { books.ledger with opened := books.ledger.opened + 1 }

/-- The books after a step. -/
def turn {σ : Type} (books : Books) (step : Step σ) : Books :=
  if step.opened then (books.retire step.document).register step.document
  else if step.call = .finish then books.retire step.document
  else books

theorem retire_of_find?_eq_none {books : Books} {document : Document}
    (h : books.registered.find? document = none) : books.retire document = books := by
  rw [retire, Sessions.erase_of_notMem (Sessions.find?_eq_none_iff.mp h), h]
  simp

end Books

/-- What the books say after some steps, with documents told apart by their numbers. -/
structure Account {σ : Type} (trace : List (Step σ)) (books : Books) : Prop where
  keys : (books.registered.map Prod.fst).Nodup
  stands : ∀ document n,
    books.registered.find? document = some n ↔ StandsIn Document.key trace document.key n
  opened : books.ledger.opened = openings trace
  closed : ∀ n, n ∈ books.ledger.closed ↔ RetiredIn Document.key trace n
  once : books.ledger.closed.Nodup
  active : books.registered.length + books.ledger.closed.length = books.ledger.opened

namespace Account

variable {σ : Type} {trace : List (Step σ)} {books : Books} {step : Step σ}

theorem nil : Account ([] : List (Step σ)) ⟨[], {}⟩ where
  keys := List.nodup_nil
  stands document n :=
    ⟨fun h => absurd h (by simp [Sessions.find?]), fun h => absurd h not_standsIn_nil⟩
  opened := rfl
  closed n := ⟨fun h => absurd h (by simp), fun h => absurd h not_retiredIn_nil⟩
  once := List.nodup_nil
  active := rfl

section Retire

variable (h : Account trace books) (hretires : step.Retires)

include h

/-- What a retired session leaves registered: the sessions of the other documents. -/
theorem find?_retire (document other : Document) (n : Nat) :
    (books.retire document).registered.find? other = some n ↔
      other.key ≠ document.key ∧ StandsIn Document.key trace other.key n := by
  by_cases hkey : other.key = document.key
  · have hnone : (books.retire document).registered.find? other = none :=
      (Sessions.find?_of_key hkey).trans (Sessions.find?_erase document _)
    simp [hnone, hkey]
  · have hkept : (books.retire document).registered.find? other = books.registered.find? other :=
      Sessions.find?_erase_of_ne hkey _
    simp [hkept, hkey, h.stands]

theorem once_retire (document : Document) : (books.retire document).ledger.closed.Nodup := by
  refine List.nodup_append.mpr ⟨h.once, by cases books.registered.find? document <;> simp, ?_⟩
  rintro n hclosed m hregistered rfl
  have hstands := (h.stands document n).mp (by simpa using hregistered)
  exact hstands.not_retiredIn ((h.closed n).mp hclosed)

theorem active_retire (document : Document) :
    (books.retire document).registered.length + (books.retire document).ledger.closed.length
      = books.ledger.opened := by
  have hlength : (books.registered.erase document).length
      + (books.registered.find? document).toList.length = books.registered.length :=
    Sessions.length_erase h.keys
  have hactive := h.active
  simp only [Books.retire, List.length_append]
  omega

include hretires

theorem closed_retire (n : Nat) :
    n ∈ (books.retire step.document).ledger.closed ↔
      RetiredIn Document.key (trace ++ [step]) n := by
  rw [retiredIn_append_singleton, ← h.closed, ← h.stands]
  simp [Books.retire, hretires]

end Retire

/-- **A document that gets a session**: the one before is retired, and the new one is registered. -/
theorem register (h : Account trace books) (hopened : step.opened = true) :
    Account (trace ++ [step]) ((books.retire step.document).register step.document) where
  keys := by
    have hkeys := Sessions.keys_erase h.keys step.document
    have hnot := Sessions.notMem_keys_erase books.registered step.document
    simp only [Books.register, Books.retire, List.map_append, List.map_cons, List.map_nil]
    refine List.nodup_append.mpr ⟨hkeys, by simp, ?_⟩
    rintro key hkey other hother rfl
    exact hnot (List.mem_singleton.mp hother ▸ hkey)
  stands document n := by
    have hretires : step.Retires := .inl hopened
    rw [standsIn_append_singleton]
    by_cases hkey : document.key = step.document.key
    · have hfind : ((books.retire step.document).register step.document).registered.find?
          document = some books.ledger.opened :=
        (Sessions.find?_of_key hkey).trans (Sessions.find?_erase_append _ step.document _)
      rw [hfind, h.opened]
      simp [hopened, hretires, hkey]
    · have hfind : ((books.retire step.document).register step.document).registered.find?
          document = books.registered.find? document :=
        Sessions.find?_erase_append_of_ne hkey _ _
      rw [hfind, h.stands]
      simp [Ne.symm hkey]
  opened := by
    rw [openings_append_singleton, if_pos hopened, ← h.opened]
    rfl
  closed := h.closed_retire (.inl hopened)
  once := h.once_retire step.document
  active := by
    have hactive := h.active_retire step.document
    have hledger : (books.retire step.document).ledger.opened = books.ledger.opened := rfl
    simp only [Books.register, List.length_append, List.length_singleton, hledger]
    omega

/-- **A document that ends**: its session is retired, if it has one. -/
theorem retire (h : Account trace books) (hopened : ¬ step.opened = true)
    (hfinish : step.call = .finish) :
    Account (trace ++ [step]) (books.retire step.document) where
  keys := Sessions.keys_erase h.keys step.document
  stands document n := by
    have hretires : step.Retires := .inr hfinish
    rw [h.find?_retire, standsIn_append_singleton]
    simp [hopened, hretires, eq_comm]
  opened := by
    rw [openings_append_singleton, if_neg hopened, ← h.opened]
    rfl
  closed := h.closed_retire (.inr hfinish)
  once := h.once_retire step.document
  active := h.active_retire step.document

/-- **Any other call** leaves the account as it is. -/
theorem keep (h : Account trace books) (hopened : ¬ step.opened = true)
    (hfinish : ¬ step.call = .finish) : Account (trace ++ [step]) books := by
  have hnot : ¬ step.Retires := fun hretires => hretires.elim hopened hfinish
  exact {
    keys := h.keys
    stands := fun document n => by
      rw [h.stands, standsIn_append_singleton]
      simp [hopened, hnot]
    opened := by rw [openings_append_singleton, if_neg hopened, h.opened, Nat.add_zero]
    closed := fun n => by
      rw [h.closed, retiredIn_append_singleton]
      simp [hnot]
    once := h.once
    active := h.active }

/-- **The account is kept up** from one call to the next. -/
theorem turn (h : Account trace books) (step : Step σ) :
    Account (trace ++ [step]) (books.turn step) := by
  rw [Books.turn]
  split
  · rename_i hopened
    exact h.register hopened
  · rename_i hopened
    split
    · rename_i hfinish
      exact h.retire hopened hfinish
    · rename_i hfinish
      exact h.keep hopened hfinish

end Account

/-! ## The audited sessions -/

section Audited

variable {σ S ℓ : Type} {ops : SessionOps σ S} {listener : Document → Listener ℓ}

/-- The state of audited sessions. -/
abbrev Audited (σ S : Type) := (σ × Ledger) × Sessions (Nat × S)

namespace Audited

/-- What the audit knows. -/
def books (a : Audited σ S) : Books := ⟨a.2.mapValues Prod.fst, a.1.2⟩

/-- The state without the audit. -/
def forget (a : Audited σ S) : σ × Sessions S := (a.1.1, a.2.mapValues Prod.snd)

variable (s : σ) (ledger : Ledger) (sessions : Sessions (Nat × S)) (document : Document)

theorem forget_began (n : Nat) (session : S) :
    forget ((s, ledger), sessions.erase document ++ [(document.key, (n, session))])
      = (s, (sessions.mapValues Prod.snd).erase document ++ [(document.key, session)]) := by
  rw [forget, Sessions.mapValues_append_singleton, Sessions.erase_mapValues]

theorem forget_ended :
    forget ((s, ledger), sessions.erase document)
      = (s, (sessions.mapValues Prod.snd).erase document) := by
  rw [forget, Sessions.erase_mapValues]

end Audited

/-- A session that is opened gets the next number. -/
theorem SessionOps.audited_openFor (document : Document) (s : σ) (ledger : Ledger) :
    ops.audited.openFor document (s, ledger) =
      match ops.openFor document s with
      | .error fault s' => .error fault (s', ledger)
      | .ok none s' => .ok none (s', ledger)
      | .ok (some session) s' => .ok (some (ledger.opened, session))
          (s', { ledger with opened := ledger.opened + 1 }) := by
  cases h : ops.openFor document s with
  | error fault s' => exact bind_error (onFirst_error h ledger) _
  | ok session? s' =>
    refine (bind_ok (onFirst_ok h ledger) _).trans ?_
    cases session? <;> rfl

theorem SessionOps.audited_close {session : S} {s s' : σ} (h : ops.close session s = .ok () s')
    (n : Nat) (ledger : Ledger) : ops.audited.close (n, session) (s, ledger)
      = .ok () (s', { ledger with closed := ledger.closed ++ [n] }) :=
  bind_ok (onFirst_ok h ledger) _

/-- **Asking for records**, with and without the audit. -/
theorem checkpoint_audited (ops : SessionOps σ S) (document : Document) (lexemes : List String)
    (a : Audited σ S) :
    ∃ (result : Except Fault (List Entity)) (a' : Audited σ S),
      outcome (Sessions.checkpoint ops.audited document lexemes) a = (result, a') ∧
      outcome (Sessions.checkpoint ops document lexemes) a.forget = (result, a'.forget) ∧
      ((a.2.map Prod.fst).Nodup → a'.books = a.books) := by
  obtain ⟨⟨s, ledger⟩, sessions⟩ := a
  have hvalues := Sessions.find?_mapValues (Prod.snd : Nat × S → S) document sessions
  by_cases hlexemes : lexemes = []
  · subst hlexemes
    exact ⟨_, _, outcome_ok Sessions.checkpoint_nil, outcome_ok Sessions.checkpoint_nil,
      fun _ => rfl⟩
  · rcases hfind : sessions.find? document with _ | ⟨n, session⟩
    · rw [hfind] at hvalues
      exact ⟨_, _, outcome_error (Sessions.checkpoint_none hlexemes hfind),
        outcome_error (Sessions.checkpoint_none hlexemes hvalues), fun _ => rfl⟩
    · rw [hfind] at hvalues
      have hcheckpoint : outcome (ops.audited.checkpoint lexemes) ((s, ledger), (n, session))
          = ((outcome (ops.checkpoint lexemes) (s, session)).1,
            ((outcome (ops.checkpoint lexemes) (s, session)).2.1, ledger),
            (n, (outcome (ops.checkpoint lexemes) (s, session)).2.2)) := outcome_zoom _ _ _ _
      refine ⟨_, _, Sessions.outcome_checkpoint hlexemes hfind,
        (Sessions.outcome_checkpoint hlexemes hvalues).trans ?_, fun hkeys => ?_⟩
      · rw [hcheckpoint]
        simp only [Audited.forget, ← Sessions.update_mapValues]
      · rw [hcheckpoint]
        have hsame : ∀ new, (sessions.update document (n, new)).mapValues Prod.fst
            = sessions.mapValues Prod.fst := by
          refine fun new => Sessions.mapValues_update Prod.fst hkeys fun old hold => ?_
          rw [← Option.some.inj (hfind.symm.trans hold)]
        exact congrArg (Books.mk · ledger) (hsame _)

/-- **Lexemes ahead of a document without a session** are refused. -/
theorem stepAt_missing (ops : SessionOps σ S) (listener : Document → Listener ℓ)
    {s : Audited σ S × ℓ} {document : Document} {lexemes : List String} (hlexemes : lexemes ≠ [])
    (hfind : s.1.2.find? document = none) :
    stepAt ((Sessions.feed ops.audited).perform listener) s document (.ahead lexemes)
      = ⟨document, .ahead lexemes, .error (.noSession document.shown), s, s⟩ := by
  obtain ⟨⟨⟨s, ledger⟩, sessions⟩, l⟩ := s
  have hcheckpoint : outcome (Sessions.checkpoint ops.audited document lexemes)
      ((s, ledger), sessions) = (.error (.noSession document.shown), (s, ledger), sessions) :=
    outcome_error (Sessions.checkpoint_none hlexemes hfind)
  simp only [stepAt, outcome_perform_ahead, Sessions.feed, hcheckpoint]
  rfl

/-- **Lexemes ahead of a document with a session** come to what its checkpoint and the listener
make of them. -/
theorem result_asked {s : Audited σ S × ℓ} {document : Document} {lexemes : List String} {n : Nat}
    {session : S} (hlexemes : lexemes ≠ []) (hfind : s.1.2.find? document = some (n, session)) :
    (stepAt ((Sessions.feed ops.audited).perform listener) s document (.ahead lexemes)).result
      = match (outcome (ops.checkpoint lexemes) (s.1.1.1, session)).1 with
        | .error fault => .error fault
        | .ok records =>
          (outcome (handAll (listener document) records) s.2).1.map fun _ => none := by
  obtain ⟨⟨⟨s, ledger⟩, sessions⟩, l⟩ := s
  have hcheckpoint : (outcome (Sessions.checkpoint ops.audited document lexemes)
      ((s, ledger), sessions)).1 = (outcome (ops.checkpoint lexemes) (s, session)).1 := by
    rw [Sessions.outcome_checkpoint hlexemes hfind]
    exact congrArg Prod.fst (outcome_zoom _ _ (ops.checkpoint lexemes) _)
  simp only [stepAt, outcome_perform_ahead, Sessions.feed, ← hcheckpoint]
  rcases outcome (Sessions.checkpoint ops.audited document lexemes) ((s, ledger), sessions) with
    ⟨fault | records, a'⟩ <;> rfl

variable (hclose : ∀ session s, ∃ s', ops.close session s = .ok () s')

include hclose

/-- **Beginning a document**, with and without the audit. -/
theorem begin_audited (document : Document) (a : Audited σ S) :
    ∃ (result : Except Fault Bool) (a' : Audited σ S),
      outcome (Sessions.begin ops.audited document) a = (result, a') ∧
      outcome (Sessions.begin ops document) a.forget = (result, a'.forget) ∧
      ((result = .ok true ∧ a'.books = (a.books.retire document).register document) ∨
        (result ≠ .ok true ∧ a'.books = a.books)) := by
  obtain ⟨⟨s, ledger⟩, sessions⟩ := a
  have haudited := ops.audited_openFor document s ledger
  rcases hopen : ops.openFor document s with ⟨_ | session, s₁⟩ | ⟨fault, s₁⟩
  · simp only [hopen] at haudited
    exact ⟨_, _, outcome_ok (Sessions.begin_none haudited), outcome_ok (Sessions.begin_none hopen),
      .inr ⟨by simp, rfl⟩⟩
  · simp only [hopen] at haudited
    have hvalues := Sessions.find?_mapValues (Prod.snd : Nat × S → S) document sessions
    have hnumbers := Sessions.find?_mapValues (Prod.fst : Nat × S → Nat) document sessions
    rcases hfind : sessions.find? document with _ | ⟨n, previous⟩
    · rw [hfind] at hvalues hnumbers
      refine ⟨_, _, outcome_ok (Sessions.begin_first haudited hfind),
        (outcome_ok (Sessions.begin_first hopen hvalues)).trans ?_, .inl ⟨rfl, ?_⟩⟩
      · rw [Audited.forget_began]
      · simp [Audited.books, Books.retire, Books.register, hnumbers, Sessions.erase_mapValues,
          Sessions.mapValues_append_singleton]
    · rw [hfind] at hvalues hnumbers
      obtain ⟨s₂, hprevious⟩ := hclose previous s₁
      have hlog := ops.audited_close hprevious n { ledger with opened := ledger.opened + 1 }
      refine ⟨_, _, outcome_ok (Sessions.begin_again haudited hfind hlog),
        (outcome_ok (Sessions.begin_again hopen hvalues hprevious)).trans ?_, .inl ⟨rfl, ?_⟩⟩
      · rw [Audited.forget_began]
      · simp [Audited.books, Books.retire, Books.register, hnumbers, Sessions.erase_mapValues,
          Sessions.mapValues_append_singleton]
  · simp only [hopen] at haudited
    exact ⟨_, _, outcome_error (Sessions.begin_error haudited),
      outcome_error (Sessions.begin_error hopen), .inr ⟨by simp, rfl⟩⟩

/-- **Ending a document**, with and without the audit. -/
theorem finish_audited (document : Document) (a : Audited σ S) :
    ∃ a' : Audited σ S, outcome (Sessions.finish ops.audited document) a = (.ok (), a') ∧
      outcome (Sessions.finish ops document) a.forget = (.ok (), a'.forget) ∧
      a'.books = a.books.retire document := by
  obtain ⟨⟨s, ledger⟩, sessions⟩ := a
  have hvalues := Sessions.find?_mapValues (Prod.snd : Nat × S → S) document sessions
  have hnumbers := Sessions.find?_mapValues (Prod.fst : Nat × S → Nat) document sessions
  rcases hfind : sessions.find? document with _ | ⟨n, session⟩
  · rw [hfind] at hvalues hnumbers
    refine ⟨_, outcome_ok (Sessions.finish_none hfind),
      (outcome_ok (Sessions.finish_none hvalues)).trans ?_, ?_⟩
    · rw [Audited.forget_ended]
    · simp [Audited.books, Books.retire, hnumbers, Sessions.erase_mapValues]
  · rw [hfind] at hvalues hnumbers
    obtain ⟨s₁, hsession⟩ := hclose session s
    have hlog := ops.audited_close hsession n ledger
    refine ⟨_, outcome_ok (Sessions.finish_some hfind hlog),
      (outcome_ok (Sessions.finish_some hvalues hsession)).trans ?_, ?_⟩
    · rw [Audited.forget_ended]
    · simp [Audited.books, Books.retire, hnumbers, Sessions.erase_mapValues]

/-- **A call without the audit** is the call with it, and the audit forgotten. -/
theorem goesAlong_forget (document : Document) (call : DocumentCall) :
    GoesAlong (Prod.map Audited.forget id)
      ((Sessions.feed ops.audited).perform listener document call)
      ((Sessions.feed ops).perform listener document call) := by
  refine goesAlong_perform ?_ ?_ ?_ document call
  · intro document a
    obtain ⟨result, a', haudited, hplain, -⟩ := begin_audited hclose document a
    exact hplain.trans (by rw [Sessions.feed, haudited])
  · intro document lexemes a
    obtain ⟨result, a', haudited, hplain, -⟩ := checkpoint_audited ops document lexemes a
    exact hplain.trans (by rw [Sessions.feed, haudited])
  · intro document a
    obtain ⟨a', haudited, hplain, -⟩ := finish_audited hclose document a
    exact hplain.trans (by rw [Sessions.feed, haudited])

/-- **A call enters the books** as it is read off. -/
theorem books_stepAt (s : Audited σ S × ℓ) (hkeys : (s.1.2.map Prod.fst).Nodup)
    (document : Document) (call : DocumentCall) :
    Audited.books
        (stepAt ((Sessions.feed ops.audited).perform listener) s document call).after.1
      = (Audited.books s.1).turn
          (stepAt ((Sessions.feed ops.audited).perform listener) s document call) := by
  obtain ⟨a, l⟩ := s
  cases call with
  | begin =>
    obtain ⟨result, a', haudited, -, hbooks⟩ := begin_audited hclose document a
    have hstep : stepAt ((Sessions.feed ops.audited).perform listener) (a, l) document .begin
        = ⟨document, .begin, result.map some, (a, l), (a', l)⟩ := by
      simp only [stepAt, outcome_perform_begin, Sessions.feed, haudited]
    rw [hstep]
    rcases hbooks with ⟨rfl, hbooks⟩ | ⟨hresult, hbooks⟩
    · exact hbooks
    · rcases result with fault | _ | _
      · exact hbooks
      · exact hbooks
      · exact absurd rfl hresult
  | ahead lexemes =>
    obtain ⟨result, a', haudited, -, hbooks⟩ := checkpoint_audited ops document lexemes a
    have hafter : (stepAt ((Sessions.feed ops.audited).perform listener) (a, l) document
        (.ahead lexemes)).after.1 = a' := by
      simp only [stepAt, outcome_perform_ahead, Sessions.feed, haudited]
      cases result <;> rfl
    rw [hafter]
    exact hbooks hkeys
  | finish =>
    obtain ⟨a', haudited, -, hbooks⟩ := finish_audited hclose document a
    have hstep : stepAt ((Sessions.feed ops.audited).perform listener) (a, l) document .finish
        = ⟨document, .finish, .ok none, (a, l), (a', l)⟩ := by
      simp only [stepAt, outcome_perform_finish, Sessions.feed, haudited]
      rfl
    rw [hstep]
    exact hbooks

end Audited

/-! ## Every session, from its opening to its end -/

section Lifecycle

variable {σ S ℓ : Type} (ops : SessionOps σ S) (listener : Document → Listener ℓ)

/-- The steps of a run of calls to audited sessions; in the beginning there are none. -/
def auditedSteps (s : σ) (l : ℓ) (calls : Calls) : List (Step (Audited σ S × ℓ)) :=
  steps ((Sessions.feed ops.audited).perform listener) (((s, {}), []), l) calls

/-- The sessions after a run of calls. -/
def auditedState (s : σ) (l : ℓ) (calls : Calls) : Audited σ S :=
  (reached ((Sessions.feed ops.audited).perform listener) (((s, {}), []), l) calls).1

/-- What a run of calls does to the sessions of its documents. -/
structure Lifecycle (s : σ) (l : ℓ) (calls : Calls) : Prop where
  /-- The audit changes nothing: forgotten, it leaves the run of the sessions themselves. -/
  plain : steps ((Sessions.feed ops).perform listener) ((s, []), l) calls
    = (auditedSteps ops listener s l calls).map (Step.map (Prod.map Audited.forget id))
  /-- There is one session at most under a number, -/
  single : ((auditedState ops listener s l calls).2.map Prod.fst).Nodup
  /-- and for a document with a number of its own, it is the one that stands for the document. -/
  registered : ∀ document, OwnsNumber (auditedSteps ops listener s l calls) document → ∀ n,
    (∃ session, (auditedState ops listener s l calls).2.find? document = some (n, session)) ↔
      Stands (auditedSteps ops listener s l calls) document n
  /-- A session that has been replaced or ended has been closed once, -/
  closed : ∀ n, Retired (auditedSteps ops listener s l calls) n →
    (auditedState ops listener s l calls).1.2.closed.count n = 1
  /-- and any other never. -/
  unclosed : ∀ n, ¬ Retired (auditedSteps ops listener s l calls) n →
    (auditedState ops listener s l calls).1.2.closed.count n = 0
  /-- The active sessions are those that have been opened and not closed. -/
  active : (auditedState ops listener s l calls).2.length
      + (auditedState ops listener s l calls).1.2.closed.length
    = openings (auditedSteps ops listener s l calls)
  /-- Lexemes ahead of a document for which no session stands are a runtime error, -/
  missing : ∀ before step after, auditedSteps ops listener s l calls = before ++ step :: after →
    ∀ lexemes, step.call = .ahead lexemes → lexemes ≠ [] →
    (∀ n, ¬ Stands before step.document n) →
    step.result = .error (.noSession step.document.shown) ∧
      (Fault.noSession step.document.shown).kind = .runtime ∧ step.after = step.before
  /-- and where one stands, they fail just as its checkpoint does, or the listener. -/
  asked : ∀ before step after, auditedSteps ops listener s l calls = before ++ step :: after →
    ∀ lexemes n, step.call = .ahead lexemes → lexemes ≠ [] → Stands before step.document n →
    ∃ session, step.before.1.2.find? step.document = some (n, session) ∧ step.result =
      match (outcome (ops.checkpoint lexemes) (step.before.1.1.1, session)).1 with
      | .error fault => .error fault
      | .ok records =>
        (outcome (handAll (listener step.document) records) step.before.2).1.map fun _ => none
  /-- A call that opens no session and ends none leaves the books as they are: so do lexemes ahead,
  whatever comes of them, a document that cannot begin, and one that ends again. -/
  steady : ∀ before step after, auditedSteps ops listener s l calls = before ++ step :: after →
    step.opened = false → (step.call = .finish → ∀ n, ¬ Stands before step.document n) →
    Audited.books step.after.1 = Audited.books step.before.1

variable {ops} (hclose : ∀ session s, ∃ s', ops.close session s = .ok () s')

include hclose

/-- **The books are right** after every run of calls. -/
theorem account_auditedState (s : σ) (l : ℓ) (calls : Calls) :
    Account (auditedSteps ops listener s l calls)
      (auditedState ops listener s l calls).books := by
  induction calls using List.reverseRecOn with
  | nil => exact Account.nil
  | append_singleton calls call ih =>
    obtain ⟨document, call⟩ := call
    have hkeys : ((auditedState ops listener s l calls).2.map Prod.fst).Nodup := by
      have hkeys := ih.keys
      rwa [Audited.books, Sessions.keys_mapValues] at hkeys
    have hturn := ih.turn (stepAt ((Sessions.feed ops.audited).perform listener)
      (reached ((Sessions.feed ops.audited).perform listener) (((s, {}), []), l) calls)
      document call)
    rw [auditedState, ← books_stepAt hclose _ hkeys] at hturn
    rw [auditedState, reached_append, auditedSteps, steps_append]
    exact hturn

theorem keys_auditedState (s : σ) (l : ℓ) (calls : Calls) :
    ((auditedState ops listener s l calls).2.map Prod.fst).Nodup := by
  have hkeys := (account_auditedState listener hclose s l calls).keys
  rwa [Audited.books, Sessions.keys_mapValues] at hkeys

/-- **The session under the number of a document** is the one that stands for the document, if
documents are kept and its number is its own. -/
theorem find?_auditedState_iff {s : σ} {l : ℓ} {calls : Calls}
    (hkeeps : KeepsDocuments (auditedSteps ops listener s l calls)) {document : Document}
    (howns : OwnsNumber (auditedSteps ops listener s l calls) document) (n : Nat) :
    (∃ session, (auditedState ops listener s l calls).2.find? document = some (n, session)) ↔
      Stands (auditedSteps ops listener s l calls) document n := by
  rw [← standsIn_key_iff_stands hkeeps howns,
    ← (account_auditedState listener hclose s l calls).stands, Audited.books,
    Sessions.find?_mapValues]
  simp

/-- **Every call finds the session that stands for its document**, or none. -/
theorem exists_call {s : σ} {l : ℓ} {calls : Calls}
    (hkeeps : KeepsDocuments (auditedSteps ops listener s l calls))
    {before after : List (Step (Audited σ S × ℓ))} {step : Step (Audited σ S × ℓ)}
    (hsteps : auditedSteps ops listener s l calls = before ++ step :: after) :
    ∃ earlier document call, before = auditedSteps ops listener s l earlier ∧
      step = stepAt ((Sessions.feed ops.audited).perform listener)
        (reached ((Sessions.feed ops.audited).perform listener) (((s, {}), []), l) earlier)
        document call ∧
      ∀ n, (∃ session, step.before.1.2.find? document = some (n, session)) ↔
        Stands before document n := by
  obtain ⟨earlier, document, call, -, -, rfl, rfl⟩ := exists_of_steps_eq_append _ hsteps
  have hbefore : KeepsDocuments (auditedSteps ops listener s l earlier) :=
    (hsteps ▸ hkeeps).of_append
  exact ⟨earlier, document, call, rfl, rfl,
    find?_auditedState_iff listener hclose hbefore (hkeeps _ _ _ hsteps)⟩

/-- **The life of sessions**: whatever the calls about documents that are kept while they have
sessions, a document has the session that it began with last, unless it has ended; every session is
closed once when it is replaced or ended, and never otherwise; and nothing else opens or closes
any. -/
theorem Sessions.lifecycle (s : σ) (l : ℓ) (calls : Calls)
    (hkeeps : KeepsDocuments (auditedSteps ops listener s l calls)) :
    Lifecycle ops listener s l calls := by
  have haccount := account_auditedState listener hclose s l calls
  have hnone : ∀ {sessions : Sessions (Nat × S)} {document : Document} {P : Nat → Prop},
      (∀ n, (∃ session, sessions.find? document = some (n, session)) ↔ P n) → (∀ n, ¬ P n) →
      sessions.find? document = none := fun hiff hnot =>
    Option.eq_none_iff_forall_ne_some.mpr fun ⟨n, session⟩ hfind =>
      hnot n ((hiff n).mp ⟨session, hfind⟩)
  exact {
    plain := steps_map (goesAlong_forget hclose) calls (((s, {}), []), l)
    single := keys_auditedState listener hclose s l calls
    registered := fun document howns => find?_auditedState_iff listener hclose hkeeps howns
    closed := fun n hretired => List.count_eq_one_of_mem haccount.once
      ((haccount.closed n).mpr ((retiredIn_key_iff hkeeps).mpr hretired))
    unclosed := fun n hretired => List.count_eq_zero_of_not_mem fun hclosed =>
      hretired ((retiredIn_key_iff hkeeps).mp ((haccount.closed n).mp hclosed))
    active := by
      have hactive := haccount.active
      rw [haccount.opened] at hactive
      simpa [Audited.books, Sessions.mapValues] using hactive
    missing := by
      intro before step after hsteps lexemes hcall hlexemes hstands
      obtain ⟨earlier, document, call, -, rfl, hfind⟩ := exists_call listener hclose hkeeps hsteps
      obtain rfl : call = .ahead lexemes := hcall
      have hmissing := stepAt_missing ops listener hlexemes (hnone hfind hstands)
      exact ⟨congrArg Step.result hmissing, rfl, congrArg Step.after hmissing⟩
    asked := by
      intro before step after hsteps lexemes n hcall hlexemes hstands
      obtain ⟨earlier, document, call, -, rfl, hfind⟩ := exists_call listener hclose hkeeps hsteps
      obtain rfl : call = .ahead lexemes := hcall
      obtain ⟨session, hsession⟩ := (hfind n).mpr hstands
      exact ⟨session, hsession, result_asked hlexemes hsession⟩
    steady := by
      intro before step after hsteps hopened hfinish
      obtain ⟨earlier, document, call, -, rfl, hfind⟩ := exists_call listener hclose hkeeps hsteps
      have hkeys := keys_auditedState listener hclose s l earlier
      rw [books_stepAt hclose _ hkeys, Books.turn, if_neg (by simpa using hopened)]
      by_cases hcall : call = .finish
      · refine (if_pos hcall).trans (Books.retire_of_find?_eq_none ?_)
        rw [Audited.books, Sessions.find?_mapValues]
        exact congrArg (Option.map Prod.fst) (hnone hfind (hfinish hcall))
      · exact if_neg hcall }

end Lifecycle

theorem Rehearsal.close_ok (rehearsal : Rehearsal) (session : String × List Cue)
    (events : List CueEvent) :
    ∃ events', rehearsal.ops.close session events = .ok () events' := ⟨_, rfl⟩

/-- A document, another one that goes by its number, and a rehearsal in which their sessions crash
on one lexeme. -/
def stormReport : Document := ⟨0, 0, "report", "storm"⟩

def stormReprint : Document := ⟨1, 0, "report", "storm"⟩

def stormRehearsal : Rehearsal where
  scripts := [("report", [⟨"storm", .error (.outside .runtime "crash" none)⟩])]

/-- The calls of a reader that crashes, begins again, and ends twice. -/
def stormCalls : Calls :=
  [(stormReport, .begin), (stormReport, .ahead ["storm"]), (stormReport, .begin),
    (stormReport, .finish), (stormReport, .finish)]

/-- When the first document has ended, the other one may come by its number. -/
theorem keepsDocuments_storm : KeepsDocuments (auditedSteps stormRehearsal.ops
    (fun _ => collector none) [] [] (stormCalls ++ [(stormReprint, .begin)])) := by
  have hreport : ∀ step ∈ auditedSteps stormRehearsal.ops (fun _ => collector none) [] []
      stormCalls, step.document = stormReport := by
    intro step hstep
    have hcall := mem_calls_of_mem_steps _ hstep
    simp only [stormCalls, List.mem_cons, Prod.mk.injEq, List.not_mem_nil, or_false] at hcall
    rcases hcall with h | h | h | h | h <;> exact h.1
  rw [auditedSteps, steps_append]
  refine KeepsDocuments.append_singleton (keepsDocuments_of_key_inj fun step hstep step' hstep' _ =>
    (hreport step hstep).trans (hreport step' hstep').symm) fun other n hstands _ => ?_
  obtain ⟨opening, hopening, rfl⟩ := hstands.exists_opening
  have hsplit : stormCalls = stormCalls.dropLast ++ [(stormReport, .finish)] := rfl
  rw [hreport opening hopening, hsplit, steps_append] at hstands
  rcases standsIn_append_singleton.mp hstands with ⟨-, hopened, -⟩ | ⟨hnot, -⟩
  · exact absurd hopened (by simp [Step.opened, stepAt])
  · exact absurd ⟨rfl, .inr rfl⟩ hnot

theorem lifecycle_storm :
    (∀ session events, ∃ events', stormRehearsal.ops.close session events = .ok () events') ∧
      KeepsDocuments (auditedSteps stormRehearsal.ops (fun _ => collector none) [] []
        (stormCalls ++ [(stormReprint, .begin)])) ∧
      Lifecycle stormRehearsal.ops (fun _ => collector none) [] []
        (stormCalls ++ [(stormReprint, .begin)]) :=
  ⟨stormRehearsal.close_ok, keepsDocuments_storm, Sessions.lifecycle (fun _ => collector none)
    stormRehearsal.close_ok [] [] _ keepsDocuments_storm⟩

/-- The steps of some calls to the rehearsed sessions. -/
def stormSteps (calls : Calls) :=
  steps ((Sessions.feed stormRehearsal.ops).perform fun _ => collector none) (([], []), []) calls

/-- **A runtime error does not tell that there is no session**: the session that is there may fail
with one of its own. And where a document has gone without its end, another one that comes by its
number finds its session, and gets no error. -/
theorem runtime_with_session_storm :
    (∃ before step after, stormSteps stormCalls = before ++ step :: after ∧
      step.call = .ahead ["storm"] ∧ Stands before step.document 0 ∧
        ∃ fault, step.result = .error fault ∧ fault.kind = .runtime) ∧
    ∃ before step after,
      stormSteps [(stormReport, .begin), (stormReprint, .ahead ["calm"])]
        = before ++ step :: after ∧
      step.call = .ahead ["calm"] ∧ (∀ n, ¬ Stands before step.document n) ∧
        step.result = .ok none := by
  refine ⟨⟨[_], _, _, rfl, rfl, ⟨[], _, [], rfl, rfl, rfl, rfl, by simp⟩, _, rfl, rfl⟩,
    [_], _, [], rfl, rfl, fun n hstands => ?_, rfl⟩
  obtain ⟨opening, hopening, hdocument⟩ := hstands.exists_opening
  obtain rfl := List.mem_singleton.mp hopening
  exact absurd hdocument (by decide)

end Gazetteer
