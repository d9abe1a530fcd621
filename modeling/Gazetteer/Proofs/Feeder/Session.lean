import Gazetteer.Feeder.Session
import Gazetteer.Proofs.Action

/-!
# Proofs/Feeder/Session — the session of a document

A document has the session that was put in last, and none after it is taken out; the sessions of
other documents stay (`find?_erase_of_ne`, `find?_update_of_ne`). What beginning, asking and ending
a document do is said case by case, by what the session operations do (`begin_again`,
`outcome_checkpoint`, `finish_some` and their like).
-/

namespace Gazetteer.Sessions

variable {S : Type}

theorem find?_erase (document : Document) : ∀ sessions : Sessions S,
    (erase sessions document).find? document = none
  | [] => rfl
  | (key, session) :: rest => by
      have ih := find?_erase document rest
      by_cases h : key = document.key
      · simpa [erase, h] using ih
      · simpa [erase, h, find?] using ih

theorem find?_append_of_none (document : Document) (session : S) : ∀ {sessions : Sessions S},
    sessions.find? document = none →
      find? (sessions ++ [(document.key, session)]) document = some session
  | [], _ => by simp [find?]
  | (key, _) :: rest, h => by
      by_cases hkey : key = document.key
      · simp [find?, hkey] at h
      · simp only [find?, if_neg hkey] at h
        simpa [find?, hkey] using find?_append_of_none document session h

/-- **A document that begins** has the new session. -/
theorem find?_erase_append (sessions : Sessions S) (document : Document) (session : S) :
    find? (sessions.erase document ++ [(document.key, session)]) document = some session :=
  find?_append_of_none document session (find?_erase document sessions)

/-- **A session that is replaced** is the document's from then on. -/
theorem find?_update (document : Document) (session : S) : ∀ {sessions : Sessions S} {old : S},
    sessions.find? document = some old →
      (update sessions document session).find? document = some session
  | (key, _) :: rest, _, h => by
      by_cases hkey : key = document.key
      · simp [update, find?, hkey]
      · simp only [find?, if_neg hkey] at h
        simpa [update, find?, hkey] using find?_update document session h

section Singleton

variable (document : Document) (session new : S)

@[simp] theorem find?_singleton : find? [(document.key, session)] document = some session :=
  if_pos rfl

@[simp] theorem update_singleton :
    update [(document.key, session)] document new = [(document.key, new)] :=
  congrArg (fun entry => [entry]) (if_pos rfl)

@[simp] theorem erase_singleton : erase [(document.key, session)] document = [] := by
  simp [erase]

end Singleton

theorem mem_of_find? {document : Document} : ∀ {sessions : Sessions S} {session : S},
    sessions.find? document = some session → (document.key, session) ∈ sessions
  | (key, _) :: rest, _, h => by
      by_cases hkey : key = document.key
      · simp only [find?, if_pos hkey, Option.some.injEq] at h
        simp [hkey, h]
      · simp only [find?, if_neg hkey] at h
        exact List.mem_cons_of_mem _ (mem_of_find? h)

theorem find?_of_key {sessions : Sessions S} {document other : Document}
    (h : other.key = document.key) : sessions.find? other = sessions.find? document := by
  induction sessions with
  | nil => rfl
  | cons entry rest ih => simp only [find?, h, ih]

section Other

variable {document other : Document} (hne : other.key ≠ document.key)

include hne

theorem find?_erase_of_ne (sessions : Sessions S) :
    (sessions.erase document).find? other = sessions.find? other := by
  induction sessions with
  | nil => rfl
  | cons entry rest ih =>
    by_cases h : entry.1 = document.key
    · have hentry : entry.1 ≠ other.key := fun heq => hne (heq.symm.trans h)
      have herase : erase (entry :: rest) document = erase rest document := by simp [erase, h]
      rw [herase, ih, find?, if_neg hentry]
    · have herase : erase (entry :: rest) document = entry :: erase rest document := by
        simp [erase, h]
      rw [herase, find?, find?, ih]

theorem find?_append_singleton_of_ne (session : S) (sessions : Sessions S) :
    find? (sessions ++ [(document.key, session)]) other = sessions.find? other := by
  induction sessions with
  | nil => exact if_neg (Ne.symm hne)
  | cons entry rest ih => simp only [List.cons_append, find?, ih]

/-- **The sessions of other documents** stay where a document begins, -/
theorem find?_erase_append_of_ne (sessions : Sessions S) (session : S) :
    find? (sessions.erase document ++ [(document.key, session)]) other = sessions.find? other :=
  (find?_append_singleton_of_ne hne session _).trans (find?_erase_of_ne hne sessions)

/-- **and where its session is replaced.** -/
theorem find?_update_of_ne (sessions : Sessions S) (session : S) :
    (sessions.update document session).find? other = sessions.find? other := by
  induction sessions with
  | nil => rfl
  | cons entry rest ih =>
    by_cases h : entry.1 = document.key
    · have hentry : entry.1 ≠ other.key := fun heq => hne (heq.symm.trans h)
      have hupdate : update (entry :: rest) document session
          = (entry.1, session) :: update rest document session := by simp [update, h]
      rw [hupdate, find?, find?, if_neg hentry, if_neg hentry, ih]
    · have hupdate : update (entry :: rest) document session
          = entry :: update rest document session := by simp [update, h]
      rw [hupdate, find?, find?, ih]

end Other

/-! ## One session for each document -/

theorem find?_eq_none_iff {document : Document} : ∀ {sessions : Sessions S},
    sessions.find? document = none ↔ document.key ∉ sessions.map Prod.fst
  | [] => by simp [find?]
  | (key, _) :: rest => by
      have ih : find? rest document = none ↔ document.key ∉ rest.map Prod.fst := find?_eq_none_iff
      by_cases h : key = document.key
      · simp [find?, h]
      · simpa [find?, h, Ne.symm h] using ih

theorem erase_of_notMem {document : Document} {sessions : Sessions S}
    (h : document.key ∉ sessions.map Prod.fst) : sessions.erase document = sessions := by
  refine List.filter_eq_self.mpr fun entry hentry => ?_
  have hne : entry.1 ≠ document.key := fun heq => h (heq ▸ List.mem_map_of_mem hentry)
  simpa using hne

theorem keys_erase {sessions : Sessions S} (h : (sessions.map Prod.fst).Nodup)
    (document : Document) : ((sessions.erase document).map Prod.fst).Nodup :=
  (List.filter_sublist.map Prod.fst).nodup h

theorem notMem_keys_erase (sessions : Sessions S) (document : Document) :
    document.key ∉ (sessions.erase document).map Prod.fst := by
  simp [erase]

/-- **Taking out a document** takes out its one session, if it has any. -/
theorem length_erase {document : Document} : ∀ {sessions : Sessions S},
    (sessions.map Prod.fst).Nodup →
      (sessions.erase document).length + (sessions.find? document).toList.length = sessions.length
  | [], _ => rfl
  | (key, session) :: rest, h => by
      obtain ⟨hkey, hrest⟩ := List.nodup_cons.mp h
      by_cases heq : key = document.key
      · have herase : erase ((key, session) :: rest) document = rest := by
          refine Eq.trans ?_ (erase_of_notMem (heq ▸ hkey))
          simp [erase, heq]
        rw [herase, find?, if_pos heq]
        rfl
      · have herase : erase ((key, session) :: rest) document
            = (key, session) :: erase rest document := by simp [erase, heq]
        have ih : (erase rest document).length + (find? rest document).toList.length
            = rest.length := length_erase hrest
        rw [herase, find?, if_neg heq, List.length_cons, List.length_cons]
        omega

/-! ## Sessions, seen through a map -/

section MapValues

variable {T : Type} (f : S → T)

/-- What a map makes of the sessions. -/
def mapValues (sessions : Sessions S) : Sessions T :=
  List.map (fun entry => (entry.1, f entry.2)) sessions

theorem find?_mapValues (document : Document) : ∀ sessions : Sessions S,
    (sessions.mapValues f).find? document = (sessions.find? document).map f
  | [] => rfl
  | (key, session) :: rest => by
      have ih := find?_mapValues document rest
      rw [mapValues] at ih
      by_cases h : key = document.key <;> simp [mapValues, find?, h, ih]

theorem erase_mapValues (sessions : Sessions S) (document : Document) :
    (sessions.mapValues f).erase document = (sessions.erase document).mapValues f := by
  simp only [erase, mapValues, List.filter_map]
  rfl

theorem mapValues_append_singleton (sessions : Sessions S) (key : Nat) (session : S) :
    mapValues f (sessions ++ [(key, session)]) = sessions.mapValues f ++ [(key, f session)] := by
  simp [mapValues]

theorem keys_mapValues (sessions : Sessions S) :
    (sessions.mapValues f).map Prod.fst = sessions.map Prod.fst := by
  simp [mapValues]

theorem update_mapValues (sessions : Sessions S) (document : Document) (session : S) :
    (sessions.mapValues f).update document (f session)
      = (sessions.update document session).mapValues f := by
  simp only [update, mapValues, List.map_map]
  refine List.map_congr_left fun entry _ => ?_
  by_cases h : entry.1 = document.key <;> simp [h]

/-- **Replacing a session** by one that looks the same changes nothing of what is seen. -/
theorem mapValues_update {document : Document} {new : S} : ∀ {sessions : Sessions S},
    (sessions.map Prod.fst).Nodup →
      (∀ old, sessions.find? document = some old → f new = f old) →
      (sessions.update document new).mapValues f = sessions.mapValues f
  | [], _, _ => rfl
  | (key, session) :: rest, hkeys, h => by
      obtain ⟨hkey, hrest⟩ := List.nodup_cons.mp hkeys
      by_cases heq : key = document.key
      · have hsame : f new = f session := h session (by rw [find?, if_pos heq])
        have hnone : find? rest document = none := find?_eq_none_iff.mpr (heq ▸ hkey)
        have ih : mapValues f (update rest document new) = mapValues f rest :=
          mapValues_update hrest fun old hold => absurd (hnone.symm.trans hold) (by simp)
        rw [mapValues, mapValues, update] at ih
        simp [mapValues, update, heq, hsame, ih]
      · have ih := mapValues_update hrest (by simpa [find?, heq] using h)
        rw [mapValues, mapValues, update] at ih
        simp [mapValues, update, heq, ih]

end MapValues

/-! ## What the calls about a document do -/

section Calls

open Gazetteer.Action

variable {σ : Type} {ops : SessionOps σ S} {document : Document} {s s₁ s₂ : σ}
  {sessions : Sessions S} {session previous : S} {fault : Fault} {ahead : List String}

theorem begin_error (h : ops.openFor document s = .error fault s₁) :
    begin ops document (s, sessions) = .error fault (s₁, sessions) :=
  bind_error (onFirst_error h sessions) _

theorem begin_none (h : ops.openFor document s = .ok none s₁) :
    begin ops document (s, sessions) = .ok false (s₁, sessions) :=
  bind_ok (onFirst_ok h sessions) _

theorem begin_first (h : ops.openFor document s = .ok (some session) s₁)
    (hfind : sessions.find? document = none) :
    begin ops document (s, sessions)
      = .ok true (s₁, sessions.erase document ++ [(document.key, session)]) := by
  rw [begin, bind_ok (onFirst_ok h sessions)]
  simp only [get_bind, modify_bind, hfind]
  rfl

theorem begin_again (h : ops.openFor document s = .ok (some session) s₁)
    (hfind : sessions.find? document = some previous)
    (hclose : ops.close previous s₁ = .ok () s₂) :
    begin ops document (s, sessions)
      = .ok true (s₂, sessions.erase document ++ [(document.key, session)]) := by
  rw [begin, bind_ok (onFirst_ok h sessions)]
  simp only [get_bind, modify_bind, hfind]
  exact bind_ok (onFirst_ok hclose _) _

theorem checkpoint_nil : checkpoint ops document [] (s, sessions) = .ok [] (s, sessions) := rfl

theorem checkpoint_none (hahead : ahead ≠ []) (hfind : sessions.find? document = none) :
    checkpoint ops document ahead (s, sessions)
      = .error (.noSession document.shown) (s, sessions) := by
  have hempty : ahead.isEmpty = false := by simpa using hahead
  simp only [checkpoint, hempty, Bool.false_eq_true, if_false, get_bind, hfind]
  rfl

/-- **Asking a document's session** is its own checkpoint, and the session is replaced by what the
checkpoint leaves of it. -/
theorem outcome_checkpoint (hahead : ahead ≠ []) (hfind : sessions.find? document = some session) :
    outcome (checkpoint ops document ahead) (s, sessions)
      = ((outcome (ops.checkpoint ahead) (s, session)).1,
        (outcome (ops.checkpoint ahead) (s, session)).2.1,
        sessions.update document (outcome (ops.checkpoint ahead) (s, session)).2.2) := by
  have hempty : ahead.isEmpty = false := by simpa using hahead
  have hbegin : checkpoint ops document ahead (s, sessions)
      = zoom (fun (s, _) => (s, session))
          (fun (s, session) (_, sessions) => (s, Sessions.update sessions document session))
          (ops.checkpoint ahead) (s, sessions) := by
    simp only [checkpoint, hempty, Bool.false_eq_true, if_false, get_bind, hfind]
  rw [outcome, hbegin]
  exact outcome_zoom _ _ _ _

theorem finish_none (hfind : sessions.find? document = none) :
    finish ops document (s, sessions) = .ok () (s, sessions.erase document) := by
  simp only [finish, get_bind, modify_bind, hfind]
  rfl

theorem finish_some (hfind : sessions.find? document = some session)
    (hclose : ops.close session s = .ok () s₁) :
    finish ops document (s, sessions) = .ok () (s₁, sessions.erase document) := by
  simp only [finish, get_bind, modify_bind, hfind]
  exact onFirst_ok hclose _

end Calls

end Gazetteer.Sessions
