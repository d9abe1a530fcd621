import Gazetteer.Proofs.Feeder.Calls
import Mathlib.Data.List.Induction

/-!
# Proofs/Feeder/Standing — which session a document has, read off the calls

A session stands for a document that has begun with it, until the document begins again or ends
(`Stands`, `Retired`). The sessions are numbered in the order they are opened.

A feeder tells documents apart by the numbers that they go by, and a document that is gone leaves
its number to others. So all is said for documents seen through a map (`StandsIn`, `RetiredIn`):
their numbers, or the documents themselves. The two come to the same as long as documents are kept
while they have sessions (`KeepsDocuments`, `standsIn_key_iff`, `retiredIn_key_iff`); without that,
a document can meet the session of one that is gone.
-/

namespace Gazetteer

variable {σ α : Type}

/-- Whether a step opened a session for its document. -/
def Step.opened (step : Step σ) : Bool :=
  match step.call, step.result with
  | .begin, .ok (some true) => true
  | _, _ => false

/-- Whether a step is the end of the session that its document has had so far. -/
def Step.Retires (step : Step σ) : Prop := step.opened = true ∨ step.call = .finish

/-- How many sessions some steps have opened. -/
def openings (trace : List (Step σ)) : Nat := trace.countP Step.opened

/-- Whether a session stands, after some steps, for the documents that look the same: one of them
began with it, and none has begun again or ended since. The session is given by its number. -/
def StandsIn (view : Document → α) (trace : List (Step σ)) (v : α) (n : Nat) : Prop :=
  ∃ before opening after, trace = before ++ opening :: after ∧ view opening.document = v ∧
    opening.opened = true ∧ openings before = n ∧
    ∀ later ∈ after, view later.document = v → ¬ later.Retires

/-- Whether a session has been replaced or ended in some steps: a document that looks like the one
that began with it has begun again or ended since. -/
def RetiredIn (view : Document → α) (trace : List (Step σ)) (n : Nat) : Prop :=
  ∃ before opening after, trace = before ++ opening :: after ∧ opening.opened = true ∧
    openings before = n ∧
    ∃ later ∈ after, view later.document = view opening.document ∧ later.Retires

/-- Whether a session stands for a document: the document has begun with it, and has neither begun
again nor ended since. -/
def Stands (trace : List (Step σ)) (document : Document) (n : Nat) : Prop :=
  StandsIn id trace document n

/-- Whether a session has been replaced or ended: its document has begun again or ended since. -/
def Retired (trace : List (Step σ)) (n : Nat) : Prop := RetiredIn id trace n

/-- Whether no session stands for another document that goes by the number of a document. -/
def OwnsNumber (trace : List (Step σ)) (document : Document) : Prop :=
  ∀ other n, Stands trace other n → other.key = document.key → other = document

/-- Whether documents are kept as long as they have sessions, so that none of the calls is about a
document that has come by the number of one with a session. -/
def KeepsDocuments (trace : List (Step σ)) : Prop :=
  ∀ before step after, trace = before ++ step :: after → OwnsNumber before step.document

/-! ## One more step -/

variable {view : Document → α} {trace : List (Step σ)} {step : Step σ} {v v' : α} {n : Nat}

theorem openings_append_singleton (trace : List (Step σ)) (step : Step σ) :
    openings (trace ++ [step]) = openings trace + if step.opened then 1 else 0 := by
  simp [openings, List.countP_append, List.countP_singleton]

theorem append_singleton_eq_append_cons {xs before after : List α} {x y : α}
    (h : xs ++ [x] = before ++ y :: after) :
    (xs = before ∧ x = y ∧ after = []) ∨
      ∃ rest, xs = before ++ y :: rest ∧ after = rest ++ [x] := by
  rcases List.eq_nil_or_concat after with rfl | ⟨rest, z, rfl⟩
  · obtain ⟨rfl, hxy⟩ := List.append_inj' h rfl
    exact .inl ⟨rfl, List.singleton_inj.mp hxy, rfl⟩
  · rw [List.concat_eq_append, ← List.cons_append, ← List.append_assoc] at h
    obtain ⟨rfl, hxz⟩ := List.append_inj' h rfl
    obtain rfl := List.singleton_inj.mp hxz
    exact .inr ⟨rest, rfl, List.concat_eq_append⟩

theorem not_standsIn_nil : ¬ StandsIn view ([] : List (Step σ)) v n := by
  rintro ⟨before, opening, after, heq, -⟩
  exact absurd heq (by simp)

theorem not_retiredIn_nil : ¬ RetiredIn view ([] : List (Step σ)) n := by
  rintro ⟨before, opening, after, heq, -⟩
  exact absurd heq (by simp)

/-- **One more step**: a session stands for a document if the step opened it, or if it stood before
and the step does not retire it. -/
theorem standsIn_append_singleton :
    StandsIn view (trace ++ [step]) v n ↔
      (view step.document = v ∧ step.opened = true ∧ openings trace = n) ∨
      (¬ (view step.document = v ∧ step.Retires) ∧ StandsIn view trace v n) := by
  constructor
  · rintro ⟨before, opening, after, heq, hview, hopened, hn, hafter⟩
    rcases append_singleton_eq_append_cons heq with ⟨rfl, rfl, rfl⟩ | ⟨rest, rfl, rfl⟩
    · exact .inl ⟨hview, hopened, hn⟩
    · refine .inr ⟨fun h => hafter step (by simp) h.1 h.2, before, opening, rest, rfl, hview,
        hopened, hn, fun later hlater => hafter later (by simp [hlater])⟩
  · rintro (⟨hview, hopened, hn⟩ | ⟨hnot, before, opening, after, rfl, hview, hopened, hn, hafter⟩)
    · exact ⟨trace, step, [], rfl, hview, hopened, hn, by simp⟩
    · refine ⟨before, opening, after ++ [step], by simp, hview, hopened, hn, ?_⟩
      intro later hlater hlaterView hretires
      rcases List.mem_append.mp hlater with hlater | hlater
      · exact hafter later hlater hlaterView hretires
      · obtain rfl := List.mem_singleton.mp hlater
        exact hnot ⟨hlaterView, hretires⟩

/-- **One more step**: it retires the session that stood for its document. -/
theorem retiredIn_append_singleton :
    RetiredIn view (trace ++ [step]) n ↔
      RetiredIn view trace n ∨ (step.Retires ∧ StandsIn view trace (view step.document) n) := by
  constructor
  · rintro ⟨before, opening, after, heq, hopened, hn, later, hlater, hview, hretires⟩
    rcases append_singleton_eq_append_cons heq with ⟨rfl, rfl, rfl⟩ | ⟨rest, rfl, rfl⟩
    · exact absurd hlater (by simp)
    · by_cases hrest : ∃ later ∈ rest, view later.document = view opening.document ∧ later.Retires
      · exact .inl ⟨before, opening, rest, rfl, hopened, hn, hrest⟩
      · rcases List.mem_append.mp hlater with hlater | hlater
        · exact absurd ⟨later, hlater, hview, hretires⟩ hrest
        · obtain rfl := List.mem_singleton.mp hlater
          refine .inr ⟨hretires, before, opening, rest, rfl, hview.symm, hopened, hn, ?_⟩
          exact fun later hlater hlaterView hretires =>
            hrest ⟨later, hlater, hlaterView.trans hview, hretires⟩
  · rintro (⟨before, opening, after, rfl, hopened, hn, later, hlater, hretires⟩ |
      ⟨hretires, before, opening, after, rfl, hview, hopened, hn, -⟩)
    · exact ⟨before, opening, after ++ [step], by simp, hopened, hn, later, by simp [hlater],
        hretires⟩
    · exact ⟨before, opening, after ++ [step], by simp, hopened, hn, step, by simp, hview.symm,
        hretires⟩

theorem StandsIn.lt_openings (h : StandsIn view trace v n) : n < openings trace := by
  obtain ⟨before, opening, after, rfl, -, hopened, rfl, -⟩ := h
  simp [openings, List.countP_append, hopened]

theorem RetiredIn.lt_openings (h : RetiredIn view trace n) : n < openings trace := by
  obtain ⟨before, opening, after, rfl, hopened, rfl, -⟩ := h
  simp [openings, List.countP_append, hopened]

/-! ## One document for each session -/

/-- **A session that stands** stands for documents that look the same, -/
theorem StandsIn.view_unique (h : StandsIn view trace v n) (h' : StandsIn view trace v' n) :
    v = v' := by
  induction trace using List.reverseRecOn with
  | nil => exact absurd h not_standsIn_nil
  | append_singleton trace step ih =>
    rcases standsIn_append_singleton.mp h with ⟨hview, -, hn⟩ | ⟨-, h⟩
    · rcases standsIn_append_singleton.mp h' with ⟨hview', -, -⟩ | ⟨-, h'⟩
      · exact hview.symm.trans hview'
      · exact absurd h'.lt_openings (by omega)
    · rcases standsIn_append_singleton.mp h' with ⟨-, -, hn⟩ | ⟨-, h'⟩
      · exact absurd h.lt_openings (by omega)
      · exact ih h h'

/-- **and has not been retired.** -/
theorem StandsIn.not_retiredIn (h : StandsIn view trace v n) : ¬ RetiredIn view trace n := by
  induction trace using List.reverseRecOn with
  | nil => exact absurd h not_standsIn_nil
  | append_singleton trace step ih =>
    intro hretired
    rcases standsIn_append_singleton.mp h with ⟨hview, -, hn⟩ | ⟨hnot, h⟩
    · rcases retiredIn_append_singleton.mp hretired with hretired | ⟨-, h'⟩
      · exact absurd hretired.lt_openings (by omega)
      · exact absurd h'.lt_openings (by omega)
    · rcases retiredIn_append_singleton.mp hretired with hretired | ⟨hretires, h'⟩
      · exact ih h hretired
      · exact hnot ⟨h'.view_unique h, hretires⟩

/-! ## Documents and their numbers -/

theorem Stands.exists_opening {document : Document} (h : Stands trace document n) :
    ∃ opening ∈ trace, opening.document = document := by
  obtain ⟨before, opening, after, rfl, hdocument, -⟩ := h
  exact ⟨opening, by simp, hdocument⟩

/-- Documents that all have numbers of their own are kept. -/
theorem keepsDocuments_of_key_inj (h : ∀ step ∈ trace, ∀ step' ∈ trace,
    step.document.key = step'.document.key → step.document = step'.document) :
    KeepsDocuments trace := by
  rintro before step after rfl other n hstands hkey
  obtain ⟨opening, hopening, rfl⟩ := hstands.exists_opening
  exact h opening (by simp [hopening]) step (by simp) hkey

theorem KeepsDocuments.append_singleton (h : KeepsDocuments trace)
    (howns : OwnsNumber trace step.document) : KeepsDocuments (trace ++ [step]) := by
  intro before step' after heq
  rcases append_singleton_eq_append_cons heq with ⟨rfl, rfl, -⟩ | ⟨rest, htrace, -⟩
  · exact howns
  · exact h before step' rest htrace

theorem KeepsDocuments.of_append {rest : List (Step σ)} (h : KeepsDocuments (trace ++ rest)) :
    KeepsDocuments trace := fun before step after heq =>
  h before step (after ++ rest) (by rw [heq, List.append_assoc, List.cons_append])

theorem KeepsDocuments.ownsNumber (h : KeepsDocuments (trace ++ [step])) :
    OwnsNumber trace step.document := h trace step [] rfl

/-- **Where documents are kept**, a session stands under a number just if it stands for a document
that goes by it. -/
theorem standsIn_key_iff (h : KeepsDocuments trace) {key : Nat} :
    StandsIn Document.key trace key n ↔
      ∃ document, document.key = key ∧ Stands trace document n := by
  induction trace using List.reverseRecOn generalizing key with
  | nil => exact ⟨fun h => absurd h not_standsIn_nil, fun ⟨_, _, h⟩ => absurd h not_standsIn_nil⟩
  | append_singleton trace step ih =>
    have howns := h.ownsNumber
    simp only [Stands, standsIn_append_singleton, ih h.of_append, id]
    constructor
    · rintro (⟨hkey, hopened⟩ | ⟨hnot, document, hkey, hstands⟩)
      · exact ⟨step.document, hkey, .inl ⟨rfl, hopened⟩⟩
      · exact ⟨document, hkey, .inr ⟨fun hretires => hnot ⟨hretires.1 ▸ hkey, hretires.2⟩, hstands⟩⟩
    · rintro ⟨document, hkey, ⟨rfl, hopened⟩ | ⟨hnot, hstands⟩⟩
      · exact .inl ⟨hkey, hopened⟩
      · refine .inr ⟨fun hretires => hnot ⟨?_, hretires.2⟩, document, hkey, hstands⟩
        exact (howns document n hstands (hkey.trans hretires.1.symm)).symm

/-- **A document that has its number to itself** has the session that stands under it. -/
theorem standsIn_key_iff_stands (h : KeepsDocuments trace) {document : Document}
    (howns : OwnsNumber trace document) :
    StandsIn Document.key trace document.key n ↔ Stands trace document n := by
  rw [standsIn_key_iff h]
  refine ⟨fun ⟨other, hkey, hstands⟩ => ?_, fun hstands => ⟨_, rfl, hstands⟩⟩
  rwa [← howns other n hstands hkey]

/-- **Where documents are kept**, a session is retired under its number just if its document is done
with it. -/
theorem retiredIn_key_iff (h : KeepsDocuments trace) :
    RetiredIn Document.key trace n ↔ Retired trace n := by
  induction trace using List.reverseRecOn with
  | nil => exact ⟨fun h => absurd h not_retiredIn_nil, fun h => absurd h not_retiredIn_nil⟩
  | append_singleton trace step ih =>
    rw [Retired, retiredIn_append_singleton, retiredIn_append_singleton, ih h.of_append,
      standsIn_key_iff_stands h.of_append h.ownsNumber]
    rfl

end Gazetteer
