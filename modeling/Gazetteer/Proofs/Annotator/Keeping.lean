import Gazetteer.Proofs.Annotation.Filing
import Gazetteer.Proofs.Annotator.Search

/-!
# Proofs/Annotator/Keeping — the annotations that were there before

All that an annotator does to a corpus is to make annotations in one set of the document, one after
the other: at each place of the search (`filedFor_scan`), and so in the whole document
(`filedFor_annotate`). What this does to the annotations that were there is `execute_filed`: none is
changed, but one of the set whose id is drawn again gives its place away.
-/

namespace Gazetteer.Annotator

open Gazetteer.Action Corpus

variable {σ : Type}

theorem filing_mark (a : Annotator) (set : SetRef) (start stop : Nat) :
    ∀ (es : List Entity) (c : Corpus),
      Filing set c (a.mark set start stop es c).2 (a.mark set start stop es c).1
  | [], _ => .done _
  | _ :: es, _ => .create _ _ _ _ (filing_mark a set start stop es _)

/-- **Run**: scanning makes annotations in the set of the document. -/
theorem filedFor_scan (a : Annotator) (globals : Dictionary) {document : Document} (total : Nat)
    (feedAhead : Option (List String → Action (σ × Dictionary) Unit)) :
    ∀ (lexemes : List Lexeme) {locals : Dictionary} {s s' : σ} {c c' : Corpus}
      {refs : List AnnotationRef}, document.place < c.documents.size →
      a.scan globals document total feedAhead locals lexemes (s, c) = .ok refs (s', c') →
      FiledFor document a.output c c' refs
  | [], _, _, _, _, _, _, _, hscan => by
      rw [scan] at hscan
      obtain ⟨rfl, hstate⟩ := EStateM.Result.ok.inj hscan
      obtain ⟨-, rfl⟩ := Prod.mk.inj hstate
      exact .inl ⟨rfl, rfl⟩
  | l :: ls, locals, s, _, c, _, _, hd, hscan => by
      have hplace := outcome_ok hscan
      rcases hheard : outcome (heard feedAhead (windowOf total a.lookahead (l :: ls)) locals) s with
        ⟨fault | locals', s₁⟩
      · rw [outcome_scan_of_error hheard] at hplace
        exact absurd (congrArg Prod.fst hplace) (by simp)
      have hset : c.setOf document a.output
          = ((c.setOf document a.output).1, (c.setOf document a.output).2) := rfl
      have hfound : document.place < (c.setOf document a.output).2.documents.size :=
        (size_documents_setOf c document a.output).symm ▸ hd
      rw [outcome_scan_of_ok hheard hset] at hplace
      rcases hmatch : matchAt globals locals' (l :: ls) with _ | ⟨n, es⟩ <;> rw [hmatch] at hplace
      · exact .after_filing hd (.done _)
          (filedFor_scan a globals total feedAhead ls hfound (eq_ok_of_outcome hplace))
      · have hmark := filing_mark a (c.setOf document a.output).1 l.start (stopOf (l :: ls) n) es
          (c.setOf document a.output).2
        obtain ⟨others, hrest, rfl⟩ := exists_of_map_ok (eq_ok_of_outcome hplace)
        exact .after_filing hd hmark (filedFor_scan a globals total feedAhead (ls.drop (n - 1))
          (hmark.documents ▸ hfound) hrest)
termination_by lexemes => lexemes.length
decreasing_by
  · simp
  · simp only [List.length_drop, List.length_cons]; omega

/-- **So does annotating a document.** -/
theorem filedFor_annotate (a : Annotator) (globals : Dictionary) (feeding : Feeding σ)
    {document : Document} {s s' : σ} {c c' : Corpus} {refs : List AnnotationRef}
    (hd : document.place < c.documents.size)
    (h : a.annotate globals feeding document (s, c) = .ok refs (s', c')) :
    FiledFor document a.output c c' refs := by
  obtain ⟨fed, ⟨s₁, c₁⟩, hbegin, h⟩ := exists_of_bind_ok h
  obtain ⟨hbegin, rfl⟩ := onFirst_eq_ok hbegin
  cases fed with
  | false => exact filedFor_scan a globals _ none _ hd h
  | true =>
    obtain ⟨⟨s₂, c₂⟩, hscan, hfinish⟩ := exists_of_ensuring_ok h
    obtain ⟨-, rfl⟩ := onFirst_eq_ok hfinish
    exact filedFor_scan a globals _ _ _ hd hscan

/-- **What annotating does to the annotations that were there.** None is changed, and the sets that
the annotations do not go to stay as they are. The output set keeps all it held, in order, and grows
by the number of new annotations just if it holds nothing under an id that is now drawn; otherwise
the new annotation with that id takes the place of the old one. As long as all ids in the sets have
been drawn, none is lost, and this stays so. -/
theorem execute_filed (a : Annotator) {dictionary : Option Dictionary} {feeding : Feeding σ}
    {document : Document} {s s' : σ} {c c' : Corpus} {refs : List AnnotationRef} (hmade : c.Made)
    (hdocument : document.place < c.documents.size)
    (hrun : a.execute dictionary feeding document (s, c) = .ok refs (s', c')) :
    let set := (c.setOf document a.output).1
    c'.Made ∧ c.Filed c' set refs ∧
    ((c.setAt set).Gains (c'.setAt set) refs.length ↔
      ∀ m ∈ (c.setAt set).members, m.1 < c.nextId ∨ c.nextId + refs.length ≤ m.1) ∧
    (c.Counted → (c.setAt set).Gains (c'.setAt set) refs.length ∧ c'.Counted) := by
  cases dictionary with
  | none => exact absurd hrun throw_ne_ok
  | some globals =>
    have hfor := filedFor_annotate a globals feeding hdocument hrun
    have hmade' := hfor.made hmade
    have hfiled := hfor.filed hmade hdocument
    exact ⟨hmade', hfiled, hfiled.gains_iff (hmade.sound _),
      fun hcounted => hcounted.filed hmade.sound hmade'.sound hfiled⟩

/-- A log in which someone has marked a pilot, under the id that is drawn first. -/
def pilotCorpus : Corpus :=
  ((Corpus.addDocument {} 0 "log" "Varna").2.takeIn ⟨1, "Pilot", 0, 5, []⟩).2.put ⟨0⟩ ⟨0⟩

/-- Annotates the log with a dictionary of one port. -/
def markPort : Action (Unit × Corpus) (List AnnotationRef) :=
  execute { directory := default }
    (some (Dictionary.empty.insert "varna" (.ofStrings "v" "port" "Varna")))
    (Feeding.answering fun _ t => ([], t)) ⟨0, 0, "log", "Varna"⟩

/-- The port takes the place of the pilot, and the set does not grow. -/
theorem execute_filed_pilot :
    ∃ refs s' c', markPort ((), pilotCorpus) = .ok refs (s', c') ∧ refs.length = 1 ∧
      (pilotCorpus.setAt ⟨0⟩).size = 1 ∧ (c'.setAt ⟨0⟩).refs = refs ∧
      ¬ (pilotCorpus.setAt ⟨0⟩).Gains (c'.setAt ⟨0⟩) refs.length := by
  have hmade : pilotCorpus.Made :=
    ((Made.empty.addDocument 0 "log" "Varna").takeIn _).put ⟨0⟩ (by decide +kernel)
  obtain ⟨hresult, hset⟩ : (outcome markPort ((), pilotCorpus)).1.toOption = some [⟨1⟩] ∧
      ((outcome markPort ((), pilotCorpus)).2.2.setAt ⟨0⟩).refs = [⟨1⟩] := by
    decide +kernel
  rcases hrun : markPort ((), pilotCorpus) with ⟨refs, s', c'⟩ | ⟨fault, _⟩
  · rw [outcome_ok hrun] at hresult hset
    obtain rfl := Option.some.inj hresult
    obtain ⟨-, -, hgains, -⟩ := execute_filed { directory := default } hmade (by decide) hrun
    refine ⟨_, s', c', rfl, rfl, rfl, hset, fun h => ?_⟩
    exact absurd (hgains.mp h (1, ⟨0⟩) (by decide)) (by decide)
  · rw [outcome_error hrun] at hresult
    exact absurd hresult (by simp [Except.toOption])

end Gazetteer.Annotator
