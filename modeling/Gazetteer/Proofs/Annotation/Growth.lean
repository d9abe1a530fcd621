import Gazetteer.Proofs.Annotation.Marks

/-!
# Proofs/Annotation/Growth — a corpus that takes in annotations

`Grown` says all that happens to the annotations of a corpus when new ones are made: the old ones
stay in their places, the new ones follow, and their ids are drawn one after the other. It holds of
making one annotation (`grown_create`) and of finding the set for it (`grown_setOf`), and goes on
from one corpus to the next (`Grown.trans`).
-/

namespace Gazetteer.Corpus

/-- A corpus with more annotations at the end, and where these are. -/
structure Grown (c c' : Corpus) (refs : List AnnotationRef) (marks : List Annotation) : Prop where
  annotations : c'.annotations.toList = c.annotations.toList ++ marks
  refs : refs = (List.range' c.annotations.size marks.length).map AnnotationRef.mk
  nextId : c'.nextId = c.nextId + marks.length

namespace Grown

variable {c c' c'' : Corpus} {refs refs' : List AnnotationRef} {marks marks' : List Annotation}

theorem refl (c : Corpus) : Grown c c [] [] where
  annotations := (List.append_nil _).symm
  refs := rfl
  nextId := by simp

theorem size_annotations (h : Grown c c' refs marks) :
    c'.annotations.size = c.annotations.size + marks.length := by
  rw [← Array.length_toList, h.annotations, List.length_append, Array.length_toList]

/-- **Growing twice** is growing by both. -/
theorem trans (h : Grown c c' refs marks) (h' : Grown c' c'' refs' marks') :
    Grown c c'' (refs ++ refs') (marks ++ marks') where
  annotations := by rw [h'.annotations, h.annotations, List.append_assoc]
  refs := by
    rw [h.refs, h'.refs, h.size_annotations, List.length_append, ← List.map_append,
      List.range'_append_1]
  nextId := by
    rw [h'.nextId, h.nextId, List.length_append]
    omega

/-- **The new annotations stand where the references say.** -/
theorem map_markAt (h : Grown c c' refs marks) : refs.map c'.markAt = marks := by
  rw [h.refs, List.map_map]
  refine List.ext_getElem (by simp) fun i hi hi' => ?_
  rw [List.getElem_map, List.getElem_range', Nat.one_mul, Function.comp_apply, markAt_eq,
    ← Array.getElem?_toList, h.annotations,
    List.getElem?_append_right (by simp), Array.length_toList, Nat.add_sub_cancel_left,
    List.getElem?_eq_getElem hi', Option.getD_some]

end Grown

/-- **Step**: an annotation that is made comes last, with the next id. -/
theorem grown_create (c : Corpus) (set : SetRef) (type : String) (start stop : Int)
    (features : List (String × Value)) :
    Grown c (c.create set type start stop features).2 [(c.create set type start stop features).1]
      [⟨c.nextId, type, start, stop, features⟩] where
  annotations := by
    have hdraw := c.annotations_draw type start stop features
    exact (congrArg Array.toList hdraw).trans Array.toList_push
  refs := by
    rw [size_annotations]
    rfl
  nextId := rfl

theorem grown_setOf (c : Corpus) (d : Document) (name : Option String) :
    Grown c (c.setOf d name).2 [] [] := by
  unfold setOf
  split
  · exact Grown.refl c
  · exact Grown.refl c
  · dsimp only
    split
    · exact Grown.refl c
    · exact ⟨(List.append_nil _).symm, rfl, by simp [addSet]⟩

end Gazetteer.Corpus
