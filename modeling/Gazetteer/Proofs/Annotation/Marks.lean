import Gazetteer.Annotation.Corpus

/-!
# Proofs/Annotation/Marks — annotations as they are read

An annotation is read through its mapping of features. Taking in a mapping changes nothing that is
read (`annotations_addFeatures`), for no annotation refers to what is not there; so an annotation
taken in comes after the others, which stay (`annotations_takeIn`). Changing the features of an
annotation changes what is read of those that share them with it, and of no other
(`markAt_updateFeatures`).
-/

namespace Gazetteer.Corpus

variable {c c' : Corpus} {ref ref' : AnnotationRef}

/-! ## Reading -/

@[simp] theorem size_annotations (c : Corpus) : c.annotations.size = c.marks.size :=
  Array.size_map ..

theorem getElem?_annotations (c : Corpus) (i : Nat) :
    c.annotations[i]? = c.marks[i]?.map c.read := Array.getElem?_map ..

theorem markAt_eq (c : Corpus) (ref : AnnotationRef) :
    c.markAt ref = c.annotations[ref.index]?.getD default := by
  rw [markAt, getElem?_annotations]

theorem markAt_of_getElem? {mark : Mark} (h : c.marks[ref.index]? = some mark) :
    c.markAt ref = c.read mark := by
  rw [markAt, h, Option.map_some, Option.getD_some]

theorem markAt_of_le (h : c.marks.size ≤ ref.index) : c.markAt ref = default := by
  rw [markAt, Array.getElem?_eq_none h, Option.map_none, Option.getD_none]

/-! ## Taking in -/

/-- **A mapping that is taken in** changes nothing that is read. -/
theorem annotations_addFeatures (c : Corpus) (members : List (String × Value)) :
    (c.addFeatures members).annotations = c.annotations := by
  refine Array.map_congr_left fun mark hmark => ?_
  have hindex := c.inRange mark hmark
  rw [read, read, featuresAt, featuresAt, addFeatures,
    Array.getElem?_push_lt hindex, Array.getElem?_eq_getElem hindex]

theorem annotations_takeInSharing (c : Corpus) {mark : Mark}
    (h : mark.features.index < c.features.size) :
    (c.takeInSharing mark h).2.annotations = c.annotations.push (c.read mark) := Array.map_push ..

/-- **An annotation that is taken in** comes after the others. -/
theorem annotations_takeIn (c : Corpus) (a : Annotation) :
    (c.takeIn a).2.annotations = c.annotations.push a := by
  have hread : (c.addFeatures a.features).read ⟨a.id, a.type, a.start, a.stop, ⟨c.features.size⟩⟩
      = a := by
    rw [read, featuresAt, addFeatures, Array.getElem?_push_size, Option.getD_some]
  rw [takeIn, annotations_takeInSharing, annotations_addFeatures, hread]

section Draw

variable (c : Corpus) (type : String) (start stop : Int) (features : List (String × Value))

theorem annotations_draw : (c.draw type start stop features).2.annotations
    = c.annotations.push ⟨c.nextId, type, start, stop, features⟩ := annotations_takeIn ..

@[simp] theorem sets_draw : (c.draw type start stop features).2.sets = c.sets := rfl

theorem index_draw : (c.draw type start stop features).1.index = c.annotations.size :=
  c.size_annotations.symm

theorem markAt_draw :
    (c.draw type start stop features).2.markAt (c.draw type start stop features).1
      = ⟨c.nextId, type, start, stop, features⟩ := by
  rw [markAt_eq, annotations_draw, index_draw, Array.getElem?_push_size, Option.getD_some]

end Draw

/-! ## Changing features -/

/-- Whether two annotations that are there refer to one mapping of features. -/
def Shares (c : Corpus) (ref ref' : AnnotationRef) : Prop :=
  ∃ features, c.featuresOf? ref = some features ∧ c.featuresOf? ref' = some features

instance : Decidable (c.Shares ref ref') :=
  decidable_of_iff (c.featuresOf? ref ≠ none ∧ c.featuresOf? ref = c.featuresOf? ref') (by
    rw [Shares]
    cases c.featuresOf? ref <;> simp [eq_comm])

theorem Shares.symm (h : c.Shares ref ref') : c.Shares ref' ref :=
  h.imp fun _ h => ⟨h.2, h.1⟩

theorem Shares.trans {ref'' : AnnotationRef} (h : c.Shares ref ref') (h' : c.Shares ref' ref'') :
    c.Shares ref ref'' := by
  obtain ⟨features, href, hfeatures⟩ := h
  obtain ⟨features', hfeatures', href''⟩ := h'
  obtain rfl := Option.some.inj (hfeatures.symm.trans hfeatures')
  exact ⟨features, href, href''⟩

theorem shares_self (h : ref.index < c.marks.size) : c.Shares ref ref :=
  ⟨c.marks[ref.index].features, by simp [featuresOf?, h], by simp [featuresOf?, h]⟩

theorem shares_congr (h : c'.marks = c.marks) : c'.Shares ref ref' ↔ c.Shares ref ref' := by
  simp only [Shares, featuresOf?, h]

/-- **Annotations that share their features** have the same ones. -/
theorem Shares.features_eq (h : c.Shares ref ref') :
    (c.markAt ref).features = (c.markAt ref').features := by
  have hfeatures : ∀ {ref : AnnotationRef} {features : FeaturesRef},
      c.featuresOf? ref = some features → (c.markAt ref).features = c.featuresAt features := by
    intro ref features hfeatures
    obtain ⟨mark, hmark, rfl⟩ := Option.map_eq_some_iff.mp hfeatures
    rw [markAt_of_getElem? hmark, read]
  obtain ⟨features, href, href'⟩ := h
  rw [hfeatures href, hfeatures href']

section Frame

variable (c : Corpus) (ref : AnnotationRef) (f : List (String × Value) → List (String × Value))

@[simp] theorem marks_updateFeatures : (c.updateFeatures ref f).marks = c.marks := by
  rw [updateFeatures]
  split <;> rfl

@[simp] theorem sets_updateFeatures : (c.updateFeatures ref f).sets = c.sets := by
  rw [updateFeatures]
  split <;> rfl

@[simp] theorem documents_updateFeatures : (c.updateFeatures ref f).documents = c.documents := by
  rw [updateFeatures]
  split <;> rfl

@[simp] theorem nextId_updateFeatures : (c.updateFeatures ref f).nextId = c.nextId := by
  rw [updateFeatures]
  split <;> rfl

end Frame

/-- **Changing the features of an annotation** changes those of all that share them with it, -/
theorem markAt_updateFeatures_of_shares (h : c.Shares ref' ref)
    (f : List (String × Value) → List (String × Value)) :
    (c.updateFeatures ref f).markAt ref'
      = { c.markAt ref' with features := f (c.markAt ref').features } := by
  obtain ⟨features, href', href⟩ := h
  obtain ⟨mark, hmark, rfl⟩ := Option.map_eq_some_iff.mp href'
  have hindex := c.inRange mark (Array.mem_of_getElem? hmark)
  rw [updateFeatures, href, markAt_of_getElem? (c := c.modifyFeatures _ f) hmark,
    markAt_of_getElem? hmark]
  simp [read, featuresAt, modifyFeatures, Array.getElem_modify, hindex]

/-- **and of no other.** -/
theorem markAt_updateFeatures_of_not_shares (h : ¬ c.Shares ref' ref)
    (f : List (String × Value) → List (String × Value)) :
    (c.updateFeatures ref f).markAt ref' = c.markAt ref' := by
  rw [updateFeatures]
  split
  · rename_i features href
    cases hmark : c.marks[ref'.index]? with
    | none => rw [markAt, markAt, modifyFeatures, hmark]; rfl
    | some mark =>
      have hne : features.index ≠ mark.features.index := fun hindex => by
        obtain rfl : features = mark.features := congrArg FeaturesRef.mk hindex
        exact h ⟨mark.features, by rw [featuresOf?, hmark]; rfl, href⟩
      rw [markAt_of_getElem? (c := c.modifyFeatures features f) hmark, markAt_of_getElem? hmark]
      simp [read, featuresAt, modifyFeatures, Array.getElem?_modify, hne]
  · rfl

/-- **Changing features to what they are** changes nothing. -/
theorem updateFeatures_of_eq {f : List (String × Value) → List (String × Value)}
    (h : f (c.markAt ref).features = (c.markAt ref).features) : c.updateFeatures ref f = c := by
  rw [updateFeatures]
  split
  · rename_i features href
    obtain ⟨mark, hmark, rfl⟩ := Option.map_eq_some_iff.mp href
    have hindex := c.inRange mark (Array.mem_of_getElem? hmark)
    have hsame : f c.features[mark.features.index] = c.features[mark.features.index] := by
      simpa [markAt_of_getElem? hmark, read, featuresAt, hindex] using h
    have hfeatures : c.features.modify mark.features.index f = c.features := by
      refine Array.ext_getElem? fun i => ?_
      rw [Array.getElem?_modify]
      by_cases hi : mark.features.index = i
      · subst hi
        rw [if_pos rfl, Array.getElem?_eq_getElem hindex, Option.map_some, hsame]
      · rw [if_neg hi]
    simp only [modifyFeatures, hfeatures]
  · rfl

end Gazetteer.Corpus
