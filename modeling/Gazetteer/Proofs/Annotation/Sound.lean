import Gazetteer.Proofs.Annotation.Marks
import Gazetteer.Proofs.Value.Put
import Mathlib.Data.List.Nodup

/-!
# Proofs/Annotation/Sound — sets that hold annotations under their ids

Whatever is done to a corpus, each of its sets holds annotations that are there, each under its own
id, and no two under one id (`Made.sound`). So the annotations of a set can be told apart by their
ids (`AnnotationSet.Fits.idAt_inj`). Taking annotations out takes out what a set holds under their
ids (`removeAll_snd`), and counts all that were there (`removeAll_fst`).
-/

namespace Gazetteer

/-- Whether a set holds annotations of a corpus, each under its id, and no two under one id. -/
structure AnnotationSet.Fits (s : AnnotationSet) (c : Corpus) : Prop where
  inRange : ∀ m ∈ s.members, m.2.index < c.annotations.size
  key : ∀ m ∈ s.members, m.1 = (c.markAt m.2).id
  nodup : (s.members.map Prod.fst).Nodup

namespace Corpus

variable {c : Corpus} {set other : SetRef} {ref ref' : AnnotationRef}

/-- The id of an annotation. -/
def idAt (c : Corpus) (ref : AnnotationRef) : Int := (c.markAt ref).id

/-! ## What a change does to annotations and sets -/

theorem markAt_updateSet (f : AnnotationSet → AnnotationSet) :
    (c.updateSet set f).markAt ref = c.markAt ref := rfl

/-- A change that leaves an empty set as it is changes the set, and no other. -/
theorem setAt_updateSet {f : AnnotationSet → AnnotationSet} (hf : f {} = {}) :
    (c.updateSet set f).setAt other = if other = set then f (c.setAt set) else c.setAt other := by
  simp only [updateSet, setAt, Array.getElem?_modify]
  by_cases h : other = set
  · subst h
    rw [if_pos rfl, if_pos rfl]
    cases c.sets[other.index]? with
    | none => exact hf.symm
    | some s => rfl
  · have hindex : set.index ≠ other.index := fun hindex => h (congrArg SetRef.mk hindex).symm
    rw [if_neg hindex, if_neg h]

theorem setAt_updateSet_cases (c : Corpus) (set other : SetRef)
    (f : AnnotationSet → AnnotationSet) :
    (c.updateSet set f).setAt other = f (c.setAt other) ∨
      (c.updateSet set f).setAt other = c.setAt other := by
  simp only [updateSet, setAt, Array.getElem?_modify]
  by_cases h : set.index = other.index
  · rw [if_pos h]
    cases c.sets[other.index]? with
    | none => exact .inr rfl
    | some s => exact .inl rfl
  · rw [if_neg h]
    exact .inr rfl

theorem idAt_updateFeatures (f : List (String × Value) → List (String × Value)) :
    (c.updateFeatures ref f).idAt ref' = c.idAt ref' := by
  by_cases h : c.Shares ref' ref
  · rw [idAt, markAt_updateFeatures_of_shares h, idAt]
  · rw [idAt, markAt_updateFeatures_of_not_shares h, idAt]

/-! ## Finding a set -/

theorem marks_setOf (c : Corpus) (d : Document) (name : Option String) :
    (c.setOf d name).2.marks = c.marks := by
  unfold setOf
  split
  · rfl
  · rfl
  · dsimp only
    split <;> rfl

theorem markAt_setOf (c : Corpus) (d : Document) (name : Option String) :
    (c.setOf d name).2.markAt = c.markAt := by
  unfold setOf
  split
  · rfl
  · rfl
  · dsimp only
    split <;> rfl

/-- **The set that is found** is there, or is made without members; the others stay. -/
theorem setAt_setOf (c : Corpus) (d : Document) (name : Option String) :
    ((c.setOf d name).2.setAt (c.setOf d name).1).members = (c.setAt (c.setOf d name).1).members ∧
      ∀ other, other ≠ (c.setOf d name).1 → (c.setOf d name).2.setAt other = c.setAt other := by
  unfold setOf
  split
  · exact ⟨rfl, fun _ _ => rfl⟩
  · exact ⟨rfl, fun _ _ => rfl⟩
  · dsimp only
    split
    · exact ⟨rfl, fun _ _ => rfl⟩
    · refine ⟨by simp [setAt, addSet], fun other hother => ?_⟩
      have hindex : other.index ≠ c.sets.size := fun hindex => hother (congrArg SetRef.mk hindex)
      simp [setAt, addSet, Array.getElem?_push, hindex]

/-- The set of a document with a name, if it has been made. -/
def named? (c : Corpus) (d : Document) (name : String) : Option SetRef :=
  ((c.setsOf d).named.find? fun s => s.1 == name).map (·.2)

/-- The corpus with a new set of a name for a document. -/
def withNamed (c : Corpus) (d : Document) (name : String) : Corpus :=
  { (c.addSet { name := some name }).2 with
    documents := c.documents.modify d.place fun s =>
      { s with named := s.named ++ [(name, ⟨c.sets.size⟩)] } }

theorem setOf_named (c : Corpus) (d : Document) {name : String} (hname : name ≠ "") :
    c.setOf d (some name) = match c.named? d name with
      | some ref => (ref, c)
      | none => (⟨c.sets.size⟩, c.withNamed d name) := by
  unfold setOf
  split
  · exact absurd ‹_› (by simp)
  · exact absurd (Option.some.inj ‹_›) hname
  · rename_i heq
    obtain rfl := Option.some.inj heq
    rfl

theorem named?_withNamed {c : Corpus} {d : Document} {name : String}
    (hd : d.place < c.documents.size) (h : c.named? d name = none) :
    (c.withNamed d name).named? d name = some ⟨c.sets.size⟩ := by
  have hnamed : ((c.withNamed d name).setsOf d).named
      = (c.setsOf d).named ++ [(name, ⟨c.sets.size⟩)] := by
    simp [withNamed, setsOf, Array.getElem?_modify, Array.getElem?_eq_getElem hd]
  rw [named?, hnamed, List.find?_append, Option.map_eq_none_iff.mp h]
  simp

/-- **A set that has been found** is found again, as long as the documents stay the same. -/
theorem setOf_setOf {c c' : Corpus} {d : Document} (hd : d.place < c.documents.size)
    {name : Option String} (h : c'.documents = (c.setOf d name).2.documents) :
    c'.setOf d name = ((c.setOf d name).1, c') := by
  have hsets : c'.setsOf d = (c.setOf d name).2.setsOf d := by rw [setsOf, setsOf, h]
  cases name with
  | none => exact congrArg (fun sets : DocumentSets => (sets.unnamed, c')) hsets
  | some name =>
    by_cases hname : name = ""
    · subst hname
      exact congrArg (fun sets : DocumentSets => (sets.unnamed, c')) hsets
    · have hagain : c'.named? d name = (c.setOf d (some name)).2.named? d name := by
        rw [named?, named?, hsets]
      rw [setOf_named c' d hname, hagain, setOf_named c d hname]
      cases hfound : c.named? d name with
      | some ref => simp only [hfound]
      | none => simp only [named?_withNamed hd hfound]

end Corpus

/-! ## Sets that fit -/

namespace AnnotationSet.Fits

variable {c c' : Corpus} {ref : AnnotationRef} {s : AnnotationSet}

theorem empty (c : Corpus) (name : Option String) : Fits { name } c where
  inRange _ hm := absurd hm List.not_mem_nil
  key _ hm := absurd hm List.not_mem_nil
  nodup := List.nodup_nil

/-- **A set fits on** where the annotations stay in their places and keep their ids. -/
theorem of_ids (h : s.Fits c) (hsize : c.annotations.size ≤ c'.annotations.size)
    (hids : ∀ ref : AnnotationRef, ref.index < c.annotations.size → c'.idAt ref = c.idAt ref) :
    s.Fits c' where
  inRange m hm := Nat.lt_of_lt_of_le (h.inRange m hm) hsize
  key m hm := (h.key m hm).trans (hids m.2 (h.inRange m hm)).symm
  nodup := h.nodup

theorem put (h : s.Fits c) (href : ref.index < c.annotations.size) :
    (s.put (c.idAt ref) ref).Fits c where
  inRange m hm := by
    rcases Value.mem_of_mem_put hm with rfl | hm
    · exact href
    · exact h.inRange m hm
  key m hm := by
    rcases Value.mem_of_mem_put hm with rfl | hm
    · rfl
    · exact h.key m hm
  nodup := Value.nodup_keys_put h.nodup

theorem erase (h : s.Fits c) (id : Int) : (s.erase id).Fits c where
  inRange m hm := h.inRange m (List.mem_filter.mp hm).1
  key m hm := h.key m (List.mem_filter.mp hm).1
  nodup := h.nodup.sublist (List.filter_sublist.map _)

theorem map_idAt (h : s.Fits c) : s.refs.map c.idAt = s.members.map Prod.fst := by
  rw [refs, List.map_map]
  exact List.map_congr_left fun m hm => (h.key m hm).symm

theorem nodup_ids (h : s.Fits c) : (s.refs.map c.idAt).Nodup := h.map_idAt ▸ h.nodup

/-- **The annotations of a set** can be told apart by their ids. -/
theorem idAt_inj (h : s.Fits c) {ref ref' : AnnotationRef} (href : ref ∈ s.refs)
    (href' : ref' ∈ s.refs) (hid : c.idAt ref = c.idAt ref') : ref = ref' :=
  List.inj_on_of_nodup_map h.nodup_ids href href' hid

end AnnotationSet.Fits

namespace Corpus

variable {c c' : Corpus} {set : SetRef} {ref : AnnotationRef}

/-- Whether all sets of a corpus fit. -/
def Sound (c : Corpus) : Prop := ∀ set, (c.setAt set).Fits c

namespace Sound

/-- **A corpus stays sound** where annotations keep their places and ids and sets stay the same. -/
theorem of_ids (h : c.Sound) (hsize : c.annotations.size ≤ c'.annotations.size)
    (hids : ∀ ref : AnnotationRef, ref.index < c.annotations.size → c'.idAt ref = c.idAt ref)
    (hsets : c'.sets = c.sets) : c'.Sound := by
  intro set
  have hset : c'.setAt set = c.setAt set := by rw [setAt, setAt, hsets]
  exact hset ▸ (h set).of_ids hsize hids

theorem updateSet (h : c.Sound) {f : AnnotationSet → AnnotationSet}
    (hf : ∀ s, s.Fits c → (f s).Fits c) : (c.updateSet set f).Sound := by
  intro other
  have hfits : ((c.updateSet set f).setAt other).Fits c := by
    rcases setAt_updateSet_cases c set other f with hset | hset
    · exact hset ▸ hf _ (h other)
    · exact hset ▸ h other
  exact hfits.of_ids (Nat.le_refl _) fun _ _ => rfl

theorem addSet (h : c.Sound) (name : Option String) : (c.addSet { name }).2.Sound := by
  intro set
  have hset : (c.addSet { name }).2.setAt set = c.setAt set ∨
      (c.addSet { name }).2.setAt set = { name } := by
    simp only [Corpus.addSet, setAt, Array.getElem?_push]
    by_cases hindex : set.index = c.sets.size
    · rw [if_pos hindex]
      exact .inr rfl
    · rw [if_neg hindex]
      exact .inl rfl
  rcases hset with hset | hset
  · rw [hset]
    exact (h set).of_ids (Nat.le_refl _) fun _ _ => rfl
  · rw [hset]
    exact .empty _ name

/-- **A corpus stays sound** where more annotations come after the others. -/
theorem of_push (h : c.Sound) {a : Annotation}
    (hannotations : c'.annotations = c.annotations.push a) (hsets : c'.sets = c.sets) :
    c'.Sound := by
  refine h.of_ids (by rw [hannotations, Array.size_push]; omega) (fun ref href => ?_) hsets
  rw [idAt, idAt, markAt_eq, markAt_eq, hannotations, Array.getElem?_push_lt href,
    Array.getElem?_eq_getElem href]

theorem takeIn (h : c.Sound) (a : Annotation) : (c.takeIn a).2.Sound :=
  h.of_push (annotations_takeIn c a) rfl

theorem takeInSharing (h : c.Sound) {mark : Mark}
    (hmark : mark.features.index < c.features.size) : (c.takeInSharing mark hmark).2.Sound :=
  h.of_push (annotations_takeInSharing c hmark) rfl

theorem put (h : c.Sound) (href : ref.index < c.annotations.size) : (c.put set ref).Sound :=
  h.updateSet fun _ hs => hs.put href

theorem remove (h : c.Sound) (set : SetRef) (ref : AnnotationRef) : (c.remove set ref).2.Sound :=
  h.updateSet fun _ hs => hs.erase _

theorem setOf (h : c.Sound) (d : Document) (name : Option String) : (c.setOf d name).2.Sound := by
  unfold Corpus.setOf
  split
  · exact h
  · exact h
  · rename_i name _
    dsimp only
    split
    · exact h
    · exact (h.addSet (some name)).of_ids (Nat.le_refl _) (fun _ _ => rfl) rfl

theorem updateFeatures (h : c.Sound) (ref : AnnotationRef)
    (f : List (String × Value) → List (String × Value)) : (c.updateFeatures ref f).Sound :=
  h.of_ids (by simp) (fun _ _ => idAt_updateFeatures f) (by simp)

end Sound

/-- The corpora that can be made. Making an annotation in a set, and taking out several, go by these
steps. -/
inductive Made : Corpus → Prop where
  | empty : Made {}
  | addDocument {c : Corpus} (h : Made c) (key : Nat) (name content : String) :
      Made (c.addDocument key name content).2
  | addSet {c : Corpus} (h : Made c) (name : Option String) : Made (c.addSet { name }).2
  | setOf {c : Corpus} (h : Made c) (d : Document) (name : Option String) : Made (c.setOf d name).2
  | takeIn {c : Corpus} (h : Made c) (a : Annotation) : Made (c.takeIn a).2
  | takeInSharing {c : Corpus} (h : Made c) (mark : Mark)
      (hmark : mark.features.index < c.features.size) : Made (c.takeInSharing mark hmark).2
  | draw {c : Corpus} (h : Made c) (type : String) (start stop : Int)
      (features : List (String × Value)) : Made (c.draw type start stop features).2
  | put {c : Corpus} (h : Made c) (set : SetRef) {ref : AnnotationRef}
      (href : ref.index < c.annotations.size) : Made (c.put set ref)
  | remove {c : Corpus} (h : Made c) (set : SetRef) (ref : AnnotationRef) :
      Made (c.remove set ref).2
  | updateFeatures {c : Corpus} (h : Made c) (ref : AnnotationRef)
      (f : List (String × Value) → List (String × Value)) : Made (c.updateFeatures ref f)

theorem Made.create (h : Made c) (set : SetRef) (type : String) (start stop : Int)
    (features : List (String × Value)) : Made (c.create set type start stop features).2 :=
  (h.draw type start stop features).put set
    (by simp [Corpus.draw, Corpus.takeIn, Corpus.takeInSharing, addFeatures])

/-- **Every corpus that can be made is sound.** -/
theorem Made.sound (h : Made c) : c.Sound := by
  induction h with
  | empty => exact fun set => AnnotationSet.Fits.empty _ none
  | addDocument _ key name content ih =>
    exact (ih.addSet none).of_ids (Nat.le_refl _) (fun _ _ => rfl) rfl
  | addSet _ name ih => exact ih.addSet name
  | setOf _ d name ih => exact ih.setOf d name
  | @takeIn c _ a ih => exact ih.takeIn a
  | takeInSharing _ mark hmark ih => exact ih.takeInSharing hmark
  | @draw c _ type start stop features ih =>
    have hcounted : Sound { c with nextId := c.nextId + 1 } :=
      ih.of_ids (Nat.le_refl _) (fun _ _ => rfl) rfl
    exact hcounted.takeIn _
  | put _ set href ih => exact ih.put href
  | remove _ set ref ih => exact ih.remove set ref
  | updateFeatures _ ref f ih => exact ih.updateFeatures ref f

/-! ## Taking annotations out -/

theorem updateSet_updateSet (f g : AnnotationSet → AnnotationSet) :
    (c.updateSet set f).updateSet set g = c.updateSet set (g ∘ f) := by
  simp only [updateSet]
  refine congrArg (fun sets => { c with sets }) (Array.ext_getElem? fun i => ?_)
  simp only [Array.getElem?_modify]
  by_cases h : set.index = i <;> simp [h]

theorem updateSet_of_eq {f : AnnotationSet → AnnotationSet} (hf : ∀ s, f s = s) :
    c.updateSet set f = c := by
  refine congrArg (fun sets => { c with sets }) (Array.ext_getElem? fun i => ?_)
  rw [Array.getElem?_modify, funext hf, Option.map_id', ite_self]

/-- **Taking annotations out** takes out what the set holds under their ids. -/
theorem removeAll_snd (refs : List AnnotationRef) :
    (c.removeAll set refs).2 = c.updateSet set fun s =>
      { s with members := s.members.filter fun m => !(refs.map c.idAt).contains m.1 } := by
  induction refs generalizing c with
  | nil =>
    refine (updateSet_of_eq fun s => congrArg (AnnotationSet.mk s.name) ?_).symm
    exact List.filter_eq_self.mpr fun _ _ => rfl
  | cons ref rest ih =>
    have hrest : (c.removeAll set (ref :: rest)).2
        = ((c.updateSet set fun s => s.erase (c.idAt ref)).removeAll set rest).2 := rfl
    have hids : rest.map (c.updateSet set fun s => s.erase (c.idAt ref)).idAt
        = rest.map c.idAt := rfl
    rw [hrest, ih, hids, updateSet_updateSet]
    refine congrArg (c.updateSet set) (funext fun s => ?_)
    simp only [Function.comp_apply, AnnotationSet.erase, List.filter_filter]
    refine congrArg (AnnotationSet.mk s.name) (List.filter_congr fun m _ => ?_)
    rw [List.map_cons, List.contains_cons, Bool.not_or, Bool.and_comm]
    rfl

theorem holds_iff : c.holds set ref = true ↔ c.idAt ref ∈ (c.setAt set).members.map Prod.fst := by
  simp [holds, AnnotationSet.has, idAt]

/-- **The count of those taken out** is the number of annotations, if all are there and no two have
one id. -/
theorem removeAll_fst {refs : List AnnotationRef} (hnodup : (refs.map c.idAt).Nodup)
    (hheld : ∀ ref ∈ refs, c.holds set ref = true) : (c.removeAll set refs).1 = refs.length := by
  induction refs generalizing c with
  | nil => rfl
  | cons ref rest ih =>
    obtain ⟨hnew, hrest⟩ := List.nodup_cons.mp hnodup
    have hcount : (c.removeAll set (ref :: rest)).1
        = if c.holds set ref then
            ((c.updateSet set fun s => s.erase (c.idAt ref)).removeAll set rest).1 + 1
          else ((c.updateSet set fun s => s.erase (c.idAt ref)).removeAll set rest).1 := rfl
    rw [hcount, if_pos (hheld ref List.mem_cons_self), List.length_cons]
    refine congrArg (· + 1) (ih hrest fun ref' href' => ?_)
    have hne : c.idAt ref' ≠ c.idAt ref := fun heq => hnew (heq ▸ List.mem_map_of_mem href')
    rw [holds_iff, setAt_updateSet rfl, if_pos rfl]
    obtain ⟨m, hm, hid⟩ :=
      List.mem_map.mp (holds_iff.mp (hheld ref' (List.mem_cons_of_mem _ href')))
    exact List.mem_map.mpr ⟨m, List.mem_filter.mpr ⟨hm, by simp [hid, hne]⟩, hid⟩

end Corpus

end Gazetteer
