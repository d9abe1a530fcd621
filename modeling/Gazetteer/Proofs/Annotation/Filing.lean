import Gazetteer.Proofs.Annotation.Growth
import Gazetteer.Proofs.Annotation.Sound

/-!
# Proofs/Annotation/Filing — new annotations among those of a set

`Filing` says that annotations are made in one set, one after the other. Each draws the next id and
is put under it. A set has no more than one annotation under an id, so an annotation that stands
there under an id that is drawn gives its place away (`Filing.refs`). None does as long as all ids
in the sets have been drawn before (`Counted`), but an annotation may also be given its id.
-/

namespace Gazetteer

/-- A set that has taken in annotations and lost none: those from before are there in their order,
and there are as many more as have been made. -/
structure AnnotationSet.Gains (before after : AnnotationSet) (count : Nat) : Prop where
  kept : before.refs.Sublist after.refs
  size : after.size = before.size + count

theorem AnnotationSet.has_eq (s : AnnotationSet) (id : Int) :
    s.has id = (s.members.map Prod.fst).contains id := by
  rw [has, List.contains_map]
  exact congrArg s.members.any (funext fun m => BEq.comm)

namespace Corpus

variable {c c' c'' : Corpus} {set other : SetRef} {refs refs' : List AnnotationRef}

/-! ## Documents know their sets -/

/-- Whether the sets of all documents are there. -/
def Linked (c : Corpus) : Prop :=
  ∀ sets ∈ c.documents, sets.unnamed.index < c.sets.size ∧
    ∀ s ∈ sets.named, s.2.index < c.sets.size

theorem Linked.of_size (h : c.Linked) (hdocuments : c'.documents = c.documents)
    (hsize : c.sets.size ≤ c'.sets.size) : c'.Linked := by
  intro sets hsets
  obtain ⟨hunnamed, hnamed⟩ := h sets (hdocuments ▸ hsets)
  exact ⟨Nat.lt_of_lt_of_le hunnamed hsize, fun s hs => Nat.lt_of_lt_of_le (hnamed s hs) hsize⟩

theorem Linked.setOf (h : c.Linked) (d : Document) (name : Option String) :
    (c.setOf d name).2.Linked := by
  unfold Corpus.setOf
  split
  · exact h
  · exact h
  · rename_i name _
    dsimp only
    split
    · exact h
    · have hadded : (c.addSet { name := some name }).2.Linked :=
        h.of_size rfl (by simp [addSet])
      intro sets hsets
      obtain ⟨i, hi, rfl⟩ := Array.mem_iff_getElem.mp hsets
      rw [Array.size_modify] at hi
      obtain ⟨hunnamed, hnamed⟩ := hadded _ (Array.getElem_mem hi)
      rw [Array.getElem_modify]
      split
      · refine ⟨hunnamed, fun s hs => ?_⟩
        rcases List.mem_append.mp hs with hs | hs
        · exact hnamed s hs
        · obtain rfl := List.mem_singleton.mp hs
          simp [addSet]
      · exact ⟨hunnamed, hnamed⟩

/-- **Every corpus that can be made** has the sets of its documents. -/
theorem Made.linked (h : c.Made) : c.Linked := by
  induction h with
  | empty => exact fun sets hsets => absurd hsets (Array.not_mem_empty sets)
  | @addDocument c _ key name content ih =>
    have hadded : (c.addSet {}).2.Linked := ih.of_size rfl (by simp [Corpus.addSet])
    intro sets hsets
    rcases Array.mem_push.mp hsets with hsets | rfl
    · exact hadded sets hsets
    · exact ⟨by simp [Corpus.addDocument, Corpus.addSet], fun s hs => absurd hs List.not_mem_nil⟩
  | addSet _ name ih => exact ih.of_size rfl (by simp [Corpus.addSet])
  | setOf _ d name ih => exact ih.setOf d name
  | takeIn _ a ih => exact ih.of_size rfl (Nat.le_refl _)
  | takeInSharing _ mark hmark ih => exact ih.of_size rfl (Nat.le_refl _)
  | draw _ type start stop features ih => exact ih.of_size rfl (Nat.le_refl _)
  | put _ set _ ih => exact ih.of_size rfl (by simp [Corpus.put, Corpus.updateSet])
  | remove _ set ref ih => exact ih.of_size rfl (by simp [Corpus.remove, Corpus.updateSet])
  | updateFeatures _ ref f ih => exact ih.of_size (by simp) (by simp)

/-- **The set that is found** for a document is there. -/
theorem Linked.setOf_lt (h : c.Linked) {d : Document} (hd : d.place < c.documents.size)
    (name : Option String) : (c.setOf d name).1.index < (c.setOf d name).2.sets.size := by
  have hsets : c.setsOf d = c.documents[d.place] := by
    rw [setsOf, Array.getElem?_eq_getElem hd, Option.getD_some]
  obtain ⟨hunnamed, hnamed⟩ := h (c.setsOf d) (hsets ▸ Array.getElem_mem hd)
  unfold Corpus.setOf
  split
  · exact hunnamed
  · exact hunnamed
  · dsimp only
    split
    · rename_i hfound
      obtain ⟨s, hs, rfl⟩ := Option.map_eq_some_iff.mp hfound
      exact hnamed s (List.mem_of_find?_eq_some hs)
    · simp [addSet]

/-! ## Making annotations in one set -/

/-- Annotations are made in a set, one after the other. -/
inductive Filing (set : SetRef) : Corpus → Corpus → List AnnotationRef → Prop where
  | done (c : Corpus) : Filing set c c []
  | create {c c' : Corpus} {refs : List AnnotationRef} (type : String) (start stop : Int)
      (features : List (String × Value)) :
      Filing set (c.create set type start stop features).2 c' refs →
      Filing set c c' ((c.create set type start stop features).1 :: refs)

/-- The ids that are drawn from a number on. -/
def drawnIds (first : Int) (count : Nat) : List Int :=
  (List.range count).map fun i : Nat => first + i

theorem drawnIds_succ (first : Int) (count : Nat) :
    drawnIds first (count + 1) = first :: drawnIds (first + 1) count := by
  rw [drawnIds, List.range_succ_eq_map, List.map_cons, List.map_map, drawnIds]
  refine congrArg₂ List.cons (by simp) (List.map_congr_left fun i _ => ?_)
  simp only [Function.comp_apply, Nat.succ_eq_add_one]
  omega

theorem mem_drawnIds {first id : Int} {count : Nat} :
    id ∈ drawnIds first count ↔ first ≤ id ∧ id < first + count := by
  rw [drawnIds, List.mem_map]
  constructor
  · rintro ⟨i, hi, rfl⟩
    have := List.mem_range.mp hi
    omega
  · rintro ⟨hle, hlt⟩
    exact ⟨(id - first).toNat, List.mem_range.mpr (by omega), by omega⟩

theorem nodup_drawnIds (first : Int) (count : Nat) : (drawnIds first count).Nodup :=
  List.nodup_range.map fun _ _ h => Int.ofNat_inj.mp (Int.add_left_cancel h)

theorem markAt_of_grown {marks : List Annotation} (h : c.Grown c' refs marks) {ref : AnnotationRef}
    (href : ref.index < c.annotations.size) : c'.markAt ref = c.markAt ref := by
  rw [markAt_eq, markAt_eq, ← Array.getElem?_toList, h.annotations,
    List.getElem?_append_left (by simpa using href), Array.getElem?_toList]

/-- **Step**: an annotation that is made is put under its id. -/
theorem setAt_create_self (hset : set.index < c.sets.size) (type : String) (start stop : Int)
    (features : List (String × Value)) :
    (c.create set type start stop features).2.setAt set
      = (c.setAt set).put c.nextId (c.create set type start stop features).1 := by
  simp [create, put, updateSet, setAt, markAt_draw, Array.getElem?_modify,
    Array.getElem?_eq_getElem hset]

theorem setAt_create_of_ne (h : other ≠ set) (type : String) (start stop : Int)
    (features : List (String × Value)) :
    (c.create set type start stop features).2.setAt other = c.setAt other := by
  have hindex : set.index ≠ other.index := fun hindex => h (congrArg SetRef.mk hindex).symm
  simp [create, put, updateSet, setAt, Array.getElem?_modify, hindex]

namespace Filing

theorem trans (h : Filing set c c' refs) (h' : Filing set c' c'' refs') :
    Filing set c c'' (refs ++ refs') := by
  induction h with
  | done => exact h'
  | create type start stop features _ ih => exact .create type start stop features (ih h')

theorem documents (h : Filing set c c' refs) : c'.documents = c.documents := by
  induction h with
  | done => rfl
  | create type start stop features _ ih => exact ih

/-- **The ids are drawn** one after the other. -/
theorem grown (h : Filing set c c' refs) : ∃ marks, c.Grown c' refs marks ∧
    marks.map Annotation.id = drawnIds c.nextId refs.length := by
  induction h with
  | done c => exact ⟨[], .refl c, rfl⟩
  | @create c c' refs type start stop features _ ih =>
    obtain ⟨marks, hgrown, hids⟩ := ih
    refine ⟨_, (c.grown_create set type start stop features).trans hgrown, ?_⟩
    rw [List.length_cons, drawnIds_succ]
    exact congrArg (List.cons c.nextId) hids

theorem ids (h : Filing set c c' refs) : refs.map c'.idAt = drawnIds c.nextId refs.length := by
  obtain ⟨marks, hgrown, hids⟩ := h.grown
  rw [← hids, ← hgrown.map_markAt, List.map_map]
  rfl

theorem nextId (h : Filing set c c' refs) : c'.nextId = c.nextId + refs.length := by
  obtain ⟨marks, hgrown, hids⟩ := h.grown
  rw [hgrown.nextId, hgrown.refs, List.length_map, List.length_range']

theorem size_annotations (h : Filing set c c' refs) :
    c'.annotations.size = c.annotations.size + refs.length := by
  obtain ⟨marks, hgrown, -⟩ := h.grown
  rw [hgrown.size_annotations, hgrown.refs, List.length_map, List.length_range']

/-- **No annotation is changed** that has been there. -/
theorem markAt (h : Filing set c c' refs) {ref : AnnotationRef}
    (href : ref.index < c.annotations.size) : c'.markAt ref = c.markAt ref := by
  obtain ⟨marks, hgrown, -⟩ := h.grown
  exact markAt_of_grown hgrown href

/-- **The other sets** stay as they are. -/
theorem setAt_of_ne (h : Filing set c c' refs) (hother : other ≠ set) :
    c'.setAt other = c.setAt other := by
  induction h with
  | done => rfl
  | create type start stop features _ ih => exact ih.trans (setAt_create_of_ne hother ..)

/-- **The set** has the new annotations put under their ids. -/
theorem members (h : Filing set c c' refs) (hset : set.index < c.sets.size) :
    (c'.setAt set).members
      = Value.putAll (refs.map fun ref => (c'.idAt ref, ref)) (c.setAt set).members := by
  induction h with
  | done => rfl
  | @create c c' refs type start stop features h ih =>
    have hcreate := c.grown_create set type start stop features
    have hsize : (c.create set type start stop features).2.sets.size = c.sets.size := by
      simp [Corpus.create, put, updateSet]
    have hid : c'.idAt (c.create set type start stop features).1 = c.nextId := by
      have hplace : (c.create set type start stop features).1.index
          < (c.create set type start stop features).2.annotations.size := by
        rw [hcreate.size_annotations]
        exact Nat.lt_succ_of_le (Nat.le_of_eq (c.index_draw type start stop features))
      rw [idAt, h.markAt hplace]
      exact congrArg Annotation.id (List.cons.inj hcreate.map_markAt).1
    rw [ih (hsize.symm ▸ hset), setAt_create_self hset, List.map_cons, hid]
    rfl

theorem made (h : Filing set c c' refs) (hmade : c.Made) : c'.Made := by
  induction h with
  | done => exact hmade
  | create type start stop features _ ih => exact ih (hmade.create _ type start stop features)

end Filing

/-! ## What becomes of the set -/

/-- The annotation that stands in the place of another one among new annotations: the one with its
id, and the other one itself if none has it. -/
def inPlaceOf (c : Corpus) (news : List AnnotationRef) (ref : AnnotationRef) : AnnotationRef :=
  (news.find? fun new => c.idAt new == c.idAt ref).getD ref

theorem idAt_inPlaceOf (c : Corpus) (news : List AnnotationRef) (ref : AnnotationRef) :
    c.idAt (c.inPlaceOf news ref) = c.idAt ref := by
  rw [inPlaceOf]
  cases hfound : news.find? fun new => c.idAt new == c.idAt ref with
  | none => rfl
  | some new =>
    exact beq_iff_eq.mp (List.find?_some (p := fun new => c.idAt new == c.idAt ref) hfound)

/-- What is left of a corpus in which annotations have been made in a set. -/
structure Filed (c c' : Corpus) (set : SetRef) (news : List AnnotationRef) : Prop where
  /-- There are as many more annotations as are new. -/
  size : c'.annotations.size = c.annotations.size + news.length
  /-- No annotation is changed that has been there. -/
  markAt : ∀ ref : AnnotationRef, ref.index < c.annotations.size → c'.markAt ref = c.markAt ref
  /-- The new ones have drawn the next ids. -/
  ids : news.map c'.idAt = drawnIds c.nextId news.length
  nextId : c'.nextId = c.nextId + news.length
  /-- The other sets are as they were. -/
  others : ∀ other, other ≠ set → c'.setAt other = c.setAt other
  /-- In the set, an annotation has given its place to a new one with its id; the other new ones
  come after all. -/
  refs : (c'.setAt set).refs = (c.setAt set).refs.map (c'.inPlaceOf news)
    ++ news.filter fun new => !(c.setAt set).has (c'.idAt new)

namespace Filed

theorem refl (c : Corpus) (set : SetRef) : c.Filed c set [] where
  size := rfl
  markAt _ _ := rfl
  ids := rfl
  nextId := (Int.add_zero _).symm
  others _ _ := rfl
  refs := by
    rw [List.filter_nil, List.append_nil]
    exact (List.map_id _).symm

theorem of_filing (h : Filing set c c' refs) (hset : set.index < c.sets.size)
    (hfits : (c.setAt set).Fits c) : c.Filed c' set refs where
  size := h.size_annotations
  markAt _ href := h.markAt href
  ids := h.ids
  nextId := h.nextId
  others _ hother := h.setAt_of_ne hother
  refs := by
    have hnews : ((refs.map fun ref => (c'.idAt ref, ref)).map Prod.fst).Nodup := by
      rw [List.map_map]
      exact h.ids ▸ nodup_drawnIds c.nextId refs.length
    rw [AnnotationSet.refs, h.members hset, Value.putAll_eq hnews hfits.nodup, List.map_append,
      AnnotationSet.refs, List.map_map, List.map_map, List.filter_map, List.map_map]
    refine congrArg₂ (· ++ ·) (List.map_congr_left fun m hm => ?_) ?_
    · have hid : c'.idAt m.2 = m.1 :=
        (congrArg Annotation.id (h.markAt (hfits.inRange m hm))).trans (hfits.key m hm).symm
      rw [Function.comp_apply, Function.comp_apply, inPlaceOf, hid, List.find?_map, Option.map_map]
      exact congrArg (fun found => Option.getD found m.2) Option.map_id'
    · refine (List.map_id _).trans (List.filter_congr fun new _ => ?_)
      rw [AnnotationSet.has_eq]
      rfl

/-- Finding the set first makes no difference. -/
theorem of_setOf {d : Document} {name : Option String}
    (h : (c.setOf d name).2.Filed c' (c.setOf d name).1 refs) :
    c.Filed c' (c.setOf d name).1 refs := by
  have hgrown := c.grown_setOf d name
  obtain ⟨hmembers, hothers⟩ := c.setAt_setOf d name
  have hnext : (c.setOf d name).2.nextId = c.nextId := by simpa using hgrown.nextId
  have hsize : (c.setOf d name).2.annotations.size = c.annotations.size := by
    simpa using hgrown.size_annotations
  have hhas : ((c.setOf d name).2.setAt (c.setOf d name).1).has
      = (c.setAt (c.setOf d name).1).has := by
    funext id
    rw [AnnotationSet.has, AnnotationSet.has, hmembers]
  have hrefs : ((c.setOf d name).2.setAt (c.setOf d name).1).refs
      = (c.setAt (c.setOf d name).1).refs := by
    rw [AnnotationSet.refs, AnnotationSet.refs, hmembers]
  exact {
    size := hsize ▸ h.size
    markAt := fun ref href => by rw [h.markAt ref (hsize.symm ▸ href), markAt_setOf]
    ids := hnext ▸ h.ids
    nextId := hnext ▸ h.nextId
    others := fun other hother => (h.others other hother).trans (hothers other hother)
    refs := by rw [h.refs, hhas, hrefs] }

/-- An annotation from before still has the id under which it stands. -/
theorem idAt_eq (h : c.Filed c' set refs) (hfits : (c.setAt set).Fits c) {m : Int × AnnotationRef}
    (hm : m ∈ (c.setAt set).members) : c'.idAt m.2 = m.1 :=
  (congrArg Annotation.id (h.markAt m.2 (hfits.inRange m hm))).trans (hfits.key m hm).symm

/-- The ids in the set are those from before, and drawn ones. -/
theorem id_cases (h : c.Filed c' set refs) (hfits : (c.setAt set).Fits c)
    (hfits' : (c'.setAt set).Fits c') {m : Int × AnnotationRef}
    (hm : m ∈ (c'.setAt set).members) :
    (∃ m' ∈ (c.setAt set).members, m'.1 = m.1) ∨ m.1 ∈ drawnIds c.nextId refs.length := by
  have hid : m.1 ∈ (c'.setAt set).refs.map c'.idAt := hfits'.map_idAt ▸ List.mem_map_of_mem hm
  obtain ⟨ref, href, hid⟩ := List.mem_map.mp hid
  rw [h.refs] at href
  rcases List.mem_append.mp href with hplace | hnew
  · obtain ⟨old, hold, rfl⟩ := List.mem_map.mp hplace
    obtain ⟨m', hm', rfl⟩ := List.mem_map.mp hold
    exact .inl ⟨m', hm', by rw [← h.idAt_eq hfits hm', ← hid, idAt_inPlaceOf]⟩
  · exact .inr (hid ▸ h.ids ▸ List.mem_map_of_mem (List.mem_of_mem_filter hnew))

/-- An id in the set is drawn again just if a new annotation has it. -/
theorem has_iff (h : c.Filed c' set refs) :
    (∀ new ∈ refs, (c.setAt set).has (c'.idAt new) = false) ↔
      ∀ m ∈ (c.setAt set).members, m.1 < c.nextId ∨ c.nextId + refs.length ≤ m.1 := by
  have hdrawn : ∀ id, (∃ new ∈ refs, c'.idAt new = id) ↔
      c.nextId ≤ id ∧ id < c.nextId + refs.length := fun id => by
    rw [← mem_drawnIds, ← h.ids, List.mem_map]
  constructor
  · intro hnone m hm
    refine Decidable.byContradiction fun hin => ?_
    obtain ⟨new, hnew, hid⟩ := (hdrawn m.1).mpr (by omega)
    have hhas := hnone new hnew
    rw [AnnotationSet.has_eq, hid, List.contains_eq_mem] at hhas
    exact of_decide_eq_false hhas (List.mem_map_of_mem hm)
  · intro hout new hnew
    have hin := (hdrawn (c'.idAt new)).mp ⟨new, hnew, rfl⟩
    rw [AnnotationSet.has_eq, List.contains_eq_mem]
    refine decide_eq_false fun hmem => ?_
    obtain ⟨m, hm, hid⟩ := List.mem_map.mp hmem
    have := hout m hm
    omega

/-- **Where no id is drawn again**, the new annotations follow those from before. -/
theorem refs_of_fresh (h : c.Filed c' set refs) (hfits : (c.setAt set).Fits c)
    (hnone : ∀ new ∈ refs, (c.setAt set).has (c'.idAt new) = false) :
    (c'.setAt set).refs = (c.setAt set).refs ++ refs := by
  have hstays : ∀ ref ∈ (c.setAt set).refs, c'.inPlaceOf refs ref = ref := by
    intro ref href
    obtain ⟨m, hm, rfl⟩ := List.mem_map.mp href
    have hid := h.idAt_eq hfits hm
    have hhas : (c.setAt set).has m.1 = true := by
      rw [AnnotationSet.has_eq]
      exact List.contains_iff_mem.mpr (List.mem_map_of_mem hm)
    have hfound : (refs.find? fun new => c'.idAt new == c'.idAt m.2) = none := by
      refine List.find?_eq_none.mpr fun new hnew heq => ?_
      have hsame : c'.idAt new = m.1 := (beq_iff_eq.mp heq).trans hid
      exact Bool.false_ne_true ((hnone new hnew).symm.trans (hsame ▸ hhas))
    rw [inPlaceOf, hfound, Option.getD_none]
  rw [h.refs, List.map_congr_left hstays, List.map_id',
    List.filter_eq_self.mpr fun new hnew => by rw [hnone new hnew, Bool.not_false]]

/-- **The set has lost none** just if no id in it is drawn again. -/
theorem gains_iff (h : c.Filed c' set refs) (hfits : (c.setAt set).Fits c) :
    (c.setAt set).Gains (c'.setAt set) refs.length ↔
      ∀ m ∈ (c.setAt set).members, m.1 < c.nextId ∨ c.nextId + refs.length ≤ m.1 := by
  rw [← h.has_iff]
  have hsize : ∀ s : AnnotationSet, s.size = s.refs.length := fun s => (List.length_map _).symm
  constructor
  · intro hgains new hnew
    have hlength := hgains.size
    rw [hsize, hsize, h.refs, List.length_append, List.length_map, Nat.add_left_cancel_iff,
      List.length_filter_eq_length_iff] at hlength
    simpa using hlength new hnew
  · intro hnone
    have hrefs := h.refs_of_fresh hfits hnone
    refine ⟨hrefs ▸ List.sublist_append_left _ _, ?_⟩
    rw [hsize, hsize, hrefs, List.length_append]

end Filed

/-! ## Ids that have been drawn -/

/-- Whether all ids in the sets have been drawn. -/
def Counted (c : Corpus) : Prop := ∀ set, ∀ m ∈ (c.setAt set).members, m.1 < c.nextId

/-- **Where all ids have been drawn**, no annotation is lost, and all ids have been drawn again. -/
theorem Counted.filed (h : c.Counted) (hsound : c.Sound) (hsound' : c'.Sound)
    (hfiled : c.Filed c' set refs) :
    (c.setAt set).Gains (c'.setAt set) refs.length ∧ c'.Counted := by
  have hnext := hfiled.nextId
  refine ⟨(hfiled.gains_iff (hsound set)).mpr fun m hm => .inl (h set m hm), fun other m hm => ?_⟩
  by_cases hother : other = set
  · subst hother
    rcases hfiled.id_cases (hsound other) (hsound' other) hm with ⟨m', hm', hid⟩ | hdrawn
    · have := h other m' hm'
      omega
    · have := (mem_drawnIds.mp hdrawn).2
      omega
  · rw [hfiled.others other hother] at hm
    have := h other m hm
    omega

/-! ## In the set of a document -/

/-- Annotations are made in the set of a document with a name, which is found first; or nothing has
been done at all. -/
def FiledFor (d : Document) (name : Option String) (c c' : Corpus) (refs : List AnnotationRef) :
    Prop :=
  (c' = c ∧ refs = []) ∨ Filing (c.setOf d name).1 (c.setOf d name).2 c' refs

theorem size_documents_setOf (c : Corpus) (d : Document) (name : Option String) :
    (c.setOf d name).2.documents.size = c.documents.size := by
  unfold setOf
  split
  · rfl
  · rfl
  · dsimp only
    split
    · rfl
    · exact Array.size_modify

namespace FiledFor

variable {d : Document} {name : Option String}

/-- **Step**: the set is found again, so what is made later goes to the same one. -/
theorem after_filing (hd : d.place < c.documents.size)
    (h : Filing (c.setOf d name).1 (c.setOf d name).2 c' refs)
    (h' : FiledFor d name c' c'' refs') : FiledFor d name c c'' (refs ++ refs') := by
  rw [FiledFor, setOf_setOf hd h.documents] at h'
  rcases h' with ⟨rfl, rfl⟩ | h'
  · rw [List.append_nil]
    exact .inr h
  · exact .inr (h.trans h')

theorem made (h : FiledFor d name c c' refs) (hmade : c.Made) : c'.Made := by
  rcases h with ⟨rfl, -⟩ | h
  · exact hmade
  · exact h.made (hmade.setOf d name)

theorem filed (h : FiledFor d name c c' refs) (hmade : c.Made) (hd : d.place < c.documents.size) :
    c.Filed c' (c.setOf d name).1 refs := by
  rcases h with ⟨rfl, rfl⟩ | h
  · exact .refl c' _
  · exact (Filed.of_filing h (hmade.linked.setOf_lt hd name)
      ((hmade.setOf d name).sound _)).of_setOf

end FiledFor

end Corpus

end Gazetteer
