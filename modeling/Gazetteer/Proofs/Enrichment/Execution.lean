import Gazetteer.Proofs.Enrichment.Scan
import Gazetteer.Proofs.Repository.Queries

/-!
# Proofs/Enrichment/Execution — a document enriched

`Enriches` says what an enrichment does to the annotations and sets of a document and what it
reports: every annotation of the set becomes what comes of it, those without relations are taken
out, and all else stays, except that annotations with the same mapping of features get the same
connections. A pass over a sound corpus does this (`exists_pass`), and so does an execution over a
repository that answers like a function (`execute_enriches`).
-/

namespace Gazetteer.Enrichment

open Gazetteer.Action Site

variable {σ : Type} {settings : EnrichmentSettings} {ask : String → Action σ Rows}
  {answer : String → Except Fault Rows} {P : σ → Prop} {c c' : Corpus} {set : SetRef}
  {p : Progress} {report : EnrichmentReport}

/-- The annotations of a set. -/
def marksOf (c : Corpus) (set : SetRef) : List Annotation := (c.setAt set).refs.map c.markAt

/-- Whether a corpus and a report are what an enrichment makes of a set of another corpus. -/
structure Enriches (settings : EnrichmentSettings) (answer : String → Except Fault Rows)
    (set : SetRef) (c c' : Corpus) (report : EnrichmentReport) : Prop where
  /-- Each annotation of the set that something comes of becomes what comes of it alone. -/
  becomes : ∀ ref ∈ (c.setAt set).refs, ∀ finding,
    finding? settings answer (c.markAt ref) = some finding →
    Becomes (c.markAt ref) finding (c'.markAt ref)
  /-- Connections go to those that are found some, and to those that share their features; all other
  annotations, wherever they are, stay the same. -/
  written : Written settings answer (c.setAt set).refs c c'
  /-- The set keeps those that are not to be removed, in their order. -/
  members : (c'.setAt set).members
    = (c.setAt set).members.filter fun m => !isRemoved (finding? settings answer (c.markAt m.2))
  /-- The other sets stay the same. -/
  others : ∀ other, other ≠ set → c'.setAt other = c.setAt other
  processed : report.processed
    = (marksOf c set).countP fun a => (subject? settings a).isSome
  enriched : report.enriched
    = (marksOf c set).countP fun a => isConnected (finding? settings answer a)
  deleted : report.deleted
    = (marksOf c set).countP fun a => isRemoved (finding? settings answer a)
  /-- There is one error for each failure, in the order of the annotations. -/
  errors : report.errors = (marksOf c set).filterMap (error? settings answer)

/-- Whether two corpora have the same documents with sets of the same names. -/
structure SameDocuments (c c' : Corpus) : Prop where
  documents : c'.documents = c.documents
  names : c'.sets.map AnnotationSet.name = c.sets.map AnnotationSet.name
  annotations : c'.annotations.size = c.annotations.size
  nextId : c'.nextId = c.nextId

/-! ## The annotations of the wanted types -/

theorem finding?_eq_none {a : Annotation} (h : settings.types.contains a.type = false) :
    finding? settings answer a = none := by
  rw [finding?, subject?, h, if_neg (by simp), Option.map_none]

theorem countP_filter_of_imp {α : Type} {q w : α → Bool} (h : ∀ a, w a = false → q a = false)
    (l : List α) : (l.filter w).countP q = l.countP q := by
  rw [List.countP_filter]
  refine List.countP_congr fun a _ => ?_
  cases hw : w a with
  | false => simp [h a hw]
  | true => simp

theorem filterMap_filter_of_imp {α β : Type} {f : α → Option β} {w : α → Bool}
    (h : ∀ a, w a = false → f a = none) (l : List α) :
    (l.filter w).filterMap f = l.filterMap f := by
  rw [List.filterMap_filter]
  refine List.filterMap_congr fun a _ => ?_
  cases hw : w a with
  | false => simp [h a hw]
  | true => simp

theorem map_markAt_select (c : Corpus) (set : SetRef) (types : List String) :
    (c.select set (some types)).map c.markAt
      = (marksOf c set).filter fun a => types.contains a.type := by
  rw [Corpus.select, marksOf, List.filter_map]
  rfl

theorem mem_select {types : List String} {ref : AnnotationRef} :
    ref ∈ c.select set (some types)
      ↔ ref ∈ (c.setAt set).refs ∧ types.contains (c.markAt ref).type = true := List.mem_filter

/-- **The report of the wanted types** is that of all annotations. -/
theorem Reports.of_select {r r' : EnrichmentReport}
    (h : Reports settings answer ((c.select set (some settings.types)).map c.markAt) r r') :
    Reports settings answer (marksOf c set) r r' := by
  rw [map_markAt_select] at h
  refine ⟨h.processed.trans ?_, h.enriched.trans ?_, h.deleted, h.errors.trans ?_⟩
  · rw [countP_filter_of_imp fun a ha => by rw [finding?_eq_none ha]; rfl]
  · rw [countP_filter_of_imp fun a ha => by rw [finding?_eq_none ha]; rfl]
  · rw [filterMap_filter_of_imp fun a ha => ?_]
    rw [error?, finding?_eq_none ha]
    cases subject? settings a <;> rfl

/-! ## A pass -/

section Scanned

variable (hsound : c.Sound)
  (h : Scanned settings answer (c.select set (some settings.types)) ⟨c, {}, []⟩ p)

include h in
theorem setAt_of_scanned (other : SetRef) : p.corpus.setAt other = c.setAt other := by
  rw [Corpus.setAt, Corpus.setAt, h.same.sets]

include h in
/-- Only annotations of the wanted types get connections for themselves. -/
theorem written_of_scanned : Written settings answer (c.setAt set).refs c p.corpus := by
  have hgets : ∀ {other text}, Gets settings answer c (c.setAt set).refs other text ↔
      Gets settings answer c (c.select set (some settings.types)) other text := by
    intro other text
    refine and_congr_right fun _ => exists_congr fun ref => ?_
    rw [mem_select, and_assoc]
    refine and_congr_right fun _ => ⟨fun h => ⟨?_, h⟩, fun h => h.2⟩
    exact Decidable.byContradiction fun hwanted => absurd h.2 (by
      rw [finding?_eq_none (Bool.eq_false_iff.mpr hwanted)]
      simp)
  exact ⟨fun other text hother => h.written.connected other text (hgets.mp hother),
    fun other hnot => h.written.others other fun text hother => hnot text (hgets.mpr hother),
    h.written.marks⟩

include h in
/-- **The annotations to be removed**, in their order. -/
theorem doomed_of_scanned : p.doomed = (c.setAt set).refs.filter fun ref =>
    isRemoved (finding? settings answer (c.markAt ref)) := by
  rw [h.doomed, List.nil_append, Corpus.select, List.filter_filter]
  refine List.filter_congr fun ref _ => ?_
  cases hwanted : settings.types.contains (c.markAt ref).type with
  | false =>
    rw [finding?_eq_none hwanted]
    rfl
  | true => rw [Bool.and_true]

include h hsound in
/-- **The set without the annotations to be removed**: these alone are gone. -/
theorem members_removeAll_of_scanned :
    ((p.corpus.removeAll set p.doomed).2.setAt set).members
      = (c.setAt set).members.filter fun m =>
        !isRemoved (finding? settings answer (c.markAt m.2)) := by
  have hids : p.doomed.map p.corpus.idAt = p.doomed.map c.idAt :=
    List.map_congr_left fun ref _ => h.written.idAt_eq ref
  rw [Corpus.removeAll_snd, Corpus.setAt_updateSet rfl, if_pos rfl, setAt_of_scanned h, hids]
  refine List.filter_congr fun m hm => congrArg Bool.not (Bool.eq_iff_iff.mpr ?_)
  have hmem : m.2 ∈ (c.setAt set).refs := List.mem_map_of_mem hm
  have hkey : m.1 = c.idAt m.2 := (hsound set).key m hm
  rw [List.contains_iff_mem, List.mem_map, doomed_of_scanned h]
  constructor
  · rintro ⟨ref, href, hid⟩
    obtain ⟨href, hremoved⟩ := List.mem_filter.mp href
    obtain rfl : ref = m.2 := (hsound set).idAt_inj href hmem (hid.trans hkey)
    exact hremoved
  · exact fun hremoved => ⟨m.2, List.mem_filter.mpr ⟨hmem, hremoved⟩, hkey.symm⟩

include h hsound in
/-- **The count of the annotations that are gone.** -/
theorem removeAll_fst_of_scanned : (p.corpus.removeAll set p.doomed).1
    = (marksOf c set).countP fun a => isRemoved (finding? settings answer a) := by
  have hids : p.corpus.idAt = c.idAt := funext h.written.idAt_eq
  have hsublist : p.doomed.Sublist (c.setAt set).refs := by
    rw [doomed_of_scanned h]
    exact List.filter_sublist
  have hnodup : (p.doomed.map p.corpus.idAt).Nodup := by
    rw [hids]
    exact (hsound set).nodup_ids.sublist (hsublist.map _)
  have hheld : ∀ ref ∈ p.doomed, p.corpus.holds set ref = true := by
    intro ref href
    rw [Corpus.holds_iff, setAt_of_scanned h, hids, ← (hsound set).map_idAt]
    exact List.mem_map_of_mem (hsublist.subset href)
  rw [Corpus.removeAll_fst hnodup hheld, doomed_of_scanned h, ← List.countP_eq_length_filter,
    marksOf, List.countP_map]
  rfl

include h hsound in
/-- **A scan and the removals after it** make of the set what an enrichment does. -/
theorem enriches_of_scanned :
    Enriches settings answer set c (p.corpus.removeAll set p.doomed).2
      { p.report with deleted := (p.corpus.removeAll set p.doomed).1 } where
  becomes ref href finding hfinding := by
    rw [Corpus.removeAll_snd, Corpus.markAt_updateSet]
    exact (written_of_scanned h).becomes href hfinding
  written := by
    rw [Corpus.removeAll_snd]
    exact ⟨(written_of_scanned h).connected, (written_of_scanned h).others, h.written.marks⟩
  members := members_removeAll_of_scanned hsound h
  others other hother := by
    rw [Corpus.removeAll_snd, Corpus.setAt_updateSet rfl, if_neg hother, setAt_of_scanned h]
  processed := by
    refine h.report.of_select.processed.trans ((Int.zero_add _).trans ?_)
    simp only [finding?, Option.isSome_map]
  enriched := h.report.of_select.enriched.trans (Int.zero_add _)
  deleted := congrArg Nat.cast (removeAll_fst_of_scanned hsound h)
  errors := h.report.of_select.errors

include h in
theorem sameDocuments_of_scanned : SameDocuments c (p.corpus.removeAll set p.doomed).2 := by
  rw [Corpus.removeAll_snd]
  refine ⟨h.same.documents, ?_, ?_, h.same.nextId⟩
  · refine Array.ext_getElem? fun i => ?_
    rw [Array.getElem?_map, Array.getElem?_map, Corpus.updateSet, Array.getElem?_modify,
      h.same.sets]
    split
    · rw [Option.map_map]
      rfl
    · rfl
  · rw [Corpus.size_annotations, Corpus.size_annotations]
    exact congrArg Array.size h.written.marks

end Scanned

/-- Without removals in the settings, nothing is to be removed. -/
theorem isRemoved_eq_false (h : settings.deleteWithoutRelations = false) (a : Annotation) :
    isRemoved (finding? settings answer a) = false := by
  rw [finding?]
  cases subject? settings a with
  | none => rfl
  | some inst =>
    rw [Option.map_some, finding]
    split
    · rfl
    · split
      · rfl
      · rfl
      · rw [h]
        rfl
      · rfl

/-- **A pass** makes of a set of a sound corpus what an enrichment does. -/
theorem exists_pass (settings : EnrichmentSettings) (hask : Answers ask answer P) {s : σ} (hs : P s)
    (hsound : c.Sound) (set : SetRef) :
    ∃ s' c' report, P s' ∧ pass settings ask set (s, c) = .ok report (s', c') ∧
      Enriches settings answer set c c' report ∧ SameDocuments c c' := by
  obtain ⟨s', p, hs', hscanned, hrun⟩ := exists_scan hask hs ⟨c, {}, []⟩ fun ref href =>
    (mem_select.mp href).2
  refine ⟨s', _, _, hs', ?_, enriches_of_scanned hsound hscanned,
    sameDocuments_of_scanned hscanned⟩
  rw [pass, get_bind]
  dsimp only
  rw [bind_ok hrun]
  cases hdelete : settings.deleteWithoutRelations with
  | true => rfl
  | false =>
    have hdoomed : p.doomed = [] := by
      rw [doomed_of_scanned hscanned]
      exact List.filter_eq_nil_iff.mpr fun ref _ => by simp [isRemoved_eq_false hdelete]
    have hdeleted : p.report.deleted = 0 := hscanned.report.deleted
    rw [hdoomed]
    exact congrArg (fun deleted : Int => EStateM.Result.ok { p.report with deleted } (s', p.corpus))
      hdeleted

/-! ## An execution -/

/-- **Finding the set first** changes nothing that an enrichment depends on. -/
theorem Enriches.of_setOf {document : Document} {name : Option String}
    (h : Enriches settings answer (c.setOf document name).1 (c.setOf document name).2 c' report) :
    Enriches settings answer (c.setOf document name).1 c c' report := by
  obtain ⟨hmembers, hsets⟩ := Corpus.setAt_setOf c document name
  have hmark := Corpus.markAt_setOf c document name
  have hrefs : ((c.setOf document name).2.setAt (c.setOf document name).1).refs
      = (c.setAt (c.setOf document name).1).refs := congrArg (List.map Prod.snd) hmembers
  obtain ⟨hbecomes, hwritten, hkept, hothers, hprocessed, henriched, hdeleted, herrors⟩ := h
  rw [marksOf, hrefs, hmark] at hprocessed henriched hdeleted herrors
  rw [hrefs, hmark] at hbecomes
  rw [hmembers, hmark] at hkept
  have hmarks := Corpus.marks_setOf c document name
  exact ⟨hbecomes, hrefs ▸ hwritten.of_same hmark hmarks, hkept, fun other hother =>
    (hothers other hother).trans (hsets other hother), hprocessed, henriched, hdeleted, herrors⟩

theorem answers_evaluate (connection : ConnectionId) (answer : String → Except Fault Rows) :
    Answers (fun query => Site.evaluate connection query) answer
      fun site => site.Serves connection answer := by
  intro site hserves query
  obtain ⟨site', houtcome, hasks⟩ := hserves.outcome_evaluate query
  exact ⟨site', houtcome, hasks.serves hserves⟩

/-- **An execution** over a repository that answers like a function enriches the set of the
document and gives the report; where no connection can be opened, it fails, and the annotations
stay. -/
theorem execute_enriches {enrichment : Enrichment} {id : RepositoryId}
    (hrepository : enrichment.repository = some id) (hsound : c.Sound)
    (settings : EnrichmentSettings) (document : Document) (site : Site) :
    (∃ fault site', site.answersOf id = .error fault ∧
      enrichment.execute settings document (site, c)
        = .error fault (site', (c.setOf document settings.input).2)) ∨
    ∃ answer site' c' report, site.answersOf id = .ok answer ∧
      enrichment.execute settings document (site, c) = .ok report (site', c') ∧
      Enriches settings answer (c.setOf document settings.input).1 c c' report ∧
      SameDocuments (c.setOf document settings.input).2 c' := by
  have hbegin : enrichment.execute settings document (site, c)
      = (onFirst (Site.connect id) >>= fun connection =>
          ensuring (pass settings (fun query => Site.evaluate connection query)
              (c.setOf document settings.input).1)
            (onFirst (Site.closeConnection connection)))
          (site, (c.setOf document settings.input).2) := by
    rw [execute, hrepository]
    rfl
  rw [hbegin, answersOf]
  rcases connect_cases site id with ⟨backend, site₁, hbackend, hconnect, hsame, hconnections⟩ |
    ⟨fault, site₁, hbackend, hconnect, -, -⟩
  · have hopens : Opens backend site site₁ := ⟨hsame, hconnections⟩
    obtain ⟨site₂, c', report, hserves, hpass, henriches, hdocuments⟩ :=
      exists_pass settings (answers_evaluate _ _) hopens.serves_new
        (hsound.setOf document settings.input) (c.setOf document settings.input).1
    obtain ⟨site₃, hclose, -⟩ := exists_closes hserves
    refine .inr ⟨site.reply backend, site₃, c', report, by rw [hbackend]; rfl, ?_,
      henriches.of_setOf, hdocuments⟩
    rw [bind_ok (onFirst_ok hconnect _), ensuring_ok hpass (onFirst_ok hclose c')]
  · refine .inl ⟨fault, site₁, by rw [hbackend]; rfl, ?_⟩
    exact bind_error (onFirst_error hconnect _) _

/-- A table with relations of one town, a failure after a row for a second, and no rows for others,
at a site without files. -/
def townSite : Site :=
  { Site.bare with repositories := #[.table ⟨[
    ⟨"varna", .ok ⟨[[(.string "x", .string "sea"), (.string "y", .null)],
      [(.string "x", .string "port"), (.string "y", .int 3)]], none⟩⟩,
    ⟨"burgas", .ok ⟨[[(.string "x", .string "salt")]], some .connectionClosed⟩⟩], none, 0, []⟩] }

/-- A document with two towns, a person, a town with a number for its name, and a third town. In
another set of the document there are the first town and a second person, who has its features. -/
def townDocument : Document := ⟨0, 0, "log", "Varna, Burgas"⟩

def townMarks : Corpus :=
  [("Lookup", .string "varna"), ("Lookup", .string "burgas"), ("Person", .string "varna"),
    ("Lookup", .int 3), ("Lookup", .string "ruse")].foldl
      (fun c mark => (c.create ⟨0⟩ mark.1 0 1 [("inst", mark.2)]).2)
      (Corpus.addDocument {} 0 "log" "Varna, Burgas").2

def townCorpus : Corpus :=
  (((townMarks.setOf townDocument (some "first")).2.takeInSharing ⟨6, "Person", 0, 1, ⟨0⟩⟩
    (by decide +kernel)).2.put ⟨1⟩ ⟨0⟩).put ⟨1⟩ ⟨5⟩

theorem made_townMarks : townMarks.Made :=
  List.foldlRecOn _ _ (.addDocument .empty _ _ _) fun _ hmade _ _ => hmade.create _ _ _ _ _

theorem sound_townCorpus : townCorpus.Sound :=
  ((((made_townMarks.setOf townDocument (some "first")).takeInSharing ⟨6, "Person", 0, 1, ⟨0⟩⟩ _).put
    ⟨1⟩ (by decide +kernel)).put ⟨1⟩ (by decide +kernel)).sound

/-- Enriches the towns of the document. -/
def enrichTowns : Action (Site × Corpus) EnrichmentReport :=
  (Enrichment.ofRepository (some ⟨0⟩)).execute { query := "<%s>" } townDocument

/-- The first town and the second person get the relations of the town, without the unbound value;
the others stay. -/
theorem execute_enriches_towns : ∃ site' c' report,
    enrichTowns (townSite, townCorpus) = .ok report (site', c') ∧
      report.processed = 3 ∧ report.enriched = 1 ∧ report.deleted = 1 ∧ report.errors.length = 1 ∧
      (c'.setAt ⟨0⟩).size = 4 ∧
      Connected "sea,port,3," (townCorpus.markAt ⟨0⟩) (c'.markAt ⟨0⟩) ∧
      Connected "sea,port,3," (townCorpus.markAt ⟨5⟩) (c'.markAt ⟨5⟩) ∧
      ∀ other ∈ [⟨1⟩, ⟨2⟩, ⟨3⟩, ⟨4⟩], c'.markAt other = townCorpus.markAt other := by
  have hrepository : (Enrichment.ofRepository (some ⟨0⟩)).repository = some ⟨0⟩ := rfl
  rcases execute_enriches hrepository sound_townCorpus { query := "<%s>" } townDocument townSite
    with ⟨fault, _, hanswer, -⟩ | ⟨answer, site', c', report, hanswer, hrun, henriches, -⟩
  · exact absurd hanswer (by rintro ⟨⟩)
  · obtain rfl : townSite.reply (.table ⟨0⟩) = answer := Except.ok.inj hanswer
    have hgets : ∀ {other}, townCorpus.Shares other ⟨0⟩ →
        Connected "sea,port,3," (townCorpus.markAt other) (c'.markAt other) := fun hshares =>
      henriches.written.connected _ _ ⟨by decide, ⟨0⟩, by decide +kernel, hshares, rfl⟩
    refine ⟨site', c', report, hrun, henriches.processed.trans (by decide +kernel),
      henriches.enriched.trans (by decide +kernel), henriches.deleted.trans (by decide +kernel),
      (congrArg List.length henriches.errors).trans (by decide +kernel),
      (congrArg List.length henriches.members).trans (by decide +kernel),
      hgets (by decide +kernel), hgets (by decide +kernel), fun other hother => ?_⟩
    refine henriches.written.others other (not_gets ?_)
    revert other
    decide +kernel

/-- **Annotations that share their features are not enriched apart**, nor is an annotation in one
set alone: what is in the other set has connections afterwards, also the person. -/
theorem connections_elsewhere_towns : ∃ site' c' report,
    enrichTowns (townSite, townCorpus) = .ok report (site', c') ∧
      (townCorpus.setAt ⟨1⟩).refs = [⟨0⟩, ⟨5⟩] ∧ (townCorpus.markAt ⟨5⟩).type = "Person" ∧
      ∀ ref ∈ (townCorpus.setAt ⟨1⟩).refs,
        Value.find? "connections" (townCorpus.markAt ref).features = none ∧
        (Value.find? "connections" (c'.markAt ref).features).isSome = true := by
  have hbefore : ∀ ref ∈ (townCorpus.setAt ⟨1⟩).refs,
      (Value.find? "connections" (townCorpus.markAt ref).features).isNone = true := by
    decide +kernel
  have hafter : (outcome enrichTowns (townSite, townCorpus)).1.isOk = true ∧
      ∀ ref ∈ (townCorpus.setAt ⟨1⟩).refs, (Value.find? "connections"
        ((outcome enrichTowns (townSite, townCorpus)).2.2.markAt ref).features).isSome = true := by
    decide +kernel
  rcases hrun : enrichTowns (townSite, townCorpus) with ⟨report, site', c'⟩ | ⟨fault, _⟩
  · rw [outcome_ok hrun] at hafter
    exact ⟨site', c', report, rfl, by decide +kernel, by decide +kernel, fun ref href =>
      ⟨Option.isNone_iff_eq_none.mp (hbefore ref href), hafter.2 ref href⟩⟩
  · rw [outcome_error hrun] at hafter
    exact absurd hafter.1 (by simp [Except.isOk, Except.toBool])

end Gazetteer.Enrichment
