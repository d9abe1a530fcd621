import Gazetteer.Proofs.Enrichment.Execution

/-!
# Proofs/Enrichment/Idempotence — enriching a document again

What comes of an annotation depends on its type and its individual alone, and an enrichment changes
neither (`Written.finding?_eq`). So once a set has been enriched, each annotation left in it has the
connections that would be written (`Enriches.isSettled`), and a pass over a settled set changes
nothing (`exists_pass_settled`). What the second pass reports is what the first one did, without the
annotations that are gone (`Enriches.repeats`).
-/

namespace Gazetteer

namespace Enrichment

open Gazetteer.Action Site

variable {σ : Type} {settings : EnrichmentSettings} {ask : String → Action σ Rows}
  {answer : String → Except Fault Rows} {P : σ → Prop} {a a' : Annotation} {c c' : Corpus}
  {set : SetRef} {report report' : EnrichmentReport}

/-! ## Settled annotations -/

/-- Whether an annotation need not be removed and has the connections that would be written. -/
def IsSettled (settings : EnrichmentSettings) (answer : String → Except Fault Rows)
    (a : Annotation) : Prop :=
  match finding? settings answer a with
  | some .removed => False
  | some (.found text) =>
    text = "" ∨ Value.find? connectionsFeature a.features = some (.string text)
  | _ => True

/-- **What an annotation becomes** is settled, if it is not removed. -/
theorem Becomes.isSettled {finding : Finding} (h : Becomes a finding a')
    (hfinding : finding? settings answer a' = some finding)
    (hkept : isRemoved (some finding) = false) : IsSettled settings answer a' := by
  rw [IsSettled, hfinding]
  cases h with
  | removed => exact absurd hkept (by decide)
  | unbound => exact .inl rfl
  | connected _ h => exact .inr h.connections
  | failed => trivial

/-- **Writing what is written already** changes nothing. -/
theorem writeFinding_of_isSettled {ref : AnnotationRef} {finding : Finding}
    (h : IsSettled settings answer (c.markAt ref))
    (hfinding : finding? settings answer (c.markAt ref) = some finding) :
    writeFinding ref finding c = c := by
  rw [IsSettled, hfinding] at h
  cases finding with
  | found text =>
    rw [writeFinding]
    split
    · rfl
    · exact Corpus.updateFeatures_of_eq (Value.put_of_find? (h.resolve_left ‹_›))
  | _ => rfl

/-! ## A pass over what is settled -/

/-- **Step**: at a settled annotation nothing is written, and nothing is to be removed. -/
theorem exists_scan_cons_settled (hask : Answers ask answer P) {s : σ} (hs : P s)
    {ref : AnnotationRef} (hwanted : settings.types.contains (c.markAt ref).type = true)
    (hsettled : IsSettled settings answer (c.markAt ref)) (rest : List AnnotationRef)
    (report : EnrichmentReport) (doomed : List AnnotationRef) :
    ∃ s' report', P s' ∧ scan settings ask (ref :: rest) report doomed (s, c)
      = scan settings ask rest report' doomed (s', c) := by
  rw [scan, get_bind]
  dsimp only
  cases hindividual : individual? (c.markAt ref) with
  | none =>
    refine ⟨s, report, hs, ?_⟩
    cases hfeature : Value.find? instFeature (c.markAt ref).features with
    | none => rfl
    | some v =>
      cases v with
      | string inst =>
        exact absurd (hindividual.symm.trans (individual?_eq_some.mpr hfeature)) (by simp)
      | _ => rfl
  | some inst =>
    have hfinding : finding? settings answer (c.markAt ref)
        = some (finding settings answer inst) := by
      rw [finding?, subject?, if_pos hwanted, hindividual, Option.map_some]
    obtain ⟨s', hfind, hs'⟩ := exists_find settings hask hs inst
    refine ⟨s', reportFinding inst (finding settings answer inst) report, hs', ?_⟩
    rw [individual?_eq_some.mp hindividual]
    dsimp only
    rw [bind_ok (onFirst_ok hfind c), modify_bind]
    dsimp only
    rw [writeFinding_of_isSettled hsettled hfinding]
    rw [IsSettled, hfinding] at hsettled
    cases hfound : finding settings answer inst with
    | removed =>
      rw [hfound] at hsettled
      exact hsettled.elim
    | _ => rfl

/-- **Run**: a scan over settled annotations writes nothing and removes nothing. -/
theorem exists_scan_settled (hask : Answers ask answer P) {refs : List AnnotationRef}
    (hwanted : ∀ ref ∈ refs, settings.types.contains (c.markAt ref).type = true)
    (hsettled : ∀ ref ∈ refs, IsSettled settings answer (c.markAt ref)) {s : σ} (hs : P s)
    (report : EnrichmentReport) (doomed : List AnnotationRef) :
    ∃ s' report', P s' ∧
      scan settings ask refs report doomed (s, c) = .ok (report', doomed) (s', c) := by
  induction refs generalizing s report with
  | nil => exact ⟨s, report, hs, rfl⟩
  | cons ref rest ih =>
    obtain ⟨s₁, report₁, hs₁, hstep⟩ := exists_scan_cons_settled hask hs
      (hwanted ref List.mem_cons_self) (hsettled ref List.mem_cons_self) rest report doomed
    obtain ⟨s₂, report₂, hs₂, hrun⟩ :=
      ih (fun ref href => hwanted ref (List.mem_cons_of_mem _ href))
      (fun ref href => hsettled ref (List.mem_cons_of_mem _ href)) hs₁ report₁
    exact ⟨s₂, report₂, hs₂, hstep.trans hrun⟩

/-- **A pass over a settled set** changes nothing. -/
theorem exists_pass_settled (hask : Answers ask answer P) {s : σ} (hs : P s)
    (hsettled : ∀ ref ∈ (c.setAt set).refs, IsSettled settings answer (c.markAt ref)) :
    ∃ s' report, P s' ∧ pass settings ask set (s, c) = .ok report (s', c) := by
  obtain ⟨s', report, hs', hrun⟩ := exists_scan_settled hask
    (fun ref href => (mem_select.mp href).2) (fun ref href => hsettled ref (mem_select.mp href).1)
    hs {} []
  cases hdelete : settings.deleteWithoutRelations with
  | true =>
    refine ⟨s', { report with deleted := 0 }, hs', ?_⟩
    rw [pass, get_bind]
    dsimp only
    rw [bind_ok hrun, hdelete]
    rfl
  | false =>
    refine ⟨s', report, hs', ?_⟩
    rw [pass, get_bind]
    dsimp only
    rw [bind_ok hrun, hdelete]
    rfl

/-! ## The second report -/

theorem isSome_subject?_of_isRemoved (h : isRemoved (finding? settings answer a) = true) :
    (subject? settings a).isSome = true := by
  rw [finding?] at h
  cases hsubject : subject? settings a with
  | none =>
    rw [hsubject] at h
    exact h
  | some inst => rfl

theorem eq_removed_of_isRemoved {finding : Option Finding} (h : isRemoved finding = true) :
    finding = some .removed := by
  rcases finding with _ | _ | _ | _ <;> first | rfl | exact absurd h Bool.false_ne_true

theorem isConnected_of_isRemoved (h : isRemoved (finding? settings answer a) = true) :
    isConnected (finding? settings answer a) = false := by
  rw [eq_removed_of_isRemoved h]
  rfl

theorem error?_of_isRemoved (h : isRemoved (finding? settings answer a) = true) :
    error? settings answer a = none := by
  rw [error?, eq_removed_of_isRemoved h]
  cases subject? settings a <;> rfl

/-- Whether a report is that of a second pass after another one. -/
structure Repeats (report report' : EnrichmentReport) : Prop where
  processed : report'.processed = report.processed - report.deleted
  enriched : report'.enriched = report.enriched
  deleted : report'.deleted = 0
  errors : report'.errors = report.errors

namespace Enriches

variable (h : Enriches settings answer set c c' report)
include h

theorem refs_eq : (c'.setAt set).refs = (c.setAt set).refs.filter fun ref =>
    !isRemoved (finding? settings answer (c.markAt ref)) := by
  rw [AnnotationSet.refs, h.members, AnnotationSet.refs, List.filter_map]
  rfl

theorem mem_refs {ref : AnnotationRef} : ref ∈ (c'.setAt set).refs ↔ ref ∈ (c.setAt set).refs ∧
    isRemoved (finding? settings answer (c.markAt ref)) = false := by
  rw [h.refs_eq, List.mem_filter, Bool.not_eq_true']

/-- **The annotations that are left** are settled. -/
theorem isSettled : ∀ ref ∈ (c'.setAt set).refs, IsSettled settings answer (c'.markAt ref) := by
  intro ref href
  obtain ⟨href, hkept⟩ := h.mem_refs.mp href
  have hsame := h.written.finding?_eq ref
  cases hfinding : finding? settings answer (c.markAt ref) with
  | none =>
    rw [IsSettled, hsame, hfinding]
    trivial
  | some finding =>
    exact (h.becomes ref href finding hfinding).isSettled (hsame.trans hfinding) (hfinding ▸ hkept)

/-- **A corpus stays sound** when it is enriched. -/
theorem sound (hsound : c.Sound) (hsize : c'.annotations.size = c.annotations.size) :
    c'.Sound := by
  have hfits : ∀ {s : AnnotationSet}, s.Fits c → s.Fits c' := fun hs =>
    hs.of_ids (Nat.le_of_eq hsize.symm) fun ref _ => h.written.idAt_eq ref
  intro other
  by_cases hother : other = set
  · subst hother
    have hset := hfits (hsound other)
    refine ⟨fun m hm => hset.inRange m ?_, fun m hm => hset.key m ?_, ?_⟩
    · exact List.mem_of_mem_filter (h.members ▸ hm)
    · exact List.mem_of_mem_filter (h.members ▸ hm)
    · rw [h.members]
      exact hset.nodup.sublist (List.filter_sublist.map _)
  · exact h.others other hother ▸ hfits (hsound other)

/-- **The annotations that are left**, as far as the enrichment has not changed them. -/
theorem map_marksOf {α : Type} {f : Annotation → α}
    (hf : ∀ ref, f (c'.markAt ref) = f (c.markAt ref)) :
    (marksOf c' set).map f = ((marksOf c set).filter fun a =>
      !isRemoved (finding? settings answer a)).map f := by
  rw [marksOf, marksOf, h.refs_eq, List.map_map, List.filter_map, List.map_map]
  exact List.map_congr_left fun ref _ => hf ref

theorem countP_marksOf {p : Annotation → Bool}
    (hp : ∀ ref, p (c'.markAt ref) = p (c.markAt ref)) :
    (marksOf c' set).countP p = ((marksOf c set).filter fun a =>
      !isRemoved (finding? settings answer a)).countP p := by
  have hmap := congrArg (List.countP id) (h.map_marksOf hp)
  rwa [List.countP_map, List.countP_map] at hmap

/-- **The report of a second pass**: all is as in the first one, without the annotations that are
gone. -/
theorem repeats {c'' : Corpus} (h' : Enriches settings answer set c' c'' report') :
    Repeats report report' := by
  refine ⟨?_, ?_, ?_, ?_⟩
  · rw [h'.processed, h.processed, h.deleted,
      h.countP_marksOf fun ref => by rw [h.written.subject?_eq],
      List.countP_eq_countP_filter_add (marksOf c set) _
        fun a => isRemoved (finding? settings answer a)]
    have hgone : ((marksOf c set).filter fun a => isRemoved (finding? settings answer a)).countP
        (fun a => (subject? settings a).isSome)
        = (marksOf c set).countP fun a => isRemoved (finding? settings answer a) := by
      rw [List.countP_filter]
      refine List.countP_congr fun a _ => ?_
      rw [Bool.and_eq_true, and_iff_right_iff_imp]
      exact isSome_subject?_of_isRemoved
    rw [hgone]
    omega
  · rw [h'.enriched, h.enriched, h.countP_marksOf fun ref => by rw [h.written.finding?_eq],
      countP_filter_of_imp fun a ha => ?_]
    exact isConnected_of_isRemoved (by simpa using ha)
  · rw [h'.deleted, h.countP_marksOf fun ref => by rw [h.written.finding?_eq],
      List.countP_eq_zero.mpr fun a ha => by simpa using (List.mem_filter.mp ha).2]
    rfl
  · have hmap : (marksOf c' set).map (error? settings answer) = _ :=
      h.map_marksOf h.written.error?_eq
    have herrors := congrArg (List.filterMap id) hmap
    rw [List.filterMap_map, List.filterMap_map] at herrors
    rw [h'.errors, h.errors]
    refine herrors.trans (filterMap_filter_of_imp (fun a ha => ?_) _)
    exact error?_of_isRemoved (by simpa using ha)

/-- **A second pass** changes nothing, and reports what the first one did. -/
theorem exists_pass_again (hsound : c.Sound) (hsize : c'.annotations.size = c.annotations.size)
    (hask : Answers ask answer P) {s : σ} (hs : P s) :
    ∃ s' report', P s' ∧ pass settings ask set (s, c') = .ok report' (s', c') ∧
      Repeats report report' := by
  obtain ⟨s', c'', report', hs', hpass, henriches, -⟩ :=
    exists_pass settings hask hs (h.sound hsound hsize) set
  obtain ⟨s'', report'', -, hsettled⟩ := exists_pass_settled hask hs h.isSettled
  obtain ⟨rfl, hstate⟩ := EStateM.Result.ok.inj (hpass.symm.trans hsettled)
  obtain ⟨rfl, rfl⟩ := Prod.mk.inj hstate
  exact ⟨s', report', hs', hpass, h.repeats henriches⟩

end Enriches

/-! ## An execution -/

section Execution

variable {enrichment : Enrichment} {id : RepositoryId} {site : Site}

theorem answers_evaluate_of_same (first : Site) (connection : ConnectionId)
    (answer : String → Except Fault Rows) :
    Answers (fun query => Site.evaluate connection query) answer
      fun site => first.SameSources site ∧ site.Serves connection answer := by
  rintro site ⟨hsame, hserves⟩ query
  obtain ⟨site', houtcome, hasks⟩ := hserves.outcome_evaluate query
  exact ⟨site', houtcome, hsame.trans hasks.same, hasks.serves hserves⟩

/-- An execution opens a connection, goes over the set of the document, and closes it again. -/
theorem execute_eq (hrepository : enrichment.repository = some id)
    (settings : EnrichmentSettings) (document : Document) (c : Corpus) :
    enrichment.execute settings document (site, c)
      = (onFirst (Site.connect id) >>= fun connection =>
          ensuring (pass settings (fun query => Site.evaluate connection query)
              (c.setOf document settings.input).1)
            (onFirst (Site.closeConnection connection)))
          (site, (c.setOf document settings.input).2) := by
  rw [execute, hrepository]
  rfl

/-- **What a pass comes to**, whatever connection answers, the execution comes to; the sources stay
the same. -/
theorem exists_execute_of_pass (hrepository : enrichment.repository = some id)
    (hanswer : site.answersOf id = .ok answer) (settings : EnrichmentSettings)
    (document : Document) (c : Corpus) {Q : EnrichmentReport → Corpus → Prop}
    (hpass : ∀ {ask : String → Action Site Rows} {P : Site → Prop}, Answers ask answer P →
      ∀ s, P s → ∃ s' report c', P s' ∧
        pass settings ask (c.setOf document settings.input).1
          (s, (c.setOf document settings.input).2) = .ok report (s', c') ∧ Q report c') :
    ∃ site' report c', enrichment.execute settings document (site, c) = .ok report (site', c') ∧
      site.SameSources site' ∧ Q report c' := by
  rw [execute_eq hrepository]
  rw [answersOf] at hanswer
  rcases connect_cases site id with ⟨backend, site₁, hbackend, hconnect, hsame, hconnections⟩ |
    ⟨fault, _, hbackend, -⟩
  · obtain rfl : site.reply backend = answer := by
      rw [hbackend] at hanswer
      exact Except.ok.inj hanswer
    have hopens : Opens backend site site₁ := ⟨hsame, hconnections⟩
    obtain ⟨site₂, report, c', ⟨hsame₂, hserves⟩, hrun, hQ⟩ :=
      hpass (answers_evaluate_of_same site ⟨site.connections.size⟩ (site.reply backend)) site₁
        ⟨hsame, hopens.serves_new⟩
    obtain ⟨site₃, hclose, hcloses⟩ := exists_closes hserves
    refine ⟨site₃, report, c', ?_, hsame₂.trans hcloses.same, hQ⟩
    rw [bind_ok (onFirst_ok hconnect _), ensuring_ok hrun (onFirst_ok hclose c')]
  · rw [hbackend] at hanswer
    exact absurd hanswer (by rintro ⟨⟩)

/-- **Where no connection can be opened**, the execution fails. -/
theorem exists_execute_of_refused {fault : Fault} (hrepository : enrichment.repository = some id)
    (hanswer : site.answersOf id = .error fault) (settings : EnrichmentSettings)
    (document : Document) (c : Corpus) :
    ∃ site', enrichment.execute settings document (site, c)
        = .error fault (site', (c.setOf document settings.input).2) ∧ site.SameSources site' := by
  rw [execute_eq hrepository]
  rw [answersOf] at hanswer
  rcases connect_cases site id with ⟨backend, _, hbackend, -⟩ |
    ⟨fault', site', hbackend, hconnect, hsame, -⟩
  · rw [hbackend] at hanswer
    exact absurd hanswer (by rintro ⟨⟩)
  · obtain rfl : fault' = fault := by
      rw [hbackend] at hanswer
      exact Except.error.inj hanswer
    exact ⟨site', bind_error (onFirst_error hconnect _) _, hsame⟩

/-- **Two executions that are refused** fail alike, and leave the corpus alike. -/
theorem execute_refused_again {fault : Fault} (hrepository : enrichment.repository = some id)
    (hanswer : site.answersOf id = .error fault) (settings : EnrichmentSettings)
    {document : Document} (hdocument : document.place < c.documents.size) :
    ∃ site' c', enrichment.execute settings document (site, c) = .error fault (site', c') ∧
      ∀ later, site'.SameSources later → ∃ later',
        enrichment.execute settings document (later, c') = .error fault (later', c') := by
  obtain ⟨site', hrun, hsame⟩ :=
    exists_execute_of_refused hrepository hanswer settings document c
  refine ⟨site', _, hrun, fun later hlater => ?_⟩
  have hanswer' := (congrFun (hsame.trans hlater).answersOf id).trans hanswer
  obtain ⟨later', hrun', -⟩ := exists_execute_of_refused hrepository hanswer' settings document
    (c.setOf document settings.input).2
  rw [Corpus.setOf_setOf hdocument rfl] at hrun'
  exact ⟨later', hrun'⟩

/-- **Two executions that are answered** leave the corpus alike, and the second one reports what the
first one did. -/
theorem execute_answered_again (hrepository : enrichment.repository = some id)
    (hanswer : site.answersOf id = .ok answer) (hsound : c.Sound) (settings : EnrichmentSettings)
    {document : Document} (hdocument : document.place < c.documents.size) :
    ∃ report site' c', enrichment.execute settings document (site, c) = .ok report (site', c') ∧
      Enriches settings answer (c.setOf document settings.input).1
        (c.setOf document settings.input).2 c' report ∧
      ∀ later, site'.SameSources later → ∃ report' later',
        enrichment.execute settings document (later, c') = .ok report' (later', c') ∧
        Repeats report report' := by
  have hfound := hsound.setOf document settings.input
  obtain ⟨site', report, c', hrun, hsame, henriches, hdocuments⟩ :=
    exists_execute_of_pass hrepository hanswer settings document c fun hask s hs => by
      obtain ⟨s', c', report, hs', hpass, hresult⟩ :=
        exists_pass settings hask hs hfound (c.setOf document settings.input).1
      exact ⟨s', report, c', hs', hpass, hresult⟩
  refine ⟨report, site', c', hrun, henriches, fun later hlater => ?_⟩
  have hanswer' := (congrFun (hsame.trans hlater).answersOf id).trans hanswer
  obtain ⟨later', report', c'', hrun', -, rfl, hrepeats⟩ :=
    exists_execute_of_pass (Q := fun report' c'' => c'' = c' ∧ Repeats report report')
      hrepository hanswer' settings document c' fun hask s hs => by
        obtain ⟨s', report', hs', hpass, hrepeats⟩ :=
          henriches.exists_pass_again hfound hdocuments.annotations hask hs
        rw [Corpus.setOf_setOf hdocument hdocuments.documents]
        exact ⟨s', report', c', hs', hpass, rfl, hrepeats⟩
  exact ⟨report', later', hrun', hrepeats⟩

end Execution

/-- **Enriching a document again** changes nothing more. Whatever the settings, and whatever the
repository answers as a function of the query, a second execution leaves the whole corpus as the
first one left it, and reports the same: nothing is removed any more, and those removed before are
not counted again. Where no connection can be opened, both fail alike. It makes no difference what
else has happened in between, as long as the sources have stayed the same. -/
theorem execute_again {enrichment : Enrichment} {id : RepositoryId}
    (hrepository : enrichment.repository = some id) (hsound : c.Sound)
    (settings : EnrichmentSettings) {document : Document}
    (hdocument : document.place < c.documents.size) (site : Site) :
    (∃ fault site' c', site.answersOf id = .error fault ∧
      enrichment.execute settings document (site, c) = .error fault (site', c') ∧
      ∀ later, site'.SameSources later → ∃ later',
        enrichment.execute settings document (later, c') = .error fault (later', c')) ∨
    ∃ answer report site' c', site.answersOf id = .ok answer ∧
      enrichment.execute settings document (site, c) = .ok report (site', c') ∧
      Enriches settings answer (c.setOf document settings.input).1 c c' report ∧
      ∀ later, site'.SameSources later → ∃ report' later',
        enrichment.execute settings document (later, c') = .ok report' (later', c') ∧
        Repeats report report' := by
  cases hanswer : site.answersOf id with
  | error fault =>
    obtain ⟨site', c', hagain⟩ := execute_refused_again hrepository hanswer settings hdocument
    exact .inl ⟨fault, site', c', rfl, hagain⟩
  | ok answer =>
    obtain ⟨report, site', c', hrun, henriches, hagain⟩ :=
      execute_answered_again hrepository hanswer hsound settings hdocument
    exact .inr ⟨answer, report, site', c', rfl, hrun, henriches.of_setOf, hagain⟩

/-- The document with the towns, enriched twice: the town without relations is gone, the one whose
query fails has its error again. -/
theorem execute_again_towns : ∃ report site' c' report' later',
    enrichTowns (townSite, townCorpus) = .ok report (site', c') ∧
      enrichTowns (site', c') = .ok report' (later', c') ∧
      report.processed = 3 ∧ report.deleted = 1 ∧ report'.processed = 2 ∧ report'.enriched = 1 ∧
      report'.deleted = 0 ∧ report'.errors.length = 1 := by
  have hrepository : (Enrichment.ofRepository (some ⟨0⟩)).repository = some ⟨0⟩ := rfl
  have hdocument : townDocument.place < townCorpus.documents.size := by decide +kernel
  rcases execute_again hrepository sound_townCorpus { query := "<%s>" } hdocument townSite with
    ⟨fault, _, _, hanswer, -⟩ | ⟨answer, report, site', c', hanswer, hrun, henriches, hlater⟩
  · exact absurd hanswer (by rintro ⟨⟩)
  · obtain rfl : townSite.reply (.table ⟨0⟩) = answer := Except.ok.inj hanswer
    obtain ⟨report', later', hrun', hrepeats⟩ := hlater site' ⟨rfl, rfl, rfl⟩
    have hprocessed : report.processed = 3 := henriches.processed.trans (by decide +kernel)
    have hdeleted : report.deleted = 1 := henriches.deleted.trans (by decide +kernel)
    refine ⟨report, site', c', report', later', hrun, hrun', hprocessed, hdeleted, ?_,
      hrepeats.enriched.trans (henriches.enriched.trans (by decide +kernel)), hrepeats.deleted, ?_⟩
    · rw [hrepeats.processed, hprocessed, hdeleted]
      rfl
    · rw [hrepeats.errors, henriches.errors]
      decide +kernel

end Enrichment

end Gazetteer
