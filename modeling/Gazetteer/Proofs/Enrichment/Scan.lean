import Gazetteer.Enrichment.Basic
import Gazetteer.Proofs.Action
import Gazetteer.Proofs.Annotation.Sound

/-!
# Proofs/Enrichment/Scan — annotations gone through one by one

`finding?` says what comes of an annotation, from that annotation and from what is answered to its
query. A scan writes the connections that it finds for its annotations into their features, and into
nothing else (`exists_scan`): one annotation is a step (`exists_scan_cons`), and steps go together
(`Scanned.trans`), for what comes of an annotation does not depend on its connections, and those
that share their features get the same ones (`finding?_unique`).
-/

namespace Gazetteer.Enrichment

open Gazetteer.Action

variable {σ : Type}

/-! ## What comes of one annotation -/

/-- The individual that an annotation names. -/
def individual? (a : Annotation) : Option String :=
  match Value.find? instFeature a.features with
  | some (.string inst) => some inst
  | _ => none

/-- The individual that an annotation of a wanted type names. -/
def subject? (settings : EnrichmentSettings) (a : Annotation) : Option String :=
  if settings.types.contains a.type then individual? a else none

/-- How a value is written among connections: a text as it is. -/
def connectionText : Value → String
  | .string s => s
  | v => v.shown

/-- The bound values of rows: row by row, and in each row column by column. -/
def boundValues (rows : List Row) : List Value :=
  (rows.flatMap Row.values).filter fun
    | .null => false
    | _ => true

/-- Texts, each followed by a comma. -/
def withCommas (texts : List String) : String := String.join (texts.map (· ++ ","))

/-- What comes of an individual: its query cannot be made, is refused, or fails after some rows; or
its rows are all there, and there are none or some. -/
def finding (settings : EnrichmentSettings) (answer : String → Except Fault Rows) (inst : String) :
    Finding :=
  match Text.Template.fill settings.query.toList inst.toList with
  | .error flaw => .failed settings.query (.template flaw)
  | .ok cs =>
    match answer (String.ofList cs) with
    | .error fault => .failed (String.ofList cs) fault
    | .ok ⟨_, some fault⟩ => .failed (String.ofList cs) fault
    | .ok ⟨[], none⟩ => if settings.deleteWithoutRelations then .removed else .found ""
    | .ok ⟨rows, none⟩ => .found (withCommas ((boundValues rows).map connectionText))

/-- What comes of an annotation; none if it has no wanted type or names no individual. -/
def finding? (settings : EnrichmentSettings) (answer : String → Except Fault Rows)
    (a : Annotation) : Option Finding :=
  (subject? settings a).map (finding settings answer)

/-- Whether an annotation has a text as its connections, and all else as another. -/
structure Connected (text : String) (a a' : Annotation) : Prop where
  rest : a' = { a with features := a'.features }
  connections : Value.find? connectionsFeature a'.features = some (.string text)
  features : (a'.features.filter fun m => m.1 != connectionsFeature)
    = a.features.filter fun m => m.1 != connectionsFeature

/-- How an annotation is after what came of it. -/
inductive Becomes (a : Annotation) : Finding → Annotation → Prop where
  | failed (query : String) (fault : Fault) : Becomes a (.failed query fault) a
  | removed : Becomes a .removed a
  | unbound : Becomes a (.found "") a
  | connected {text : String} {a' : Annotation} (htext : text ≠ "") (h : Connected text a a') :
      Becomes a (.found text) a'

/-- Whether an annotation is to be removed. -/
def isRemoved : Option Finding → Bool
  | some .removed => true
  | _ => false

/-- Whether values have been found for an annotation. -/
def isConnected : Option Finding → Bool
  | some (.found text) => text != ""
  | _ => false

/-- The error of an annotation, if it has one. -/
def error? (settings : EnrichmentSettings) (answer : String → Except Fault Rows)
    (a : Annotation) : Option EnrichmentError :=
  match subject? settings a, finding? settings answer a with
  | some inst, some (.failed query fault) => some ⟨inst, query, fault⟩
  | _, _ => none

/-! ## What is found -/

theorem connectionText_eq (v : Value) : connectionText v = v.shown := by
  cases v <;> rfl

theorem connectionsOf_eq (rows : List Row) :
    connectionsOf rows = withCommas ((boundValues rows).map connectionText) := by
  rw [connectionsOf, withCommas, boundValues, List.map_map]
  refine congrArg String.join ?_
  rw [List.filter_flatMap, List.map_flatMap]
  refine congrArg (rows.flatMap ·) (funext fun row => ?_)
  induction Row.values row with
  | nil => rfl
  | cons v rest ih => cases v <;> simp_all [connectionText_eq]

/-- Whether an action answers queries like a function from the states with a property on, and stays
among these states. -/
def Answers (ask : String → Action σ Rows) (answer : String → Except Fault Rows) (P : σ → Prop) :
    Prop :=
  ∀ s, P s → ∀ query, ∃ s', outcome (ask query) s = (answer query, s') ∧ P s'

variable {settings : EnrichmentSettings} {ask : String → Action σ Rows}
  {answer : String → Except Fault Rows} {P : σ → Prop}

theorem findingOf_eq (settings : EnrichmentSettings) (query : String)
    (answer : Except Fault Rows) :
    findingOf settings query answer = match answer with
      | .error fault => .failed query fault
      | .ok ⟨_, some fault⟩ => .failed query fault
      | .ok ⟨[], none⟩ => if settings.deleteWithoutRelations then .removed else .found ""
      | .ok ⟨rows, none⟩ => .found (withCommas ((boundValues rows).map connectionText)) := by
  rcases answer with fault | ⟨rows, _ | fault⟩
  · rfl
  · cases rows with
    | nil => cases h : settings.deleteWithoutRelations <;> simp only [findingOf, h] <;> rfl
    | cons row rest => exact congrArg Finding.found (connectionsOf_eq (row :: rest))
  · rfl

/-- **Asking for an individual** gives what comes of it. -/
theorem exists_find (settings : EnrichmentSettings) (hask : Answers ask answer P) {s : σ}
    (hs : P s) (inst : String) :
    ∃ s', find settings ask inst s = .ok (finding settings answer inst) s' ∧ P s' := by
  rw [find, queryFor, finding]
  cases Text.Template.fill settings.query.toList inst.toList with
  | error flaw => exact ⟨s, rfl, hs⟩
  | ok cs =>
    obtain ⟨s', houtcome, hs'⟩ := hask s hs (String.ofList cs)
    refine ⟨s', ?_, hs'⟩
    have hattempt : attempt (ask (String.ofList cs)) s = .ok (answer (String.ofList cs)) s' :=
      eq_ok_of_outcome (by rw [outcome_attempt, houtcome])
    exact (bind_ok hattempt _).trans (congrArg (EStateM.Result.ok · s') (findingOf_eq _ _ _))

/-! ## What does not depend on the connections -/

variable {inst text : String} {a a' : Annotation}

theorem individual?_eq_some :
    individual? a = some inst ↔ Value.find? instFeature a.features = some (.string inst) := by
  rw [individual?]
  split
  · rename_i heq
    rw [heq, Option.some_inj, Option.some_inj, Value.string.injEq]
  · rename_i hnot
    exact ⟨fun h => absurd h (by simp), fun h => absurd h (hnot inst)⟩

theorem individual?_of_subject? (h : subject? settings a = some inst) :
    individual? a = some inst := by
  rw [subject?] at h
  split at h
  · exact h
  · exact absurd h (by simp)

/-- **What comes of annotations with the same features** is the same, where anything does. -/
theorem finding?_unique (h : a.features = a'.features) {finding finding' : Finding}
    (hfinding : finding? settings answer a = some finding)
    (hfinding' : finding? settings answer a' = some finding') : finding = finding' := by
  obtain ⟨inst, hsubject, rfl⟩ := Option.map_eq_some_iff.mp hfinding
  obtain ⟨inst', hsubject', rfl⟩ := Option.map_eq_some_iff.mp hfinding'
  have hinst := individual?_eq_some.mp (individual?_of_subject? hsubject)
  have hinst' := individual?_eq_some.mp (individual?_of_subject? hsubject')
  rw [h, hinst', Option.some_inj, Value.string.injEq] at hinst
  rw [hinst]

namespace Connected

theorem trans {before : String} {a'' : Annotation} (h : Connected before a a')
    (h' : Connected text a' a'') : Connected text a a'' where
  rest := by rw [h'.rest, h.rest]
  connections := h'.connections
  features := h'.features.trans h.features

theorem type_eq (h : Connected text a a') : a'.type = a.type := by rw [h.rest]

theorem individual?_eq (h : Connected text a a') : individual? a' = individual? a := by
  have hinst : instFeature ≠ connectionsFeature := by decide
  rw [individual?, individual?, ← Value.find?_filter_of_ne hinst a'.features, h.features,
    Value.find?_filter_of_ne hinst]

theorem subject?_eq (h : Connected text a a') : subject? settings a' = subject? settings a := by
  rw [subject?, subject?, h.individual?_eq, h.type_eq]

/-- **What comes of an annotation** is the same when it has its connections. -/
theorem finding?_eq (h : Connected text a a') :
    finding? settings answer a' = finding? settings answer a := by
  rw [finding?, finding?, h.subject?_eq]

end Connected

/-! ## What comes of many annotations -/

/-- Whether a report is another one with some annotations more. -/
structure Reports (settings : EnrichmentSettings) (answer : String → Except Fault Rows)
    (marks : List Annotation) (r r' : EnrichmentReport) : Prop where
  processed : r'.processed = r.processed + marks.countP fun a => (finding? settings answer a).isSome
  enriched : r'.enriched
    = r.enriched + marks.countP fun a => isConnected (finding? settings answer a)
  deleted : r'.deleted = r.deleted
  errors : r'.errors = r.errors ++ marks.filterMap (error? settings answer)

theorem Reports.trans {marks marks' : List Annotation} {r r' r'' : EnrichmentReport}
    (h : Reports settings answer marks r r') (h' : Reports settings answer marks' r' r'') :
    Reports settings answer (marks ++ marks') r r'' where
  processed := by
    rw [h'.processed, h.processed, List.countP_append]
    omega
  enriched := by
    rw [h'.enriched, h.enriched, List.countP_append]
    omega
  deleted := h'.deleted.trans h.deleted
  errors := by rw [h'.errors, h.errors, List.filterMap_append, List.append_assoc]

/-- How far a scan has come. -/
structure Progress where
  corpus : Corpus
  report : EnrichmentReport
  doomed : List AnnotationRef

/-- Whether two corpora are the same but for their annotations. -/
structure SameSets (c c' : Corpus) : Prop where
  sets : c'.sets = c.sets
  documents : c'.documents = c.documents
  nextId : c'.nextId = c.nextId

theorem SameSets.trans {c c' c'' : Corpus} (h : SameSets c c') (h' : SameSets c' c'') :
    SameSets c c'' :=
  ⟨h'.sets.trans h.sets, h'.documents.trans h.documents, h'.nextId.trans h.nextId⟩

/-- Whether an annotation gets connections in a scan of some annotations: it shares its features
with one of them for which they are found. -/
def Gets (settings : EnrichmentSettings) (answer : String → Except Fault Rows) (c : Corpus)
    (refs : List AnnotationRef) (other : AnnotationRef) (text : String) : Prop :=
  text ≠ "" ∧ ∃ ref ∈ refs, c.Shares other ref ∧
    finding? settings answer (c.markAt ref) = some (.found text)

/-- Whether the connections of some annotations have been written, and no other annotation has been
changed. -/
structure Written (settings : EnrichmentSettings) (answer : String → Except Fault Rows)
    (refs : List AnnotationRef) (c c' : Corpus) : Prop where
  connected : ∀ other text, Gets settings answer c refs other text →
    Connected text (c.markAt other) (c'.markAt other)
  others : ∀ other, (∀ text, ¬ Gets settings answer c refs other text) →
    c'.markAt other = c.markAt other
  /-- The annotations refer to their features as before. -/
  marks : c'.marks = c.marks

/-- Whether some annotations have been gone through, and nothing else has been done. -/
structure Scanned (settings : EnrichmentSettings) (answer : String → Except Fault Rows)
    (refs : List AnnotationRef) (p p' : Progress) : Prop where
  written : Written settings answer refs p.corpus p'.corpus
  same : SameSets p.corpus p'.corpus
  report : Reports settings answer (refs.map p.corpus.markAt) p.report p'.report
  doomed : p'.doomed = p.doomed
    ++ refs.filter fun ref => isRemoved (finding? settings answer (p.corpus.markAt ref))

section Written

variable {refs refs' : List AnnotationRef} {c c' c'' : Corpus} {ref other : AnnotationRef}

/-- Only an annotation that is there names an individual. -/
theorem index_lt_of_individual? (h : individual? (c.markAt ref) = some inst) :
    ref.index < c.marks.size := by
  by_contra hindex
  have hnone : individual? default = none := rfl
  rw [Corpus.markAt_of_le (Nat.not_lt.mp hindex), hnone] at h
  exact absurd h (by simp)

theorem not_gets (h : ∀ ref ∈ refs, c.Shares other ref →
    isConnected (finding? settings answer (c.markAt ref)) = false) (text : String) :
    ¬ Gets settings answer c refs other text := by
  rintro ⟨htext, ref, href, hshares, hfinding⟩
  have hnone := h ref href hshares
  rw [hfinding, isConnected, bne_eq_false_iff_eq] at hnone
  exact htext hnone

theorem Gets.unique {text' : String} (h : Gets settings answer c refs other text)
    (h' : Gets settings answer c refs' other text') : text = text' := by
  obtain ⟨-, ref, -, hshares, hfinding⟩ := h
  obtain ⟨-, ref', -, hshares', hfinding'⟩ := h'
  have hfeatures := (hshares.symm.trans hshares').features_eq
  exact Finding.found.inj (finding?_unique hfeatures hfinding hfinding')

theorem gets_append : Gets settings answer c (refs ++ refs') other text ↔
    Gets settings answer c refs other text ∨ Gets settings answer c refs' other text := by
  simp only [Gets, List.mem_append, or_and_right, exists_or, and_or_left]

namespace Written

variable (h : Written settings answer refs c c')
include h

/-- **Every annotation** has got its connections, or is as it was. -/
theorem cases (other : AnnotationRef) :
    (∃ text, Gets settings answer c refs other text ∧
        Connected text (c.markAt other) (c'.markAt other)) ∨
      (∀ text, ¬ Gets settings answer c refs other text) ∧ c'.markAt other = c.markAt other := by
  by_cases hgets : ∃ text, Gets settings answer c refs other text
  · obtain ⟨text, hgets⟩ := hgets
    exact .inl ⟨text, hgets, h.connected other text hgets⟩
  · exact .inr ⟨not_exists.mp hgets, h.others other (not_exists.mp hgets)⟩

/-- **What comes of an annotation** is the same afterwards. -/
theorem subject?_eq (other : AnnotationRef) :
    subject? settings (c'.markAt other) = subject? settings (c.markAt other) := by
  rcases h.cases other with ⟨text, -, hconnected⟩ | ⟨-, hsame⟩
  · exact hconnected.subject?_eq
  · rw [hsame]

theorem finding?_eq (other : AnnotationRef) :
    finding? settings answer (c'.markAt other) = finding? settings answer (c.markAt other) := by
  rw [finding?, finding?, h.subject?_eq]

theorem error?_eq (other : AnnotationRef) :
    error? settings answer (c'.markAt other) = error? settings answer (c.markAt other) := by
  rw [error?, error?, h.subject?_eq, h.finding?_eq]

theorem type_eq (other : AnnotationRef) : (c'.markAt other).type = (c.markAt other).type := by
  rcases h.cases other with ⟨text, -, hconnected⟩ | ⟨-, hsame⟩
  · exact hconnected.type_eq
  · rw [hsame]

theorem idAt_eq (other : AnnotationRef) : c'.idAt other = c.idAt other := by
  rcases h.cases other with ⟨text, -, hconnected⟩ | ⟨-, hsame⟩
  · rw [Corpus.idAt, hconnected.rest, Corpus.idAt]
  · rw [Corpus.idAt, hsame, Corpus.idAt]

theorem gets_iff : Gets settings answer c' refs' other text ↔
    Gets settings answer c refs' other text := by
  simp only [Gets, h.finding?_eq, Corpus.shares_congr h.marks]

omit h in
/-- It makes no difference in which of two corpora with the same annotations one begins. -/
theorem of_same (h : Written settings answer refs c' c'') (hmark : c'.markAt = c.markAt)
    (hmarks : c'.marks = c.marks) : Written settings answer refs c c'' := by
  have hgets : ∀ other text, Gets settings answer c refs other text ↔
      Gets settings answer c' refs other text := by
    simp only [Gets, hmark, Corpus.shares_congr hmarks, implies_true]
  refine ⟨fun other text hother => ?_, fun other hnot => ?_, h.marks.trans hmarks⟩
  · exact hmark ▸ h.connected other text ((hgets other text).mp hother)
  · exact hmark ▸ h.others other fun text hother => hnot text ((hgets other text).mpr hother)

/-- **An annotation of those whose connections are written** becomes what comes of it. -/
theorem becomes (href : ref ∈ refs) {finding : Finding}
    (hfinding : finding? settings answer (c.markAt ref) = some finding) :
    Becomes (c.markAt ref) finding (c'.markAt ref) := by
  have hself : c.Shares ref ref := by
    obtain ⟨inst, hsubject, -⟩ := Option.map_eq_some_iff.mp hfinding
    exact Corpus.shares_self (index_lt_of_individual? (individual?_of_subject? hsubject))
  have hgets : ∀ {text}, Gets settings answer c refs ref text → finding = .found text := by
    rintro text ⟨-, ref', -, hshares, hfound⟩
    exact finding?_unique hshares.features_eq hfinding hfound
  rcases h.cases ref with ⟨text, hother, hconnected⟩ | ⟨hnot, hsame⟩
  · rw [hgets hother]
    exact .connected hother.1 hconnected
  · rw [hsame]
    cases finding with
    | failed query fault => exact .failed query fault
    | removed => exact .removed
    | found text =>
      by_cases htext : text = ""
      · subst htext
        exact .unbound
      · exact absurd ⟨htext, ref, href, hself, hfinding⟩ (hnot text)

/-- **A report on annotations afterwards** is one on the annotations as they were. -/
theorem reports {r r' : EnrichmentReport}
    (hreports : Reports settings answer (refs'.map c'.markAt) r r') :
    Reports settings answer (refs'.map c.markAt) r r' := by
  obtain ⟨hprocessed, henriched, hdeleted, herrors⟩ := hreports
  simp only [List.countP_map, List.filterMap_map, Function.comp_def, h.finding?_eq, h.error?_eq]
    at hprocessed henriched herrors
  constructor <;> simpa only [List.countP_map, List.filterMap_map, Function.comp_def]

/-- **Writing more connections**: an annotation that gets some twice gets the same ones. -/
theorem trans (h' : Written settings answer refs' c' c'') :
    Written settings answer (refs ++ refs') c c'' where
  connected other text hgets := by
    rcases h.cases other with ⟨text₁, hfirst, hconnected⟩ | ⟨hnot, hsame⟩
    · obtain rfl : text₁ = text := by
        rcases gets_append.mp hgets with hgets | hgets <;> exact hfirst.unique hgets
      rcases h'.cases other with ⟨text₂, hsecond, hconnected'⟩ | ⟨-, hsame'⟩
      · rw [hfirst.unique (h.gets_iff.mp hsecond)]
        exact hconnected.trans hconnected'
      · rwa [hsame']
    · have hsecond := (gets_append.mp hgets).resolve_left (hnot text)
      rw [← hsame]
      exact h'.connected other text (h.gets_iff.mpr hsecond)
  others other hnot := by
    rw [h'.others other fun text hgets =>
        hnot text (gets_append.mpr (.inr (h.gets_iff.mp hgets))),
      h.others other fun text hgets => hnot text (gets_append.mpr (.inl hgets))]
  marks := h'.marks.trans h.marks

end Written

namespace Scanned

variable {p p' p'' : Progress}

theorem refl (settings : EnrichmentSettings) (answer : String → Except Fault Rows) (p : Progress) :
    Scanned settings answer [] p p where
  written := ⟨fun _ _ ⟨_, _, h, _⟩ => absurd h List.not_mem_nil, fun _ _ => rfl, rfl⟩
  same := ⟨rfl, rfl, rfl⟩
  report := ⟨by simp, by simp, rfl, by simp⟩
  doomed := by simp

/-- **Going on with other annotations**: what comes of them is as it was in the beginning. -/
theorem trans (h : Scanned settings answer refs p p') (h' : Scanned settings answer refs' p' p'') :
    Scanned settings answer (refs ++ refs') p p'' where
  written := h.written.trans h'.written
  same := h.same.trans h'.same
  report := by
    rw [List.map_append]
    exact h.report.trans (h.written.reports h'.report)
  doomed := by
    rw [h'.doomed, h.doomed, List.filter_append, List.append_assoc]
    refine congrArg (fun doomed => p.doomed ++ (_ ++ doomed)) (List.filter_congr fun ref _ => ?_)
    rw [h.written.finding?_eq]

end Scanned

end Written

/-! ## One annotation -/

variable {ref other : AnnotationRef} {c : Corpus}

theorem connected_put (text : String) (a : Annotation) : Connected text a
    { a with features := Value.put connectionsFeature (.string text) a.features } :=
  ⟨rfl, Value.find?_put_self _ _ _, Value.filter_put_of_ne fun _ => bne_self_eq_false _⟩

/-- **What is written** is the connections of the annotation. -/
theorem written_writeFinding {finding : Finding}
    (h : finding? settings answer (c.markAt ref) = some finding) :
    Written settings answer [ref] c (writeFinding ref finding c) := by
  have hgets : ∀ {other text}, Gets settings answer c [ref] other text ↔
      text ≠ "" ∧ c.Shares other ref ∧ finding = .found text := by
    simp only [Gets, List.mem_singleton, exists_eq_left, h, Option.some_inj, implies_true]
  by_cases hwrites : ∃ text, text ≠ "" ∧ finding = .found text
  · obtain ⟨text, htext, rfl⟩ := hwrites
    rw [writeFinding, if_neg htext]
    refine ⟨fun other text' hother => ?_, fun other hnot => ?_, by simp⟩
    · obtain ⟨-, hshares, heq⟩ := hgets.mp hother
      obtain rfl := Finding.found.inj heq
      rw [Corpus.markAt_updateFeatures_of_shares hshares]
      exact connected_put text _
    · exact Corpus.markAt_updateFeatures_of_not_shares
        (fun hshares => hnot text (hgets.mpr ⟨htext, hshares, rfl⟩)) _
  · have hsame : writeFinding ref finding c = c := by
      cases finding with
      | found text => exact if_pos (Decidable.byContradiction fun h => hwrites ⟨text, h, rfl⟩)
      | _ => rfl
    rw [hsame]
    exact ⟨fun other text hother => absurd (hgets.mp hother) fun h => hwrites ⟨text, h.1, h.2.2⟩,
      fun _ _ => rfl, rfl⟩

theorem sameSets_writeFinding (ref : AnnotationRef) (finding : Finding) (c : Corpus) :
    SameSets c (writeFinding ref finding c) := by
  cases finding with
  | found text =>
    rw [writeFinding]
    split
    · exact ⟨rfl, rfl, rfl⟩
    · exact ⟨by simp, by simp, by simp⟩
  | _ => exact ⟨rfl, rfl, rfl⟩

theorem reports_reportFinding {a : Annotation} {finding : Finding}
    (h : subject? settings a = some inst) (hfinding : finding? settings answer a = some finding)
    (r : EnrichmentReport) :
    Reports settings answer [a] r (reportFinding inst finding r) := by
  cases finding with
  | failed query fault =>
    exact ⟨by simp [reportFinding, EnrichmentReport.addError, hfinding],
      by simp [reportFinding, EnrichmentReport.addError, isConnected, hfinding], rfl,
      by simp [reportFinding, EnrichmentReport.addError, error?, h, hfinding]⟩
  | removed =>
    exact ⟨by simp [reportFinding, hfinding], by simp [reportFinding, isConnected, hfinding], rfl,
      by simp [reportFinding, error?, h, hfinding]⟩
  | found text =>
    by_cases htext : text = ""
    all_goals
      exact ⟨by simp [reportFinding, htext, hfinding],
        by simp [reportFinding, isConnected, htext, hfinding], by simp [reportFinding, htext],
        by simp [reportFinding, htext, error?, h, hfinding]⟩

/-- **An annotation of no interest** is passed over. -/
theorem scanned_of_none {p : Progress} (h : subject? settings (p.corpus.markAt ref) = none) :
    Scanned settings answer [ref] p p := by
  have hfinding : finding? settings answer (p.corpus.markAt ref) = none := by
    rw [finding?, h, Option.map_none]
  refine ⟨⟨fun other text hgets => ?_, fun _ _ => rfl, rfl⟩, ⟨rfl, rfl, rfl⟩, ⟨?_, ?_, rfl, ?_⟩, ?_⟩
  · obtain ⟨-, ref', href', -, hfound⟩ := hgets
    obtain rfl := List.mem_singleton.mp href'
    exact absurd (hfinding.symm.trans hfound) (by simp)
  · simp [hfinding]
  · simp [hfinding, isConnected]
  · simp [error?, h]
  · simp [hfinding, isRemoved]

/-- **An annotation with an individual** gets what comes of it. -/
theorem scanned_of_some {p : Progress} (h : subject? settings (p.corpus.markAt ref) = some inst) :
    Scanned settings answer [ref] p {
      corpus := writeFinding ref (finding settings answer inst) p.corpus
      report := reportFinding inst (finding settings answer inst) p.report
      doomed := p.doomed ++ if isRemoved (some (finding settings answer inst)) then [ref] else [] }
    := by
  have hfinding : finding? settings answer (p.corpus.markAt ref)
      = some (finding settings answer inst) := by rw [finding?, h, Option.map_some]
  refine ⟨written_writeFinding hfinding, sameSets_writeFinding _ _ _,
    reports_reportFinding h hfinding p.report, ?_⟩
  rw [List.filter_singleton, hfinding]
  cases isRemoved (some (finding settings answer inst)) <;> rfl

/-! ## The scan -/

/-- **Step**: the scan does to its first annotation what comes of it, and goes on from there. -/
theorem exists_scan_cons (hask : Answers ask answer P) {s : σ} (hs : P s) (p : Progress)
    (rest : List AnnotationRef)
    (hwanted : settings.types.contains (p.corpus.markAt ref).type = true) :
    ∃ s' p', P s' ∧ Scanned settings answer [ref] p p' ∧
      scan settings ask (ref :: rest) p.report p.doomed (s, p.corpus)
        = scan settings ask rest p'.report p'.doomed (s', p'.corpus) := by
  have hsubject : subject? settings (p.corpus.markAt ref) = individual? (p.corpus.markAt ref) :=
    if_pos hwanted
  cases hindividual : individual? (p.corpus.markAt ref) with
  | none =>
    refine ⟨s, p, hs, scanned_of_none (hsubject.trans hindividual), ?_⟩
    rw [scan, get_bind]
    dsimp only
    cases hfeature : Value.find? instFeature (p.corpus.markAt ref).features with
    | none => rfl
    | some v =>
      cases v with
      | string inst =>
        exact absurd (hindividual.symm.trans (individual?_eq_some.mpr hfeature)) (by simp)
      | _ => rfl
  | some inst =>
    obtain ⟨s', hfind, hs'⟩ := exists_find settings hask hs inst
    refine ⟨s', _, hs', scanned_of_some (hsubject.trans hindividual), ?_⟩
    rw [scan, get_bind]
    dsimp only
    rw [individual?_eq_some.mp hindividual]
    dsimp only
    rw [bind_ok (onFirst_ok hfind p.corpus), modify_bind]
    cases finding settings answer inst <;> simp [isRemoved]

/-- **Run**: a scan does to each of its annotations what comes of it. -/
theorem exists_scan (hask : Answers ask answer P) {refs : List AnnotationRef} {s : σ} (hs : P s)
    (p : Progress)
    (hwanted : ∀ ref ∈ refs, settings.types.contains (p.corpus.markAt ref).type = true) :
    ∃ s' p', P s' ∧ Scanned settings answer refs p p' ∧
      scan settings ask refs p.report p.doomed (s, p.corpus)
        = .ok (p'.report, p'.doomed) (s', p'.corpus) := by
  induction refs generalizing s p with
  | nil => exact ⟨s, p, hs, .refl settings answer p, rfl⟩
  | cons ref rest ih =>
    obtain ⟨s₁, p₁, hs₁, hfirst, hstep⟩ :=
      exists_scan_cons hask hs p rest (hwanted ref List.mem_cons_self)
    have hlater : ∀ ref' ∈ rest, settings.types.contains (p₁.corpus.markAt ref').type = true := by
      intro ref' href'
      rw [hfirst.written.type_eq]
      exact hwanted ref' (List.mem_cons_of_mem _ href')
    obtain ⟨s₂, p₂, hs₂, hscanned, hrun⟩ := ih hs₁ p₁ hlater
    exact ⟨s₂, p₂, hs₂, hfirst.trans hscanned, hstep.trans hrun⟩

end Gazetteer.Enrichment
