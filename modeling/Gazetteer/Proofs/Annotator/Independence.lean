import Gazetteer.Proofs.Annotator.Connections
import Gazetteer.Proofs.Annotator.OnDemand

/-!
# Proofs/Annotator/Independence — documents do not influence each other

What an annotator with a label feeder does in a document is what it does there with the document by
itself: with one session that begins anew, and a repository that is nothing but its answers
(`LabelFeeder.feeding_mirrors`). So what executing a document shows to the outside depends on the
dictionary, the settings and the answers alone (`shown_eq_shownAlone`). Executing leaves these as
they are, and the feeder without a session, however it ends (`Like.execute`); so after any other
documents a document shows what it shows as the first one (`shown_executed`).
-/

namespace Gazetteer

open Gazetteer.Action Site

/-! ## The feeder, with a document by itself -/

section DocumentFeed

variable {σ : Type}

/-- What an annotator asks in documents of a feeder whose calls are given. -/
def DocumentFeed.feeding (feed : DocumentFeed σ) : Feeding σ where
  setUp _ := pure ()
  feedAll := pure ()
  begin := feed.begin
  feedAhead document ahead := do
    let records ← onFirst (feed.checkpoint document ahead)
    onSecond (handAll Dictionary.listener records)
  finish := feed.finish

theorem DocumentFeed.outcome_feedAhead (feed : DocumentFeed σ) (document : Document)
    (window : List String) (s : σ) (d : Dictionary) :
    outcome (feed.feeding.feedAhead document window) (s, d) =
      match outcome (feed.checkpoint document window) s with
      | (.error fault, s') => (.error fault, s', d)
      | (.ok records, s') => ((outcome (handAll Dictionary.listener records) d).1, s',
        (outcome (handAll Dictionary.listener records) d).2) := by
  rw [feeding, outcome_bind, outcome_onFirst]
  rcases outcome (feed.checkpoint document window) s with ⟨fault | records, s'⟩
  · rfl
  · exact outcome_onSecond _ _ _

/-- Feeders that give the same records do the same to a dictionary. -/
theorem DocumentFeed.mirrors_feedAhead {τ : Type} {during : σ → τ → Prop} (feed : DocumentFeed σ)
    (feed' : DocumentFeed τ) {document : Document} {window : List String} {s : σ} {t : τ}
    (h : ∃ result s' t', outcome (feed.checkpoint document window) s = (result, s') ∧
      outcome (feed'.checkpoint document window) t = (result, t') ∧ during s' t')
    (d : Dictionary) : ∃ result s' t' d',
      outcome (feed.feeding.feedAhead document window) (s, d) = (result, s', d') ∧
      outcome (feed'.feeding.feedAhead document window) (t, d) = (result, t', d') ∧
      during s' t' := by
  obtain ⟨result, s', t', hs, ht, hduring⟩ := h
  rw [outcome_feedAhead, outcome_feedAhead, hs, ht]
  cases result with
  | error fault => exact ⟨_, s', t', d, rfl, rfl, hduring⟩
  | ok records => exact ⟨_, s', t', _, rfl, rfl, hduring⟩

end DocumentFeed

namespace LabelFeeder

/-- Whether a feeder is in the middle of a document just as the document by itself is: since the
document began, a connection has been opened for its session, and asked. -/
def Midway (feeder : LabelFeeder) (document : Document) (first : Site) (s : Site × Feeder)
    (t : List String × Option LabelSession) : Prop :=
  ∃ backend opened session, feeder.answers first = .ok (first.reply backend) ∧
    Opens backend first opened ∧ Site.Asks ⟨first.connections.size⟩ t.1 opened s.1 ∧
    s.2 = .label { feeder with
      sessions := [(document.key, ⟨first.connections.size⟩, session)] } ∧ t.2 = some session

/-- Whether a document is over just as it is by itself: the feeder is as it was, the sources are the
same, and the document by itself asked what has been asked. -/
def Over (feeder : LabelFeeder) (first : Site) (s : Site × Feeder)
    (t : List String × Option LabelSession) : Prop :=
  s.2 = .label feeder ∧ SameSources first s.1 ∧ Site.asked first s.1 = t.1

variable {feeder : LabelFeeder} {document : Document} {first : Site} {s : Site × Feeder}
  {t : List String × Option LabelSession}

/-- **A document that begins** does so as by itself. -/
theorem mirrors_begin (hfresh : feeder.sessions = []) : ∃ result s' t',
    outcome (Feeder.begin document) (first, .label feeder) = (result, s') ∧
    outcome ((alone feeder.newSession (feeder.answers first)).begin document) ([], none)
      = (result, t') ∧
    (result = .ok true → feeder.Midway document first s' t') ∧
    (result ≠ .ok true → feeder.Over first s' t') := by
  have hrun : outcome (Feeder.begin document) (first, .label feeder) = _ :=
    feeder.goesAlong_begin document (first, feeder.sessions)
  rw [hfresh] at hrun
  have htended : Tended feeder (feeder.answers first) (first, []) := .initial first
  rcases htended.openFor document with
    ⟨answer, backend, site', hanswer, rfl, hopen, hopens⟩ |
    ⟨fault, site', hanswer, hopen, hsame, hconnections⟩
  · rw [outcome_ok (Sessions.begin_first hopen rfl)] at hrun
    refine ⟨_, _, ([], some feeder.newSession), hrun, ?_, fun _ => ?_, fun h => absurd rfl h⟩
    · rw [hanswer]
      rfl
    · exact ⟨backend, site', _, hanswer, hopens, .refl _ _, rfl, rfl⟩
  · rw [outcome_error (Sessions.begin_error hopen)] at hrun
    refine ⟨_, _, ([], none), hrun, ?_, fun h => absurd h (by simp), fun _ => ⟨?_, hsame, ?_⟩⟩
    · rw [hanswer]
      rfl
    · rw [withSessions, ← hfresh]
    · have hqueries : ∀ i, site'.queriesAt i = first.queriesAt i := fun i => by
        rw [Site.queriesAt, Site.queriesAt, hconnections]
      exact Site.asked_eq_nil hqueries

/-- **Words ahead of a document** come to what they do by themselves. -/
theorem Midway.checkpoint (h : feeder.Midway document first s t) (window : List String) :
    ∃ result s' t', outcome (Feeder.checkpoint document window) s = (result, s') ∧
      outcome ((alone feeder.newSession (feeder.answers first)).checkpoint document window) t
        = (result, t') ∧
      feeder.Midway document first s' t' := by
  obtain ⟨site, _⟩ := s
  obtain ⟨queries, _⟩ := t
  obtain ⟨backend, opened, session, hanswer, hopens, hasks, rfl, rfl⟩ := h
  have hrun : outcome (Feeder.checkpoint document window) (site, .label { feeder with
      sessions := [(document.key, ⟨first.connections.size⟩, session)] }) = _ :=
    feeder.goesAlong_checkpoint document window (site, [(document.key, _, session)])
  by_cases hwindow : window = []
  · rw [hwindow, outcome_ok Sessions.checkpoint_nil] at hrun
    rw [hwindow]
    exact ⟨_, _, _, hrun, rfl, backend, opened, session, hanswer, hopens, hasks, rfl, rfl⟩
  · have hempty : window.isEmpty = false := by simpa using hwindow
    obtain ⟨result, session', asked, site', hsite, halone, hasks'⟩ :=
      outcome_labelCheckpoint window session queries (hasks.serves hopens.serves_new)
    have hops : outcome (feeder.ops.checkpoint window)
        (site, (⟨first.connections.size⟩, session))
        = (result, site', (⟨first.connections.size⟩, session')) := by
      simp only [ops, outcome_get_bind]
      rw [outcome_zoom, hsite]
    rw [Sessions.outcome_checkpoint hwindow (Sessions.find?_singleton _ _), hops,
      Sessions.update_singleton] at hrun
    refine ⟨_, _, (queries ++ asked, some session'), hrun, ?_, backend, opened, session', hanswer,
      hopens, hasks.trans hasks', rfl, rfl⟩
    simp only [alone, hempty, Bool.false_eq_true, if_false, outcome_get_bind]
    rw [outcome_zoom, hanswer, halone]

/-- **A document that ends** does so as by itself. -/
theorem Midway.finish (hfresh : feeder.sessions = []) (h : feeder.Midway document first s t) :
    ∃ result s' t', outcome (Feeder.finish document) s = (result, s') ∧
      outcome ((alone feeder.newSession (feeder.answers first)).finish document) t = (result, t') ∧
      feeder.Over first s' t' := by
  obtain ⟨site, _⟩ := s
  obtain ⟨queries, _⟩ := t
  obtain ⟨backend, opened, session, hanswer, hopens, hasks, rfl, rfl⟩ := h
  have hrun : outcome (Feeder.finish document) (site, .label { feeder with
      sessions := [(document.key, ⟨first.connections.size⟩, session)] }) = _ :=
    feeder.goesAlong_finish document (site, [(document.key, _, session)])
  obtain ⟨site', hclose, hcloses⟩ := Site.exists_closes (hasks.serves hopens.serves_new)
  rw [outcome_ok (Sessions.finish_some (Sessions.find?_singleton _ _) hclose),
    Sessions.erase_singleton] at hrun
  refine ⟨_, _, (queries, none), hrun, rfl, ?_, hopens.same.trans (hasks.same.trans hcloses.same),
    ?_⟩
  · rw [withSessions, ← hfresh]
  · exact (Site.asked_congr (fun i => (hopens.queriesAt_eq i).symm) hcloses.queriesAt_eq
      hcloses.size_eq).trans (hasks.asked_eq hopens.serves_new)

/-- **A label feeder in a document** acts like the document by itself. -/
theorem feeding_mirrors (hfresh : feeder.sessions = []) (document : Document) (first : Site) :
    Feeder.feeding.Mirrors (alone feeder.newSession (feeder.answers first)).feeding document
      (fun s t => s = (first, .label feeder) ∧ t = ([], none)) (feeder.Midway document first)
      (feeder.Over first) where
  begin := by
    rintro s t ⟨rfl, rfl⟩
    exact mirrors_begin hfresh
  ahead h window d := Feeder.feed.mirrors_feedAhead (alone _ _) (h.checkpoint window) d
  finish h := h.finish hfresh

end LabelFeeder

/-- Whether a feeder looks up labels. -/
def Feeder.isLabel : Feeder → Bool
  | label _ => true
  | _ => false

namespace Annotator

/-! ## What executing a document shows -/

/-- What is seen of an annotation: its type, its span and its features. -/
abbrev Content := String × Int × Int × List (String × Value)

/-- What executing a document shows to the outside. -/
structure Showing where
  /-- The annotations that it gives, or its fault. -/
  result : Except Fault (List Content)
  /-- The annotations that it has made, in this order; those made before a fault stay. -/
  created : List Content
  /-- The queries that have been asked. -/
  asked : List String

/-- The annotations that a corpus has more than an earlier one. -/
def created (before after : Corpus) : List Content :=
  (after.annotations.toList.drop before.annotations.size).map Annotation.content

/-- What executing a document shows, in a scene. -/
def shown (a : Annotator) (document : Document) (scene : Scene) : Showing :=
  let (result, after) := outcome (a.executeIn Feeder.feeding document) scene
  { result := result.map fun refs => refs.map fun ref => (after.2.markAt ref).content
    created := created scene.2 after.2
    asked := Site.asked scene.1.1.1 after.1.1.1 }

/-- What executing a document shows when there is nothing but its text, a dictionary, the session
that begins and the answers of a repository. -/
def shownAlone (a : Annotator) (dictionary : Option Dictionary) (new : LabelSession)
    (answers : Except Fault (String → Except Fault Rows)) (document : Document) : Showing :=
  match dictionary with
  | none => ⟨.error .gazetteerNotReady, [], []⟩
  | some globals =>
    let (result, (queries, _), found) :=
      outcome (a.survey globals (LabelFeeder.alone new answers).feeding document) (([], none), [])
    let contents := found.map fun f =>
      (a.type, (f.start : Int), (f.stop : Int), featuresOf f.entity)
    ⟨result.map fun _ => contents, contents, queries⟩

theorem created_of_grown {c c' : Corpus} {refs : List AnnotationRef} {marks : List Annotation}
    (h : c.Grown c' refs marks) : created c c' = marks.map Annotation.content := by
  rw [created, h.annotations, ← Array.length_toList, List.drop_left]

/-- **A document with a label feeder** shows what it shows alone. The feeder and the dictionary are
then as they were, and the sources the same. -/
theorem shown_eq_shownAlone (a : Annotator) {feeder : LabelFeeder} (hfresh : feeder.sessions = [])
    (document : Document) (site : Site) (dictionary : Option Dictionary) (c : Corpus) :
    a.shown document (((site, .label feeder), dictionary), c)
        = a.shownAlone dictionary feeder.newSession (feeder.answers site) document ∧
      ∃ site' c', (outcome (a.executeIn Feeder.feeding document)
          (((site, .label feeder), dictionary), c)).2
        = (((site', .label feeder), dictionary), c') ∧ SameSources site site' := by
  rw [shown, outcome_executeIn]
  cases dictionary with
  | none =>
    refine ⟨?_, site, c, rfl, rfl, rfl, rfl⟩
    have hnothing : Site.asked site site = [] := Site.asked_eq_nil fun _ => rfl
    have hnone : created c c = [] := created_of_grown (Corpus.Grown.refl c)
    rw [shownAlone, ← hnothing, ← hnone]
    rfl
  | some globals =>
    obtain ⟨result, found, ⟨site', feeder'⟩, t', hs, ht, rfl, hsame, hasked⟩ :=
      survey_mirrors (LabelFeeder.feeding_mirrors hfresh document site) a globals ⟨rfl, rfl⟩
    obtain ⟨refs, c', hannotate, hgrown⟩ :=
      outcome_annotate a globals Feeder.feeding document (site, .label feeder) c
    rw [hs] at hannotate hgrown
    rw [execute, hannotate, shownAlone, ht]
    refine ⟨?_, site', c', rfl, hsame⟩
    have hcontents : (refs.map fun ref => (c'.markAt ref).content)
        = found.map fun f => (a.type, (f.start : Int), (f.stop : Int), featuresOf f.entity) := by
      have hmarks := congrArg (List.map Annotation.content) hgrown.map_markAt
      rwa [List.map_map, map_content_marks] at hmarks
    simp only [created_of_grown hgrown, map_content_marks, hasked, Showing.mk.injEq, and_true]
    cases result with
    | error fault => rfl
    | ok _ => exact congrArg Except.ok hcontents

/-! ## One document after the other -/

/-- The scene after some documents have been executed, one after the other; what one of them comes
to does not keep the next one from being executed. -/
def executed (a : Annotator) (documents : List Document) (scene : Scene) : Scene :=
  documents.foldl (fun scene document => (outcome (a.executeIn Feeder.feeding document) scene).2)
    scene

/-- Whether two scenes are the same to documents that are executed there: with the same label
feeder, which has no session, the same sources and the same dictionary. -/
structure Like (scene scene' : Scene) : Prop where
  feeder : ∃ feeder : LabelFeeder, scene.1.1.2 = .label feeder ∧ scene'.1.1.2 = .label feeder ∧
    feeder.sessions = []
  same : SameSources scene.1.1.1 scene'.1.1.1
  dictionary : scene'.1.2 = scene.1.2

namespace Like

variable {scene scene' : Scene}

theorem refl (hlabel : scene.1.1.2.isLabel = true) (hidle : scene.1.1.2.activeSessions = 0) :
    Like scene scene := by
  obtain ⟨⟨⟨site, feeder⟩, dictionary⟩, c⟩ := scene
  cases feeder with
  | label feeder =>
    exact ⟨⟨feeder, rfl, rfl, List.length_eq_zero_iff.mp hidle⟩, ⟨rfl, rfl, rfl⟩, rfl⟩
  | idle => exact absurd hlabel (by simp [Feeder.isLabel])
  | vocabulary => exact absurd hlabel (by simp [Feeder.isLabel])
  | rehearsed => exact absurd hlabel (by simp [Feeder.isLabel])

/-- **Documents show the same** in scenes that are alike. -/
theorem shown (h : Like scene scene') (a : Annotator) (document : Document) :
    a.shown document scene' = a.shown document scene := by
  obtain ⟨⟨⟨site, feeder⟩, dictionary⟩, c⟩ := scene
  obtain ⟨⟨⟨site', feeder'⟩, dictionary'⟩, c'⟩ := scene'
  obtain ⟨⟨feeder, rfl, rfl, hfresh⟩, hsame, rfl⟩ := h
  rw [(a.shown_eq_shownAlone hfresh document site' dictionary' c').1,
    (a.shown_eq_shownAlone hfresh document site dictionary' c).1,
    LabelFeeder.answers_of_same hsame]

/-- **Step**: executing a document leaves a scene that is like the one before. -/
theorem execute (h : Like scene scene') (a : Annotator) (document : Document) :
    Like scene (outcome (a.executeIn Feeder.feeding document) scene').2 := by
  obtain ⟨⟨⟨site', feeder'⟩, dictionary'⟩, c'⟩ := scene'
  obtain ⟨⟨feeder, hfeeder, rfl, hfresh⟩, hsame, hdictionary⟩ := h
  obtain ⟨-, site'', c'', hafter, hsame'⟩ :=
    a.shown_eq_shownAlone hfresh document site' dictionary' c'
  rw [hafter]
  exact ⟨⟨feeder, hfeeder, rfl, hfresh⟩, hsame.trans hsame', hdictionary⟩

/-- **Run**: so does executing any documents. -/
theorem executed (h : Like scene scene') (a : Annotator) : ∀ documents : List Document,
    Like scene (a.executed documents scene') := by
  intro documents
  induction documents generalizing scene' with
  | nil => exact h
  | cons document rest ih => exact ih (h.execute a document)

theorem activeSessions_eq (h : Like scene scene') : scene'.1.1.2.activeSessions = 0 := by
  obtain ⟨feeder, -, hfeeder, hfresh⟩ := h.feeder
  rw [hfeeder, Feeder.activeSessions, hfresh]
  rfl

end Like

/-- **Documents do not influence each other**: after any documents, also ones that fail on the way,
a document shows what it shows as the first one — the same annotations, queries and fault — and the
feeder is left without a session. -/
theorem shown_executed (a : Annotator) {scene : Scene} (hlabel : scene.1.1.2.isLabel = true)
    (hidle : scene.1.1.2.activeSessions = 0) (earlier : List Document) (document : Document) :
    a.shown document (a.executed earlier scene) = a.shown document scene ∧
      (a.executed (earlier ++ [document]) scene).1.1.2.activeSessions = 0 := by
  have hlike : Like scene scene := Like.refl hlabel hidle
  exact ⟨(hlike.executed a earlier).shown a document,
    (hlike.executed a (earlier ++ [document])).activeSessions_eq⟩

/-- The pier, with a port on record, and a server that answers questions about storms with what are
no results, and is out of reach otherwise. -/
def galeSite : Site :=
  { pierSite with
    transport := { Transport.offline with
      post := fun endpoint query =>
        if Text.occursIn "storm".toList query.toList then .ok { json := .ok (.array []) }
        else Transport.offline.post endpoint query }
    engine := { Rdf.Engine.blank with
      query := fun _ _ => .ok { columns := ["inst", "cls", "label"]
                                rows := [[some "v", some "port", some "Varna"]] } } }

/-- An annotator whose feeder asks the server. -/
def galeAnnotator : Annotator where
  directory := default
  options := harbourOptions

/-- The scene after its init. -/
def galeScene : Scene :=
  (outcome (onFirst (galeAnnotator.startAt pierResolver)) (((galeSite, .label {}), none), {})).2

theorem shown_executed_gale :
    galeScene.1.1.2.isLabel = true ∧ galeScene.1.1.2.activeSessions = 0 ∧
      (galeAnnotator.shown ⟨0, 0, "log", "storm"⟩ galeScene).result.isOk = false ∧
      (galeAnnotator.shown ⟨1, 1, "map", "Varna"⟩ galeScene).created.length = 1 ∧
      (galeAnnotator.shown ⟨1, 1, "map", "Varna"⟩
          (galeAnnotator.executed [⟨0, 0, "log", "storm"⟩] galeScene)
        = galeAnnotator.shown ⟨1, 1, "map", "Varna"⟩ galeScene ∧
      (galeAnnotator.executed ([⟨0, 0, "log", "storm"⟩] ++ [⟨1, 1, "map", "Varna"⟩])
        galeScene).1.1.2.activeSessions = 0) := by
  have hlabel : galeScene.1.1.2.isLabel = true := by decide +kernel
  have hidle : galeScene.1.1.2.activeSessions = 0 := by decide +kernel
  exact ⟨hlabel, hidle, by decide +kernel, by decide +kernel,
    galeAnnotator.shown_executed hlabel hidle _ _⟩

end Annotator

end Gazetteer
