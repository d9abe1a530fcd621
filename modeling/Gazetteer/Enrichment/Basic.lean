import Gazetteer.Annotation.Corpus
import Gazetteer.Enrichment.Report
import Gazetteer.Enrichment.Settings
import Gazetteer.Repository.Evaluation

/-!
# Enrichment/Basic — annotations enriched with the relations of their individuals

For each annotation that names an individual, a query for its relations is made from a template, and
the values found are written into a feature of the annotation. An annotation without relations is
removed, if the settings say so; removals wait until all annotations have been gone through. An
annotation whose query cannot be made or fails is left as it is, and the fault is reported.
-/

namespace Gazetteer

namespace Enrichment

variable {σ : Type}

/-- The feature that names the individual of an annotation. -/
def instFeature : String := "inst"

/-- The feature that the values found are written into. -/
def connectionsFeature : String := "connections"

/-- What comes of one annotation. -/
inductive Finding where
  /-- Its query could not be made or failed. -/
  | failed (query : String) (fault : Fault)
  /-- It has no relations and is to be removed. -/
  | removed
  /-- The text of the values found; empty if none is bound. -/
  | found (connections : String)
deriving Repr, Inhabited

/-- The bound values of rows, each followed by a comma. -/
def connectionsOf (rows : List Row) : String :=
  String.join (rows.flatMap fun row =>
    (Row.values row).filterMap fun
      | .null => none
      | v => some (v.shown ++ ","))

/-- The query for the relations of an individual. -/
def queryFor (template inst : String) : Except Fault String :=
  match Text.Template.fill template.toList inst.toList with
  | .ok cs => .ok (String.ofList cs)
  | .error flaw => .error (.template flaw)

/-- What comes of rows, or of the fault in their place. -/
def findingOf (settings : EnrichmentSettings) (query : String) (answer : Except Fault Rows) :
    Finding :=
  match answer.bind Rows.all with
  | .error fault => .failed query fault
  | .ok rows =>
    if rows.isEmpty && settings.deleteWithoutRelations then .removed
    else .found (connectionsOf rows)

/-- Asks for the relations of an individual. -/
def find (settings : EnrichmentSettings) (ask : String → Action σ Rows) (inst : String) :
    Action σ Finding := do
  match queryFor settings.query inst with
  | .error fault => return .failed settings.query fault
  | .ok query =>
    let answer ← Action.attempt (ask query)
    return findingOf settings query answer

/-- Writes what was found into an annotation. -/
def writeFinding (ref : AnnotationRef) (finding : Finding) (c : Corpus) : Corpus :=
  match finding with
  | .found connections =>
    if connections = "" then c
    else c.updateFeatures ref fun features =>
      Value.put connectionsFeature (.string connections) features
  | _ => c

/-- The report with what came of one more annotation. -/
def reportFinding (inst : String) (finding : Finding) (r : EnrichmentReport) : EnrichmentReport :=
  let r := { r with processed := r.processed + 1 }
  match finding with
  | .failed query fault => r.addError inst query fault
  | .removed => r
  | .found connections => if connections = "" then r else { r with enriched := r.enriched + 1 }

/-- Goes through annotations, and gives the report and those that are to be removed. -/
def scan (settings : EnrichmentSettings) (ask : String → Action σ Rows) :
    List AnnotationRef → EnrichmentReport → List AnnotationRef →
      Action (σ × Corpus) (EnrichmentReport × List AnnotationRef)
  | [], report, doomed => pure (report, doomed)
  | ref :: rest, report, doomed => do
    let (_, corpus) ← get
    match Value.find? instFeature (corpus.markAt ref).features with
    | some (.string inst) =>
      let finding ← Action.onFirst (find settings ask inst)
      modify fun (s, corpus) => (s, writeFinding ref finding corpus)
      let report := reportFinding inst finding report
      match finding with
      | .removed => scan settings ask rest report (doomed ++ [ref])
      | _ => scan settings ask rest report doomed
    | _ => scan settings ask rest report doomed

/-- One pass over the annotations of a set that have the types of the settings; those without
relations are removed at its end, if the settings say so. -/
def pass (settings : EnrichmentSettings) (ask : String → Action σ Rows) (set : SetRef) :
    Action (σ × Corpus) EnrichmentReport := do
  let (_, corpus) ← get
  let (report, doomed) ← scan settings ask (corpus.select set (some settings.types)) {} []
  if settings.deleteWithoutRelations then
    let (s, corpus) ← get
    let (deleted, corpus) := corpus.removeAll set doomed
    MonadState.set (s, corpus)
    return { report with deleted }
  else return report

end Enrichment

/-- An enrichment: the repository it asks, and whether it has opened that itself. -/
structure Enrichment where
  repository : Option RepositoryId := none
  owned : Bool := true
deriving Repr, Inhabited

namespace Enrichment

/-- An enrichment that asks a given repository, or one that it opens when it starts. -/
def ofRepository (repository : Option RepositoryId) : Enrichment := ⟨repository, repository.isNone⟩

/-- The repository that the settings name. -/
def namedRepository (settings : EnrichmentSettings) : Except Fault Repository :=
  (Site.serverRepository (settings.server.getD "") (settings.repository.getD "") .null).mapError
    .enrichmentRepositoryInvalid

/-- Opens the repository that the settings name, if there is none yet. -/
def start (settings : EnrichmentSettings) : Action (Site × Enrichment) Unit := do
  let (_, enrichment) ← get
  match enrichment.repository with
  | some _ => pure ()
  | none =>
    let repository ← Action.ofExcept (namedRepository settings)
    let id ← Action.onFirst (Site.addRepository repository)
    modify fun (site, _) => (site, ⟨some id, true⟩)

/-- Shuts down the repository that the enrichment has opened itself. -/
def cleanUp : Action (Site × Enrichment) Unit := do
  let (_, enrichment) ← get
  match enrichment.repository with
  | some id =>
    if enrichment.owned then
      Action.onFirst (Site.shutdown id)
      modify fun (site, enrichment) => (site, { enrichment with repository := none })
  | none => pure ()

/-- Enriches the annotations of a document over one connection, which is closed on every way
out. -/
def execute (enrichment : Enrichment) (settings : EnrichmentSettings) (document : Document) :
    Action (Site × Corpus) EnrichmentReport := do
  match enrichment.repository with
  | none => throw .enrichmentNotReady
  | some repository =>
    let (site, corpus) ← get
    let (set, corpus) := corpus.setOf document settings.input
    MonadState.set (site, corpus)
    let connection ← Action.onFirst (Site.connect repository)
    Action.ensuring (pass settings (fun query => Site.evaluate connection query) set)
      (Action.onFirst (Site.closeConnection connection))

end Enrichment

end Gazetteer
