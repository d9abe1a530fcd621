import Gazetteer.Proofs.Action
import Gazetteer.Repository.Evaluation

/-!
# Proofs/Repository/Graph — the graph of a configuration, as a function

Loading a configuration file begins a new graph and notes what the engine is asked. The graph itself
depends on the engine and the files alone: `graphOf` is that function, and `loadGraph_eq` says that
loading is this function, but for the events.
-/

namespace Gazetteer.Repository

/-- The graph with the imports of a configuration file read into it. -/
def importsOf (engine : Rdf.Engine) (files : Files) (config : Path) :
    Rdf.Graph → List Rdf.Import → Except Fault Rdf.Graph
  | graph, [] => .ok graph
  | graph, source :: rest =>
    match importLocation config source with
    | .error fault => .error fault
    | .ok location =>
      match engine.parse files graph location (formatOf engine location) none with
      | .error fault => .error (.importUnreadable location config fault)
      | .ok graph => importsOf engine files config graph rest

/-- The graph of a configuration file by itself. -/
def configurationOf (engine : Rdf.Engine) (files : Files) (path : Path) : Except Fault Rdf.Graph :=
  match files.url path with
  | .error flaw => .error (.file flaw path.text)
  | .ok base => engine.parse files {} path.text "turtle" (some base)

/-- The graph of a configuration file and all that it imports. -/
def graphOf (engine : Rdf.Engine) (files : Files) (config : Resource) : Except Fault Rdf.Graph :=
  match config.toPath with
  | .error flaw => .error (.resource flaw)
  | .ok path =>
    match configurationOf engine files path with
    | .error fault => .error (.configurationUnreadable path fault)
    | .ok graph => importsOf engine files path graph graph.imports

theorem readInto_eq (site : Site) (graph : Rdf.Graph) (location format : String)
    (base : Option String) :
    readInto graph location format base site
      = Action.ofExcept (site.engine.parse site.files graph location format base)
          (site.record (.parse location format base)) := rfl

/-- **Reading imports** gives the graph with them; only the events are more. -/
theorem readImports_eq (config : Path) : ∀ (sources : List Rdf.Import) (graph : Rdf.Graph)
    (site : Site), ∃ events, readImports config graph sources site
      = Action.ofExcept (importsOf site.engine site.files config graph sources)
          { site with events }
  | [], graph, site => ⟨site.events, rfl⟩
  | source :: rest, graph, site => by
      rw [readImports, importsOf]
      cases importLocation config source with
      | error fault => exact ⟨site.events, rfl⟩
      | ok location =>
        simp only []
        let format := formatOf site.engine location
        let site₁ := site.record (.parse location format none)
        have hread := readInto_eq site graph location format none
        rw [Action.bind_ok (Action.ofExcept_ok location site), Action.get_bind]
        cases hparse : site.engine.parse site.files graph location format none with
        | error fault =>
          rw [hparse] at hread
          refine ⟨site₁.events, ?_⟩
          exact Action.bind_error (by simp only [Action.mapFault, format, hread]; rfl) _
        | ok graph' =>
          rw [hparse] at hread
          obtain ⟨events, ih⟩ := readImports_eq config rest graph' site₁
          refine ⟨events, ?_⟩
          rw [Action.bind_ok (Action.mapFault_ok hread)]
          exact ih

/-- Without a working directory a relative configuration has no URL, and nothing is read. -/
theorem readConfiguration_of_error {site : Site} {path : Path} {flaw : FileFlaw}
    (h : site.files.url path = .error flaw) :
    readConfiguration path site = .error (.file flaw path.text) site := by
  rw [readConfiguration, Action.get_bind, Site.url, h]
  rfl

/-- A configuration is read with its URL for a base. -/
theorem readConfiguration_of_ok {site : Site} {path : Path} {base : String}
    (h : site.files.url path = .ok base) :
    readConfiguration path site = readInto {} path.text "turtle" (some base) site := by
  rw [readConfiguration, Action.get_bind, Site.url, h]
  rfl

/-- **Reading a configuration** gives its graph; only the events may be more. -/
theorem readConfiguration_eq (site : Site) (path : Path) :
    ∃ events, readConfiguration path site
      = Action.ofExcept (configurationOf site.engine site.files path) { site with events } := by
  rw [configurationOf]
  cases hurl : site.files.url path with
  | error flaw => exact ⟨site.events, readConfiguration_of_error hurl⟩
  | ok base => exact ⟨_, (readConfiguration_of_ok hurl).trans (readInto_eq ..)⟩

/-- A load begins a new graph, and reads the configuration into it. -/
theorem loadGraph_of_toPath (site : Site) {config : Resource} {path : Path}
    (hpath : config.toPath = .ok path) : loadGraph config site
      = ((readConfiguration path).mapFault (.configurationUnreadable path)
          >>= fun graph => readImports path graph graph.imports)
        (Site.record { site with graphs := site.graphs + 1 } .newGraph) := by
  rw [loadGraph, hpath]
  rfl

/-- **Loading a configuration** gives its graph; only the events are more, and the count of
graphs. -/
theorem loadGraph_eq (site : Site) (config : Resource) :
    ∃ events graphs, loadGraph config site
      = Action.ofExcept (graphOf site.engine site.files config) { site with events, graphs } := by
  rw [graphOf]
  cases hpath : config.toPath with
  | error flaw =>
    refine ⟨site.events, site.graphs, ?_⟩
    rw [loadGraph, hpath]
    rfl
  | ok path =>
    simp only []
    let site₁ : Site := Site.record { site with graphs := site.graphs + 1 } .newGraph
    obtain ⟨events, hread⟩ := readConfiguration_eq site₁ path
    have hbegin := loadGraph_of_toPath site hpath
    have hengine : configurationOf site₁.engine site₁.files path
      = configurationOf site.engine site.files path := rfl
    rw [hengine] at hread
    cases hconfig : configurationOf site.engine site.files path with
    | error fault =>
      rw [hconfig] at hread
      exact ⟨_, _, hbegin.trans (Action.bind_error (Action.mapFault_error hread) _)⟩
    | ok graph =>
      rw [hconfig] at hread
      obtain ⟨events', himports⟩ := readImports_eq path graph.imports graph
        { site₁ with events }
      exact ⟨events', _,
        (hbegin.trans (Action.bind_ok (Action.mapFault_ok hread) _)).trans himports⟩

end Gazetteer.Repository
