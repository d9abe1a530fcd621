import Gazetteer.Proofs.Files
import Gazetteer.Proofs.Repository.Imports

/-!
# Proofs/Repository/Loading — what the engine is told while a graph is loaded

`Loads` is one load, from the configuration to the last import: what the engine is told to do, in
order, and how the load ends. It goes on to the first file that cannot be found or read. Loading
does what this relation says, and no more than that (`outcome_loadGraph`).
-/

namespace Gazetteer.Repository

open Gazetteer.Action

/-! ## Where imports are -/

/-- Where an import is, seen from a configuration file: a literal without `://` beside it, a `file:`
URL at its path, and everything else where it says. -/
inductive IsAt (config : Path) : Rdf.Import → String → Prop
  | beside {text : String} (hurl : ¬ Text.occursIn "://".toList text.toList = true) :
      IsAt config (.literal text) (config.parent.child text).text
  | file {text : String} {path : Path} (hfile : "file:".toList <+: text.toList)
      (hpath : (Resource.text text).toPath = .ok path) : IsAt config (.iri text) path.text
  | iri {text : String} (hfile : ¬ "file:".toList <+: text.toList) : IsAt config (.iri text) text
  | literal {text location : String} (hurl : Text.occursIn "://".toList text.toList = true)
      (hiri : IsAt config (.iri text) location) : IsAt config (.literal text) location

theorem isAt_of_importLocation_iri {config : Path} {text location : String}
    (h : importLocation config (.iri text) = .ok location) : IsAt config (.iri text) location := by
  by_cases hfile : "file:".toList.isPrefixOf text.toList = true
  · rw [importLocation_file hfile] at h
    cases hpath : (Resource.text text).toPath with
    | error flaw =>
      rw [hpath] at h
      exact absurd h (by rintro ⟨⟩)
    | ok path =>
      rw [hpath] at h
      obtain rfl := Except.ok.inj h
      exact .file (List.isPrefixOf_iff_prefix.mp hfile) hpath
  · rw [show importLocation config (.iri text) = .ok text from if_neg hfile] at h
    obtain rfl := Except.ok.inj h
    exact .iri fun hprefix => hfile (List.isPrefixOf_iff_prefix.mpr hprefix)

/-- **The location of an import** is where it is. -/
theorem isAt_of_importLocation {config : Path} {source : Rdf.Import} {location : String}
    (h : importLocation config source = .ok location) : IsAt config source location := by
  cases source with
  | iri text => exact isAt_of_importLocation_iri h
  | literal text =>
    by_cases hurl : Text.occursIn "://".toList text.toList = true
    · rw [importLocation_literal hurl] at h
      exact .literal hurl (isAt_of_importLocation_iri h)
    · rw [show importLocation config (.literal text) = .ok (config.parent.child text).text from
        if_neg hurl] at h
      obtain rfl := Except.ok.inj h
      exact .beside hurl

/-- The format that an import is read in: the one that the engine knows its location by, or Turtle
if it knows none. -/
inductive IsFormat (engine : Rdf.Engine) (location : String) : String → Prop
  | guessed {format : String} (hguess : engine.guessFormat location = some format)
      (hformat : format ≠ "") : IsFormat engine location format
  | turtle (hguess : ∀ format, engine.guessFormat location = some format → format = "") :
      IsFormat engine location "turtle"

theorem isFormat_formatOf (engine : Rdf.Engine) (location : String) :
    IsFormat engine location (formatOf engine location) := by
  cases hguess : engine.guessFormat location with
  | none =>
    rw [formatOf, hguess]
    exact .turtle fun format h => absurd (hguess.symm.trans h) (by simp)
  | some format =>
    rw [formatOf, hguess]
    by_cases hformat : format = ""
    · rw [hformat]
      exact .turtle fun format' h => Option.some.inj (h.symm.trans hguess) ▸ hformat
    · rw [Option.filter_some, if_pos (by simpa using hformat)]
      exact .guessed hguess hformat

/-! ## Reading into a graph -/

/-- How imports are read into a graph, in order, up to the first one that has no location or cannot
be read. -/
inductive Imports (engine : Rdf.Engine) (files : Files) (config : Path) :
    Rdf.Graph → List Rdf.Import → List Event → Except Fault Rdf.Graph → Prop
  | done {graph : Rdf.Graph} : Imports engine files config graph [] [] (.ok graph)
  | misplaced {graph : Rdf.Graph} {source : Rdf.Import} {rest : List Rdf.Import}
      {flaw : Location.HostFlaw} (hrefused : IsRefused source flaw) :
      Imports engine files config graph (source :: rest) [] (.error (.resource (.host flaw)))
  | unreadable {graph : Rdf.Graph} {source : Rdf.Import} {rest : List Rdf.Import}
      {location format : String} {fault : Fault} (hat : IsAt config source location)
      (hformat : IsFormat engine location format)
      (hparse : engine.parse files graph location format none = .error fault) :
      Imports engine files config graph (source :: rest) [.parse location format none]
        (.error (.importUnreadable location config fault))
  | read {graph graph' : Rdf.Graph} {source : Rdf.Import} {rest : List Rdf.Import}
      {location format : String} {events : List Event} {result : Except Fault Rdf.Graph}
      (hat : IsAt config source location) (hformat : IsFormat engine location format)
      (hparse : engine.parse files graph location format none = .ok graph')
      (hrest : Imports engine files config graph' rest events result) :
      Imports engine files config graph (source :: rest)
        (.parse location format none :: events) result

/-- How a configuration is loaded: it is read into a new graph, and then all that it imports. A path
without a URL is not read: it is relative, and the working directory is gone. -/
inductive Loads (engine : Rdf.Engine) (files : Files) (config : Resource) :
    List Event → Except Fault Rdf.Graph → Prop
  | nowhere {flaw : Resource.Flaw} (hpath : config.toPath = .error flaw) :
      Loads engine files config [] (.error (.resource flaw))
  | adrift {path : Path} (hpath : config.toPath = .ok path) (hsees : ¬ files.Sees path) :
      Loads engine files config [.newGraph]
        (.error (.configurationUnreadable path (.file .adrift path.text)))
  | unreadable {path : Path} {base : String} {fault : Fault} (hpath : config.toPath = .ok path)
      (hsees : files.Sees path) (hbase : base = Path.toUrl files.herePath path)
      (hparse : engine.parse files {} path.text "turtle" (some base) = .error fault) :
      Loads engine files config [.newGraph, .parse path.text "turtle" (some base)]
        (.error (.configurationUnreadable path fault))
  | read {path : Path} {base : String} {graph : Rdf.Graph} {events : List Event}
      {result : Except Fault Rdf.Graph} (hpath : config.toPath = .ok path)
      (hsees : files.Sees path) (hbase : base = Path.toUrl files.herePath path)
      (hparse : engine.parse files {} path.text "turtle" (some base) = .ok graph)
      (himports : Imports engine files path graph graph.imports events result) :
      Loads engine files config
        (.newGraph :: .parse path.text "turtle" (some base) :: events) result

theorem outcome_readInto (graph : Rdf.Graph) (location format : String) (base : Option String)
    (site : Site) :
    outcome (readInto graph location format base) site
      = (site.engine.parse site.files graph location format base,
          site.record (.parse location format base)) :=
  outcome_ofExcept _ _

/-- **Imports are read** in order; only the events are more. -/
theorem outcome_readImports (config : Path) : ∀ (sources : List Rdf.Import) (graph : Rdf.Graph)
    (site : Site), ∃ events result,
      Imports site.engine site.files config graph sources events result ∧
      outcome (readImports config graph sources) site
        = (result, { site with events := site.events ++ events })
  | [], graph, site => ⟨[], .ok graph, .done, by rw [List.append_nil]; rfl⟩
  | source :: rest, graph, site => by
      rw [readImports, outcome_bind, outcome_ofExcept]
      cases hlocation : importLocation config source with
      | error fault =>
        obtain ⟨flaw, hrefused, rfl⟩ := importLocation_error_iff.mp hlocation
        exact ⟨[], _, .misplaced hrefused, by rw [List.append_nil]⟩
      | ok location =>
        have hat := isAt_of_importLocation hlocation
        have hformat := isFormat_formatOf site.engine location
        dsimp only
        rw [outcome_get_bind, outcome_bind, outcome_mapFault, outcome_readInto]
        cases hparse : site.engine.parse site.files graph location
          (formatOf site.engine location) none with
        | error fault => exact ⟨_, _, .unreadable hat hformat hparse, rfl⟩
        | ok graph' =>
          obtain ⟨events, result, himports, hrun⟩ := outcome_readImports config rest graph'
            (site.record (.parse location (formatOf site.engine location) none))
          refine ⟨_, result, .read hat hformat hparse himports, hrun.trans ?_⟩
          simp only [Site.record, List.append_assoc, List.singleton_append]

/-- How many graphs are begun. -/
def begun (events : List Event) : Nat :=
  events.countP fun
    | .newGraph => true
    | _ => false

section Begun

variable {engine : Rdf.Engine} {files : Files} {graph : Rdf.Graph} {events : List Event}

theorem Imports.begun_eq {config : Path} {sources : List Rdf.Import}
    {result : Except Fault Rdf.Graph}
    (h : Imports engine files config graph sources events result) : begun events = 0 := by
  induction h with
  | done | misplaced | unreadable => rfl
  | read _ _ _ _ ih => exact ih

theorem begun_newGraph (location format : String) (base : Option String)
    (h : begun events = 0) : begun (.newGraph :: .parse location format base :: events) = 1 := by
  rw [begun, List.countP_cons_of_pos rfl, List.countP_cons_of_neg (by simp)]
  exact congrArg (· + 1) h

/-- **A load that succeeds** begins one graph. -/
theorem Loads.begun_eq {config : Resource} (h : Loads engine files config events (.ok graph)) :
    begun events = 1 := by
  cases h with
  | read _ _ _ _ himports => exact begun_newGraph _ _ _ himports.begun_eq

end Begun

/-- The site with more events, and with the graphs counted that they begin. -/
def told (site : Site) (events : List Event) : Site :=
  { site with events := site.events ++ events, graphs := site.graphs + begun events }

/-- **Loading a configuration** is a load from a new graph on; the events are more, and nothing else
of the site is changed. -/
theorem outcome_loadGraph (site : Site) (config : Resource) :
    ∃ events result, Loads site.engine site.files config events result ∧
      outcome (loadGraph config) site = (result, told site events) := by
  cases hpath : config.toPath with
  | error flaw =>
    refine ⟨[], _, .nowhere hpath, ?_⟩
    rw [loadGraph, hpath, told, List.append_nil]
    rfl
  | ok path =>
    let site₁ : Site := Site.record { site with graphs := site.graphs + 1 } .newGraph
    rw [outcome, loadGraph_of_toPath site hpath, ← outcome, outcome_bind, outcome_mapFault]
    by_cases hsees : site.files.Sees path
    · let base := Path.toUrl site.files.herePath path
      have hurl : site₁.files.url path = .ok base := Files.url_eq hsees
      have hread : outcome (readConfiguration path) site₁
          = (site.engine.parse site.files {} path.text "turtle" (some base),
              site₁.record (.parse path.text "turtle" (some base))) :=
        (outcome_congr (readConfiguration_of_ok hurl)).trans (outcome_readInto ..)
      rw [hread]
      cases hparse : site.engine.parse site.files {} path.text "turtle" (some base) with
      | error fault =>
        refine ⟨_, _, .unreadable hpath hsees rfl hparse, ?_⟩
        simp only [site₁, Site.record, told, List.append_assoc]
        rfl
      | ok graph =>
        obtain ⟨events, result, himports, hrun⟩ := outcome_readImports path graph.imports graph
          (site₁.record (.parse path.text "turtle" (some base)))
        refine ⟨_, result, .read hpath hsees rfl hparse himports, hrun.trans ?_⟩
        rw [told, begun_newGraph _ _ _ himports.begun_eq]
        simp only [site₁, Site.record, List.append_assoc]
        rfl
    · have hurl : site₁.files.url path = .error .adrift := Files.url_error hsees
      have hread : outcome (readConfiguration path) site₁
          = (.error (.file .adrift path.text), site₁) :=
        outcome_error (readConfiguration_of_error hurl)
      rw [hread]
      exact ⟨_, _, .adrift hpath hsees, rfl⟩

end Gazetteer.Repository
