import Gazetteer.Proofs.Repository.Graph

/-!
# Proofs/Repository/Imports — configurations and imports whose location is refused

A configuration file has a graph, or what cannot be read is a failed query. Before anything is read
its location has to be known, and this may fail as well: for the configuration, and for every import
that is a `file:` URL with a host part that is none (`importLocation_error_iff`). Such a fault is no
failed query, and there is no other one (`graphOf_error`).
-/

namespace Gazetteer

open Location

/-! ## File URLs -/

namespace Location

/-- What is taken for the host part of a `file:` URL, given what follows the scheme. -/
def fileHost (rest : List Char) : List Char :=
  match rest.filter fun c => c ≠ '\t' && c ≠ '\r' && c ≠ '\n' with
  | '/' :: '/' :: r => r.takeWhile fun c => !(c = '/' || c = '?' || c = '#')
  | _ => []

theorem meantChars_file (rest : List Char) : meantChars ("file:".toList ++ rest)
    = "file:".toList ++ rest.filter fun c => c ≠ '\t' && c ≠ '\r' && c ≠ '\n' :=
  rfl

theorem splitScheme_file (rest : List Char) :
    splitScheme ("file:".toList ++ rest) = (['f', 'i', 'l', 'e'], rest) := rfl

/-- **A `file:` URL** is refused for its host part only. -/
theorem parse_file (rest : List Char) : ∃ path, Url.parse ("file:".toList ++ rest) =
    match hostFlaw (fileHost rest) with
    | some flaw => .error flaw
    | none => .ok ⟨['f', 'i', 'l', 'e'], fileHost rest, path⟩ := by
  have hnone : hostFlaw [] = none := by decide
  rw [Url.parse, meantChars_file, splitScheme_file, fileHost]
  generalize rest.filter _ = cs
  rcases cs with _ | ⟨c, _ | ⟨d, cs⟩⟩
  · exact ⟨_, rfl⟩
  · exact ⟨Text.beforeFirst '?' (Text.beforeFirst '#' [c]), by simp [hnone]⟩
  · by_cases hc : c = '/'
    · by_cases hd : d = '/'
      · rw [hc, hd]
        exact ⟨_, rfl⟩
      · exact ⟨Text.beforeFirst '?' (Text.beforeFirst '#' (c :: d :: cs)), by simp [hd, hnone]⟩
    · exact ⟨Text.beforeFirst '?' (Text.beforeFirst '#' (c :: d :: cs)), by simp [hc, hnone]⟩

end Location

/-- **The path of a `file:` URL** is there just when the host part is not refused. -/
theorem Resource.toPath_file {text : String} {rest : List Char}
    (h : text.toList = "file:".toList ++ rest) : ∃ p, (Resource.text text).toPath =
      match hostFlaw (fileHost rest) with
      | some flaw => .error (.host flaw)
      | none => .ok p := by
  obtain ⟨path, hparse⟩ := parse_file rest
  rw [toPath, h, hparse]
  refine ⟨Path.ofString (String.ofList (unescape (unescape path))), ?_⟩
  cases hostFlaw (fileHost rest) <;> rfl

namespace Repository

/-! ## Locations of imports -/

/-- Whether the location of an import is refused: it is an IRI, or a literal with `://`, and a
`file:` URL with a host part that is none. -/
inductive IsRefused : Rdf.Import → HostFlaw → Prop
  | iri {text : String} {rest : List Char} {flaw : HostFlaw}
      (htext : text.toList = "file:".toList ++ rest)
      (hhost : hostFlaw (fileHost rest) = some flaw) :
      IsRefused (.iri text) flaw
  | literal {text : String} {rest : List Char} {flaw : HostFlaw}
      (hurl : Text.occursIn "://".toList text.toList = true)
      (htext : text.toList = "file:".toList ++ rest)
      (hhost : hostFlaw (fileHost rest) = some flaw) :
      IsRefused (.literal text) flaw

theorem isPrefixOf_file {text : String} :
    "file:".toList.isPrefixOf text.toList = true ↔ ∃ rest, text.toList = "file:".toList ++ rest :=
  List.isPrefixOf_iff_prefix.trans (exists_congr fun _ => eq_comm)

theorem importLocation_file {config : Path} {text : String}
    (h : "file:".toList.isPrefixOf text.toList = true) : importLocation config (.iri text)
      = ((Resource.text text).toPath.mapError Fault.resource).map Path.text := by
  refine (if_pos h).trans ?_
  rw [Rdf.Import.text]
  cases (Resource.text text).toPath <;> rfl

/-- A literal with `://` is read as an IRI. -/
theorem importLocation_literal {config : Path} {text : String}
    (h : Text.occursIn "://".toList text.toList = true) :
    importLocation config (.literal text) = importLocation config (.iri text) := if_pos h

/-- An IRI has no location just when it is a `file:` URL with a host part that is none. -/
theorem importLocation_iri_error_iff {config : Path} {text : String} {fault : Fault} :
    importLocation config (.iri text) = .error fault ↔
      ∃ flaw, IsRefused (.iri text) flaw ∧ fault = .resource (.host flaw) := by
  by_cases hfile : "file:".toList.isPrefixOf text.toList = true
  · obtain ⟨rest, hrest⟩ := isPrefixOf_file.mp hfile
    obtain ⟨p, hpath⟩ := Resource.toPath_file hrest
    have hunique : ∀ rest', text.toList = "file:".toList ++ rest' → rest' = rest :=
      fun rest' h => List.append_cancel_left (h.symm.trans hrest)
    rw [importLocation_file hfile, hpath]
    cases hhost : hostFlaw (fileHost rest) with
    | none =>
      refine iff_of_false nofun ?_
      rintro ⟨flaw, ⟨hrest', hflaw⟩, -⟩
      rw [hunique _ hrest', hhost] at hflaw
      exact absurd hflaw (by simp)
    | some flaw =>
      constructor
      · intro h
        exact ⟨flaw, .iri hrest hhost, (Except.error.inj h).symm⟩
      · rintro ⟨flaw', ⟨hrest', hflaw⟩, rfl⟩
        rw [hunique _ hrest', hhost] at hflaw
        rw [Option.some.inj hflaw]
        rfl
  · refine iff_of_false ?_ ?_
    · rw [show importLocation config (.iri text) = .ok text from if_neg hfile]
      simp
    · rintro ⟨flaw, ⟨hrest, -⟩, -⟩
      exact hfile (isPrefixOf_file.mpr ⟨_, hrest⟩)

/-- **An import has no location** just when it is refused. -/
theorem importLocation_error_iff {config : Path} {source : Rdf.Import} {fault : Fault} :
    importLocation config source = .error fault ↔
      ∃ flaw, IsRefused source flaw ∧ fault = .resource (.host flaw) := by
  cases source with
  | iri text => exact importLocation_iri_error_iff
  | literal text =>
    by_cases hurl : Text.occursIn "://".toList text.toList = true
    · rw [importLocation_literal hurl, importLocation_iri_error_iff]
      refine exists_congr fun flaw => and_congr_left' ⟨?_, ?_⟩
      · rintro ⟨htext, hhost⟩
        exact .literal hurl htext hhost
      · rintro (_ | ⟨-, htext, hhost⟩)
        exact .iri htext hhost
    · refine iff_of_false ?_ ?_
      · rw [show importLocation config (.literal text) = .ok (config.parent.child text).text from
          if_neg hurl]
        simp
      · rintro ⟨flaw, _ | ⟨hurl', -⟩, -⟩
        exact hurl hurl'

/-! ## Graphs -/

variable {engine : Rdf.Engine} {files : Files} {path : Path} {config : Resource} {fault : Fault}

/-- Whether a configuration is named by no path, or imports what has no location, after imports
that are read. -/
inductive IsMisplaced (engine : Rdf.Engine) (files : Files) (config : Resource) :
    Resource.Flaw → Prop
  | config {flaw : Resource.Flaw} (hpath : config.toPath = .error flaw) :
      IsMisplaced engine files config flaw
  | source {path : Path} {graph graph' : Rdf.Graph} {before after : List Rdf.Import}
      {source : Rdf.Import} {flaw : HostFlaw} (hpath : config.toPath = .ok path)
      (hconfig : configurationOf engine files path = .ok graph)
      (himports : graph.imports = before ++ source :: after)
      (hread : importsOf engine files path graph before = .ok graph')
      (hrefused : IsRefused source flaw) : IsMisplaced engine files config (.host flaw)

theorem importsOf_append (after : List Rdf.Import) : ∀ {before : List Rdf.Import}
    {graph graph' : Rdf.Graph}, importsOf engine files path graph before = .ok graph' →
      importsOf engine files path graph (before ++ after)
        = importsOf engine files path graph' after
  | [], graph, graph', h => by
      obtain rfl := Except.ok.inj h
      rfl
  | source :: before, graph, graph', h => by
      rw [importsOf] at h
      rw [List.cons_append, importsOf]
      split at h
      · exact absurd h (by simp)
      · split at h
        · exact absurd h (by simp)
        · exact importsOf_append after h

/-- **Imports that are not read** are a failed query, unless one of them has no location. -/
theorem importsOf_error : ∀ {sources : List Rdf.Import} {graph : Rdf.Graph},
    importsOf engine files path graph sources = .error fault → fault.isQuery = true ∨
      ∃ before source after graph' flaw, sources = before ++ source :: after ∧
        importsOf engine files path graph before = .ok graph' ∧ IsRefused source flaw ∧
        fault = .resource (.host flaw)
  | [], _, h => absurd h (by simp [importsOf])
  | source :: rest, graph, h => by
      rw [importsOf] at h
      split at h
      · rename_i hlocation
        obtain rfl := Except.error.inj h
        obtain ⟨flaw, hrefused, rfl⟩ := importLocation_error_iff.mp hlocation
        exact .inr ⟨[], source, rest, graph, flaw, rfl, rfl, hrefused, rfl⟩
      · split at h
        · obtain rfl := Except.error.inj h
          exact .inl rfl
        · rename_i hlocation _ _ hparse
          rcases importsOf_error h with hquery | ⟨before, source', after, graph', flaw, hsplit,
            hread, hrefused, hfault⟩
          · exact .inl hquery
          · refine .inr ⟨source :: before, source', after, graph', flaw, by rw [hsplit]; rfl, ?_,
              hrefused, hfault⟩
            rw [importsOf, hlocation]
            dsimp only
            rw [hparse]
            exact hread

/-- **A misplaced configuration** has no graph, and for the flaw in the location. -/
theorem IsMisplaced.graphOf_eq {flaw : Resource.Flaw} (h : IsMisplaced engine files config flaw) :
    graphOf engine files config = .error (.resource flaw) := by
  cases h with
  | config hpath => rw [graphOf, hpath]
  | @source path graph graph' before after source flaw hpath hconfig himports hread hrefused =>
    have hlocation : importLocation path source = .error (.resource (.host flaw)) :=
      importLocation_error_iff.mpr ⟨flaw, hrefused, rfl⟩
    rw [graphOf, hpath]
    dsimp only
    rw [hconfig]
    dsimp only
    rw [himports, importsOf_append _ hread, importsOf, hlocation]

/-- **A configuration without a graph** is a failed query, unless it is misplaced. -/
theorem graphOf_error (h : graphOf engine files config = .error fault) :
    fault.isQuery = true ∨
      ∃ flaw, IsMisplaced engine files config flaw ∧ fault = .resource flaw := by
  rw [graphOf] at h
  split at h
  · rename_i flaw hpath
    exact .inr ⟨flaw, .config hpath, (Except.error.inj h).symm⟩
  · split at h
    · obtain rfl := Except.error.inj h
      exact .inl rfl
    · rename_i hpath _ _ hconfig
      rcases importsOf_error h with hquery | ⟨before, source, after, graph', flaw, himports, hread,
        hrefused, hfault⟩
      · exact .inl hquery
      · exact .inr ⟨_, .source hpath hconfig himports hread hrefused, hfault⟩

end Repository

end Gazetteer
