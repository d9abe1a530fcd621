import Gazetteer.CommandLine.Run
import Gazetteer.Proofs.Annotator.Staleness
import Gazetteer.Proofs.Feed.Selection
import Gazetteer.Proofs.Location.Path

/-!
# Proofs/CommandLine/Fingerprint — the fingerprints of a directory

The fingerprint of a directory's files is taken in two places. A command takes it from the
configuration as a path (`Fingerprint.ofDirectory`), and a feed from the URL of the configuration,
whose path has its escapes replaced once too often (`Resolver.meantConfig`). `Fingerprints` says
when both are the same: whenever the path of the configuration has no escapes, and otherwise just
when a file stands at the other path as well that differs in layout only. A directory whose name has
an escape in it is enough for two fingerprints (`fingerprints_percent`).
-/

namespace Gazetteer

open Gazetteer.Action Location

/-! ## What is digested -/

namespace Fingerprint

/-- The content of a configuration with its runs of blanks collapsed. -/
def collapsed (bytes : List UInt8) : List UInt8 :=
  Text.encodeSymbols (Text.collapseSymbols (Text.decodeSymbols bytes))

/-- The same is digested with another configuration just if it differs in layout only. -/
theorem material_eq_iff {config : Option (List UInt8)} {bytes : List UInt8} {query : String} :
    material config query = material (some bytes) query ↔
      ∃ bytes', config = some bytes' ∧ collapsed bytes' = collapsed bytes := by
  cases config with
  | none => simp [material]
  | some bytes' => simp [material, collapsed]

/-- The fingerprint of the configuration of a directory, as a path, and a query. -/
def ofDirectory (files : Files) (directory : Path) (query : String) : Nat :=
  compute files (.path (directory.child Defaults.configFile)) query

end Fingerprint

/-! ## The command -/

namespace CommandLine

/-- Every text can be given to the command. -/
theorem parse_fingerprint (text : String) :
    parse ["fingerprint", "--", text] = .ok (.run .fingerprint text 0) := by
  have htopic : Topic.ofName? "fingerprint" = some .fingerprint := by decide
  have hgather : gather .fingerprint {} ["--", text] = .ok { arguments := [text] } := rfl
  have hshown : Text.readInteger? "0".toList = some 0 := by decide +kernel
  have hcommand : command "fingerprint" ["--", text] = .ok (.run .fingerprint text 0) := by
    rw [command, htopic]
    simp only [hgather, Gathered.request, Option.getD_none, hshown, Bool.false_eq_true, if_false]
  exact hcommand

variable {site : Site} {text : String} {bytes : List UInt8} {cs : List Char}

theorem directoryFlaw?_of_directory (htext : text ≠ "")
    (hdirectory : site.files.node? (Path.ofString text) = .ok .directory) (topic : Topic) :
    directoryFlaw? site.files topic text = none := by
  have hnode : nodeAt site.files text = .ok .directory := by
    rw [nodeAt, if_neg (by simpa using htext), hdirectory]
  rw [directoryFlaw?, hnode]

/-- **The command prints** the fingerprint of the configuration as a path, and changes nothing. -/
theorem run_fingerprint (htext : text ≠ "")
    (hdirectory : site.files.node? (Path.ofString text) = .ok .directory)
    (hquery : site.files.readBytes ((Path.ofString text).child Defaults.queryFile) = .ok bytes)
    (hdecode : Text.decode? bytes = some cs) {words : List String} {shown : Int}
    (hwords : parse words = .ok (.run .fingerprint text shown)) (program : String) :
    run program words site = .ok (.printed [toString (Fingerprint.ofDirectory site.files
      (Path.ofString text) (String.ofList (Text.unifyLineBreaks cs)))]) site := by
  have hending : runFingerprint site.files (Path.ofString text)
      = .printed [toString (Fingerprint.ofDirectory site.files (Path.ofString text)
        (String.ofList (Text.unifyLineBreaks cs)))] := by
    simp only [runFingerprint, hquery, hdecode]
    rfl
  have hcommand : runCommand .fingerprint text shown site
      = .ok (runFingerprint site.files (Path.ofString text)) site := by
    rw [runCommand, get_bind, directoryFlaw?_of_directory htext hdirectory]
    rfl
  rw [run, hwords]
  exact (bind_ok (attempt_ok hcommand) _).trans (by rw [hending]; rfl)

end CommandLine

/-! ## Both fingerprints -/

/-- Whether the names that lead to the working directory are names, and none leads back. -/
def Files.HasProperHere (files : Files) : Prop :=
  ∀ name ∈ files.herePath.names, Path.IsName name ∧ name ≠ ".."

instance (files : Files) : Decidable files.HasProperHere :=
  inferInstanceAs (Decidable (∀ name ∈ files.herePath.names, Path.IsName name ∧ name ≠ ".."))

/-- What the fingerprint of a feed has to do with the one that the command prints. -/
structure Fingerprints (site : Site) (text query : String) (fingerprint : Nat) : Prop where
  /-- Some words ask for the command. -/
  asked : CommandLine.parse ["fingerprint", "--", text] = .ok (.run .fingerprint text 0)
  /-- The command prints the fingerprint of the configuration as a path. -/
  printed (site' : Site) (program : String) (words : List String) (shown : Int) :
    site'.files = site.files → CommandLine.parse words = .ok (.run .fingerprint text shown) →
      CommandLine.run program words site' = .ok (.printed
        [toString (Fingerprint.ofDirectory site.files (Path.ofString text) query)]) site'
  /-- That of the feed is the same if the path of the configuration has no escapes. -/
  plain :
    unescape (Resolver.fileOf site.here (Path.ofString text) Defaults.configFile).text.toList
        = (Resolver.fileOf site.here (Path.ofString text) Defaults.configFile).text.toList →
      fingerprint = Fingerprint.ofDirectory site.files (Path.ofString text) query
  /-- In any case it is the same just if there is a file at the other path that differs in layout
  only, provided that the digests do not collide. -/
  agree_iff :
    let path := (Path.ofString text).child Defaults.configFile
    let covered := Fingerprint.coverage site.files (.path path) query
    let covered' := Fingerprint.coverage site.files
      (Resolver.configUrl site.files (Path.ofString text)) query
    (Digest.short covered' = Digest.short covered → covered' = covered) →
      (fingerprint = Fingerprint.ofDirectory site.files (Path.ofString text) query ↔
        ∃ bytes bytes', site.files.readBytes path = .ok bytes ∧
          site.files.readBytes (Resolver.meantConfig site.files (Path.ofString text)) = .ok bytes' ∧
          Fingerprint.collapsed bytes' = Fingerprint.collapsed bytes)

section

variable {site : Site} {directory : Path} {bytes : List UInt8}

theorem Files.HasProperHere.up_notMem {files : Files} (h : files.HasProperHere) :
    ".." ∉ files.herePath.names := fun hup => (h ".." hup).2 rfl

/-- Without escapes the other path is the path of the configuration. -/
theorem Resolver.meantConfig_of_plain (h : site.files.HasProperHere)
    (hdirectory : directory.IsProper)
    (hplain : unescape (fileOf site.here directory Defaults.configFile).text.toList
      = (fileOf site.here directory Defaults.configFile).text.toList) :
    meantConfig site.files directory = fileOf site.here directory Defaults.configFile := by
  have hhere : site.here.IsProper := ⟨Nat.le_succ 1, fun name hname => (h name hname).1⟩
  have htext : unescape (fileOf site.files.herePath directory Defaults.configFile).text.toList
      = (fileOf site.here directory Defaults.configFile).text.toList := hplain
  rw [meantConfig, htext, String.ofList_toList]
  exact Path.ofString_text (hhere.join (hdirectory.child _))

/-- **The same is digested** in both places just if there is a file at the other path that differs
in layout only. -/
theorem Fingerprint.coverage_eq_iff {files : Files} {query : String}
    (hread : files.readBytes (directory.child Defaults.configFile) = .ok bytes) :
    coverage files (Resolver.configUrl files directory) query
        = coverage files (.path (directory.child Defaults.configFile)) query ↔
      ∃ bytes', files.readBytes (Resolver.meantConfig files directory) = .ok bytes' ∧
        collapsed bytes' = collapsed bytes := by
  rw [coverage, coverage, configBytes_eq (Resolver.toPath_configUrl files directory),
    configBytes_eq rfl, hread]
  refine material_eq_iff.trans ?_
  cases files.readBytes (Resolver.meantConfig files directory) <;> simp [Except.toOption]

/-- **The fingerprints of a directory.** For a directory that resolves to a feed of its files, the
command prints the fingerprint of the configuration as a path, and the feed has the fingerprint of
whatever stands at that path with its escapes replaced. -/
theorem fingerprints_of_resolve {resolver : Resolver} {text : String} {config : Resource}
    {query : String} {fingerprint : Nat} {after : Site} (hhere : site.files.HasProperHere)
    (htext : text ≠ "")
    (hresolve : resolver.resolve (Path.ofString text) site
      = .ok (.files config query (some (fingerprint : Int))) after) :
    Fingerprints site text query fingerprint := by
  have hfeed := (Resolver.of_resolve_eq_files hresolve).2
  have hcompute := Resolver.fingerprint_of_localFeed? hfeed
  have hsees := (Resolver.of_localFeed?_eq_ok hfeed).1
  obtain ⟨⟨hconfig, -⟩, bytes, cs, ds, hread, hdecode, hreads, heq⟩ :=
    Resolver.isOfFiles_of_localFeed? hfeed
  obtain rfl := (Resolver.readsAs_unifyLineBreaks cs).unique hreads
  obtain ⟨rfl, rfl, -⟩ := Feed.files.inj heq
  obtain ⟨content, hcontent⟩ := Files.isFile_iff.mp hconfig
  -- The feed reads both files by their absolute paths, the command as they are given.
  have hpath := Files.readBytes_of_absolute hhere.up_notMem
    (Files.absolute_eq ((Resolver.absolute_child Resolver.ofString_configFile).mpr hsees)) hcontent
  have hquery := Files.readBytes_of_absolute hhere.up_notMem
    (Files.absolute_eq ((Resolver.absolute_child Resolver.ofString_queryFile).mpr hsees)) hread
  have hchild : (Path.ofString text).child Defaults.queryFile
      = ⟨(Path.ofString text).slashes, (Path.ofString text).names ++ [Defaults.queryFile]⟩ := by
    rw [Path.child, Resolver.ofString_queryFile]
    rfl
  have hdirectory : site.files.node? (Path.ofString text) = .ok .directory :=
    Files.node?_of_readBytes (by decide : Defaults.queryFile ≠ "..") (by rw [hchild])
      (by rw [hchild]) hquery
  have hprinted : Fingerprint.ofDirectory site.files (Path.ofString text)
      (String.ofList (Text.unifyLineBreaks cs)) = Digest.short (Fingerprint.coverage site.files
        (.path ((Path.ofString text).child Defaults.configFile))
        (String.ofList (Text.unifyLineBreaks cs))) := rfl
  exact {
    asked := CommandLine.parse_fingerprint text
    printed := fun site' program words shown hfiles hwords => by
      rw [← hfiles] at hdirectory hquery ⊢
      exact CommandLine.run_fingerprint htext hdirectory hquery hdecode hwords program
    plain := fun hplain => by
      have hmeant := Resolver.meantConfig_of_plain hhere (Path.isProper_ofString text) hplain
      rw [hcompute, hprinted]
      refine congrArg Digest.short ((Fingerprint.coverage_eq_iff hpath).mpr ⟨content, ?_, rfl⟩)
      rw [hmeant]
      exact hcontent
    agree_iff := fun hcollision => by
      rw [hcompute, hprinted]
      refine (Iff.intro hcollision (congrArg Digest.short)).trans
        ((Fingerprint.coverage_eq_iff hpath).trans ?_)
      constructor
      · rintro ⟨bytes', hother, hlayout⟩
        exact ⟨content, bytes', hpath, hother, hlayout⟩
      · rintro ⟨bytes₀, bytes', hbytes₀, hother, hlayout⟩
        obtain rfl := Except.ok.inj (hpath.symm.trans hbytes₀)
        exact ⟨bytes', hother, hlayout⟩ }

/-- A directory with an escape in its name. -/
def percentSite : Site :=
  { Site.bare with
    files :=
      { here := some ["r"]
        nodes := [(["r"], .directory), (["r", "50%25"], .directory),
          (["r", "50%25", Defaults.configFile], .file (Text.encode "cfg".toList)),
          (["r", "50%25", Defaults.queryFile], .file (Text.encode "q".toList))] } }

/-- **Two fingerprints of one directory**: the feed has that of the query alone. -/
theorem fingerprints_percent : ∃ config after fingerprint,
    Annotator.offline.resolve (Path.ofString "50%25") percentSite
      = .ok (.files config "q" (some ((fingerprint : Nat) : Int))) after ∧
    Fingerprints percentSite "50%25" "q" fingerprint ∧
    fingerprint = Digest.short (Text.encode "q".toList) ∧
    fingerprint ≠ Fingerprint.ofDirectory percentSite.files (Path.ofString "50%25") "q" := by
  have hresolve := Annotator.resolve_offline percentSite (Path.ofString "50%25") "q"
    (by decide) (by decide +kernel) (by decide +kernel) (by decide +kernel)
  exact ⟨_, _, _, hresolve, fingerprints_of_resolve (by decide) (by decide) hresolve,
    by decide +kernel, by decide +kernel⟩

end

end Gazetteer
