import Gazetteer.Proofs.Annotator.CacheReuse
import Gazetteer.Rdf.FileEngine

/-!
# Proofs/Annotator/Staleness — dictionaries in the cache that are out of date

An init takes the dictionary out of the cache whenever the fingerprint of its feed is the one that
the dictionary was saved with. The fingerprint covers the configuration and the query, both with
their runs of blanks collapsed (`Fingerprint.coverage`). What pushing the feed builds depends on
more than that: on the files that the configuration imports (`coverage_agreeOff`), and on blanks
that are not layout, such as the end of the line that ends a comment.

`stale_iff` says when a dictionary that an earlier init saved is taken although it is `Stale`: just
when the covered bytes are the same and pushing the feed would build another dictionary, or none.
`stale_atlas` is such a case.
-/

namespace Gazetteer

/-- What a fingerprint covers of a configuration and a query. -/
def Fingerprint.coverage (files : Files) (config : Resource) (query : String) : List UInt8 :=
  material (configBytes files config) query

/-- The dictionary that pushing local files builds. -/
def Feed.localDictionary (engine : Rdf.Engine) (files : Files) (config : Resource)
    (query : String) : Except Fault Dictionary :=
  match localEntities engine files config query with
  | .error fault => .error fault
  | .ok es => Dictionary.empty.addAll es

namespace Annotator

open Gazetteer.Action Fingerprint

variable {directory : Path} {config config' : Resource} {query query' : String}
  {fingerprint fingerprint' : Nat} {base : Dictionary} {site site' after after' : Site}
  {a a' : Annotator} {resolver resolver' : Resolver} {feeder : Feeder}
  {previous : Option Dictionary} {bytes : List UInt8}

/-- **Nothing but the configuration and the query is covered**: other files may be edited as one
likes, those that the configuration imports among them. -/
theorem coverage_agreeOff {files files' : Files} {name : List String}
    (h : Files.AgreeOff name files files') (hname : files.at? name ≠ some .directory)
    (hname' : files'.at? name ≠ some .directory)
    (hconfig : name.getLast? ≠ some Defaults.configFile) (directory : Path) (query : String) :
    coverage files' (Resolver.configUrl files' directory) query
      = coverage files (Resolver.configUrl files directory) query := by
  rw [coverage, coverage, Resolver.configBytes_agreeOff h hname hname' hconfig]

theorem exists_of_localDictionary
    (h : Feed.localDictionary site.engine site.files config query = .ok base) :
    ∃ es, Feed.localEntities site.engine site.files config query = .ok es ∧
      Dictionary.empty.addAll es = .ok base := by
  rw [Feed.localDictionary] at h
  split at h
  · exact absurd h (by simp)
  · exact ⟨_, ‹_›, h⟩

/-- **What an init gets by pushing** is the dictionary that pushing the feed builds. -/
theorem exists_pushed_files_iff {fingerprint : Option Int} :
    (∃ s, a.pushed (Feed.files config query fingerprint).source site = .ok base s) ↔
      Feed.localDictionary site.engine site.files config query = .ok base := by
  constructor
  · rintro ⟨s, h⟩
    obtain ⟨s₁, hpush, -⟩ := exists_of_pushed_ok h
    have hpush' : Feed.push Dictionary.listener (.files config query fingerprint) (site, .empty)
        = .ok () (s₁, base) := hpush
    obtain ⟨es, hes, hhand⟩ := Feed.localEntities_of_push hpush'
    rw [Feed.localDictionary, hes]
    exact handAll_listener_iff.mp hhand
  · intro h
    obtain ⟨es, hes, hbase⟩ := exists_of_localDictionary h
    obtain ⟨s, -, hpushed⟩ := pushed_files hes hbase a fingerprint
    exact ⟨s, hpushed⟩

/-! ## What an init saves -/

/-- Whether an init with the cache succeeded, and left bytes in the cache file that were not there
before and that it could write to their end. -/
structure Saves (a : Annotator) (resolver : Resolver) (s : (Site × Feeder) × Option Dictionary)
    (bytes : List UInt8) : Prop where
  useCache : a.useCache = true
  succeeds : ∃ variant, (outcome (a.startAt resolver) s).1 = .ok variant
  writable : a.cache.IsWritable s.1.1.files
  before : s.1.1.files.readBytes a.cache.path ≠ .ok bytes
  after : (outcome (a.startAt resolver) s).2.1.1.files.readBytes a.cache.path = .ok bytes

/-- An init that finds a dictionary in the cache leaves the files alone. -/
theorem Saves.cached_eq_none (h : Saves a resolver ((site, feeder), previous) bytes)
    (hresolve : resolver.resolve a.directory site
      = .ok (.files config query (some (fingerprint : Int))) after) :
    a.cached a.cache.access (Feed.files config query (some (fingerprint : Int))).source after
      = .ok none after := by
  have hgiven := (resolver.given_resolve a.directory).ok hresolve
  obtain ⟨variant, hstart⟩ := h.succeeds
  have hload : a.cached a.cache.access (Feed.files config query (some fingerprint)).source after
      = ofExcept (a.cache.load after.files (some fingerprint)) after := by
    rw [cached_of_fingerprint h.useCache rfl, access_load]
  rw [hload]
  cases hfound : a.cache.load after.files (some fingerprint) with
  | error fault =>
    rw [hfound] at hload
    have hfails : a.startAt resolver ((site, feeder), previous)
        = .error fault ((after, feeder), previous) :=
      start_error (bind_ok hresolve _) (bind_error hload _)
    rw [outcome_error hfails] at hstart
    exact absurd hstart (by simp)
  | ok found =>
    cases found with
    | none => rfl
    | some d =>
      rw [hfound] at hload
      have heq : a.startAt resolver ((site, feeder), previous)
          = a.feedFrom Feeder.feeding .localRepository d ((after, feeder), previous) :=
        startWith_of_cached_some hresolve hload _
      have hfiles := Site.files_eq_of_given ((given_outcome_startAt heq).trans hgiven)
      have hafter := h.after
      rw [hfiles] at hafter
      exact absurd hafter h.before

/-- **What an init saves** is the dictionary that pushing its feed builds. -/
theorem Saves.exists_dictionary (h : Saves a resolver ((site, feeder), previous) bytes)
    (hresolve : resolver.resolve a.directory site
      = .ok (.files config query (some (fingerprint : Int))) after) :
    ∃ base es, Feed.localEntities site.engine site.files config query = .ok es ∧
      Dictionary.empty.addAll es = .ok base ∧
      bytes = Cache.bytesOf site.time (some fingerprint) base := by
  obtain ⟨variant, hstart⟩ := h.succeeds
  obtain ⟨es, base, site₁, hes, hbase, hsave, -, heq⟩ :=
    exists_saved_of_cached_none rfl h.useCache hresolve (h.cached_eq_none hresolve) hstart
  refine ⟨base, es, hes, hbase, ?_⟩
  have hafter := h.after
  rw [Site.files_eq_of_given (given_outcome_startAt heq), hsave] at hafter
  exact Except.ok.inj (hafter.symm.trans (Cache.readBytes_save h.writable _ _ _))

/-! ## Taking it out of the cache -/

/-- Whether an init takes a dictionary out of the cache that pushing its feed would not build. -/
def Stale (a : Annotator) (resolver : Resolver) (site : Site) : Prop :=
  ∃ feed after d s, resolver.resolve a.directory site = .ok feed after ∧
    a.cached a.cache.access feed.source after = .ok (some d) s ∧
      ∀ s', a.pushed feed.source after ≠ .ok d s'

/-- A dictionary that is taken is stale if pushing the feed does not build it. -/
theorem stale_iff_of_cached {feed : Feed} {found : Option Dictionary}
    (hresolve : resolver.resolve a.directory site = .ok feed after)
    (hcached : a.cached a.cache.access feed.source after = .ok found after) :
    Stale a resolver site ↔ ∃ d, found = some d ∧ ¬ ∃ s, a.pushed feed.source after = .ok d s := by
  constructor
  · rintro ⟨feed', after₁, d, s, hresolve₁, hcached₁, hpushed⟩
    obtain ⟨rfl, rfl⟩ := EStateM.Result.ok.inj (hresolve.symm.trans hresolve₁)
    have hfound := (EStateM.Result.ok.inj (hcached.symm.trans hcached₁)).1
    exact ⟨d, hfound, fun ⟨s', h⟩ => hpushed s' h⟩
  · rintro ⟨d, rfl, hpushed⟩
    exact ⟨feed, after, d, after, hresolve, hcached, fun s' h => hpushed ⟨s', h⟩⟩

/-- **A cache file with what was saved** for one fingerprint serves this fingerprint and no other.
-/
theorem cached_of_bytesOf {time : String} {es : List Entity}
    (hlossless : Json.Lossless (Cache.contents time (some fingerprint) base))
    (hbase : Dictionary.empty.addAll es = .ok base)
    (hfile : site'.files.readBytes a'.cache.path
      = .ok (Cache.bytesOf time (some fingerprint) base))
    (huse : a'.useCache = true) :
    a'.cached a'.cache.access (Feed.files config' query' (some (fingerprint' : Int))).source site'
      = .ok (if fingerprint' = fingerprint then some base else none) site' := by
  have hread := Cache.read_of_readBytes hlossless hfile
  rw [cached_of_fingerprint huse rfl, access_load, Cache.load_contents hread hbase]
  by_cases heq : fingerprint' = fingerprint
  · rw [if_pos heq, if_pos (by rw [heq])]
    rfl
  · have hne : ¬ some (fingerprint : Int) = some (fingerprint' : Int) := fun h =>
      heq (Int.ofNat.inj (Option.some.inj h)).symm
    rw [if_neg heq, if_neg hne]
    rfl

/-- **A later init of the directory** finds the dictionary just when its feed has the same covered
bytes. -/
theorem Saves.exists_cached (h : Saves a resolver ((site, feeder), previous) bytes)
    (hdirectory : a.directory = directory)
    (hresolve : resolver.resolve directory site
      = .ok (.files config query (some (fingerprint : Int))) after)
    (hkept : site'.files.readBytes a'.cache.path = .ok bytes) (huse' : a'.useCache = true)
    (hresolve' : resolver'.resolve directory site'
      = .ok (.files config' query' (some (fingerprint' : Int))) after')
    (hcollision :
      Digest.short (coverage site'.files config' query')
          = Digest.short (coverage site.files config query) →
        coverage site'.files config' query' = coverage site.files config query) :
    ∃ base, Feed.localDictionary site.engine site.files config query = .ok base ∧
      a'.cached a'.cache.access
          (Feed.files config' query' (some (fingerprint' : Int))).source after'
        = .ok (if coverage site'.files config' query' = coverage site.files config query
            then some base else none) after' := by
  subst hdirectory
  obtain ⟨base, es, hes, hbase, rfl⟩ := h.exists_dictionary hresolve
  have hfeed := (Resolver.of_resolve_eq_files hresolve).2
  have hfeed' := (Resolver.of_resolve_eq_files hresolve').2
  have hsame : fingerprint' = fingerprint ↔
      coverage site'.files config' query' = coverage site.files config query := by
    rw [Resolver.fingerprint_of_localFeed? hfeed, Resolver.fingerprint_of_localFeed? hfeed']
    exact ⟨hcollision, fun h => congrArg Digest.short h⟩
  have hfile : after'.files.readBytes a'.cache.path
      = .ok (Cache.bytesOf site.time (some fingerprint) base) := by
    rw [Site.files_eq_of_given ((resolver'.given_resolve _).ok hresolve'), hkept]
  have hlossless := lossless_of_localEntities hfeed hes hbase site.time
  refine ⟨base, ?_, ?_⟩
  · rw [Feed.localDictionary, hes]
    exact hbase
  · rw [cached_of_bytesOf hlossless hbase hfile huse']
    simp only [hsame]

/-- **When a dictionary in the cache is taken although it is out of date.** An init saved it for one
feed; a later one, which may have other files, resolves to another feed. The later one takes the
dictionary just when the covered bytes of both feeds are the same, whatever its push would do. So it
is stale just when these are the same and pushing the later feed would not build the dictionary that
pushing the earlier one did. -/
theorem stale_iff (hsaves : Saves a resolver ((site, feeder), previous) bytes)
    (hdirectory : a.directory = directory)
    (hresolve : resolver.resolve directory site
      = .ok (.files config query (some (fingerprint : Int))) after)
    (hkept : site'.files.readBytes a'.cache.path = .ok bytes)
    (hdirectory' : a'.directory = directory) (huse' : a'.useCache = true)
    (hresolve' : resolver'.resolve directory site'
      = .ok (.files config' query' (some (fingerprint' : Int))) after')
    (hcollision :
      Digest.short (coverage site'.files config' query')
          = Digest.short (coverage site.files config query) →
        coverage site'.files config' query' = coverage site.files config query)
    (feeder' : Feeder) (previous' : Option Dictionary) :
    (coverage site'.files config' query' = coverage site.files config query →
      ∃ base s, Feed.localDictionary site.engine site.files config query = .ok base ∧
        s.given = site'.given ∧ ∀ push,
          a'.startWith push resolver' ((site', feeder'), previous')
            = a'.feedFrom Feeder.feeding .localRepository base ((s, feeder'), previous')) ∧
    (coverage site'.files config' query' ≠ coverage site.files config query →
      ∀ fault, ∃ s, a'.startWith (fun _ => throw fault) resolver' ((site', feeder'), previous')
        = .error (a'.pushFault fault) s) ∧
    (Stale a' resolver' site' ↔
      coverage site'.files config' query' = coverage site.files config query ∧
      Feed.localDictionary site'.engine site'.files config' query'
        ≠ Feed.localDictionary site.engine site.files config query) := by
  obtain ⟨base, hbuilt, hcached⟩ :=
    hsaves.exists_cached hdirectory hresolve hkept huse' hresolve' hcollision
  have hgiven' := (resolver'.given_resolve directory).ok hresolve'
  rw [← hdirectory'] at hresolve'
  refine ⟨fun hcovered => ?_, fun hcovered fault => ?_, ?_⟩
  · rw [if_pos hcovered] at hcached
    exact ⟨base, after', hbuilt, hgiven', startWith_of_cached_some hresolve' hcached⟩
  · rw [if_neg hcovered] at hcached
    exact ⟨_, startWith_of_cached_none hresolve' hcached rfl fault⟩
  · simp only [stale_iff_of_cached hresolve' hcached, exists_pushed_files_iff,
      Site.engine_eq_of_given hgiven', Site.files_eq_of_given hgiven', hbuilt]
    by_cases hcovered : coverage site'.files config' query' = coverage site.files config query
    · simp [hcovered]
    · simp [hcovered]

/-! ## An atlas of islands -/

/-- The configuration of an atlas: a comment, a blank, and two triples about an island. -/
def atlasConfig (blank : String) : Node :=
  .file (Text.encode ("# islands" ++ blank ++ "<urn:malta> <urn:kind> <urn:island> .\n"
    ++ "<urn:malta> <urn:name> \"Malta\" .\n").toList)

/-- The query for all islands of an atlas. -/
def atlasQuery : String :=
  "SELECT ?inst ?cls ?label WHERE \x7b ?inst <urn:kind> ?cls ; <urn:name> ?label . \x7d"

/-- A directory with the configuration, its comment on a line of its own, and the query. -/
def atlasFiles : Files where
  here := some ["r"]
  nodes := [(["r"], .directory), (["r", "d"], .directory),
    (["r", "d", Defaults.configFile], atlasConfig "\n"),
    (["r", "d", Defaults.queryFile], .file (Text.encode atlasQuery.toList))]

/-- An engine that reads all files as N-Triples, which is what the configuration is. -/
def atlasEngine : Rdf.Engine :=
  { Rdf.fileEngine with
    parse := fun files graph location _ base =>
      Rdf.fileEngine.parse files graph location "nt" base }

def atlasSite : Site := { Site.bare with files := atlasFiles, engine := atlasEngine }

/-- The site of the atlas after a first init. -/
def atlasSaved : Site := (outcome (islands.startAt offline) ((atlasSite, .idle), none)).2.1.1

/-- The same after an edit that puts the first triple into the comment. -/
def atlasEdited : Site :=
  { atlasSaved with
    files := atlasSaved.files.set ["r", "d", Defaults.configFile] (atlasConfig " ") }

/-- What the first init and the edit lead to. One evaluation gives it all, since every part of it
has to run the init. -/
theorem atlas_runs :
    endsLocal (outcome (islands.startAt offline) ((atlasSite, .idle), none)).1 = true ∧
    atlasSaved.files.isFile islands.cache.path = true ∧
    atlasSaved.files.at? ["r", "d", Defaults.configFile] ≠ some .directory ∧
    atlasSaved.files.locate islands.cache.path ≠ .ok ["r", "d", Defaults.configFile] ∧
    atlasEdited.files.Sees ⟨0, ["d"]⟩ ∧
    atlasEdited.files.isFile
      (Resolver.fileOf atlasEdited.here ⟨0, ["d"]⟩ Defaults.configFile) = true ∧
    atlasEdited.files.readBytes (Resolver.fileOf atlasEdited.here ⟨0, ["d"]⟩ Defaults.queryFile)
      = .ok (Text.encode atlasQuery.toList) ∧
    coverage atlasEdited.files (Resolver.configUrl atlasEdited.files ⟨0, ["d"]⟩) atlasQuery
      = coverage atlasFiles (Resolver.configUrl atlasFiles ⟨0, ["d"]⟩) atlasQuery ∧
    (Feed.localDictionary atlasEdited.engine atlasEdited.files
        (Resolver.configUrl atlasEdited.files ⟨0, ["d"]⟩) atlasQuery).toOption.map
          (Cache.bytesOf "" none)
      ≠ (Feed.localDictionary atlasEngine atlasFiles
        (Resolver.configUrl atlasFiles ⟨0, ["d"]⟩) atlasQuery).toOption.map
          (Cache.bytesOf "" none) := by
  decide +kernel

/-- **An edit of a single blank**, which takes the island out of the graph, leaves the next init a
stale dictionary. -/
theorem stale_atlas : Stale islands offline atlasEdited := by
  obtain ⟨hends, hsaved, hname, hcache, hsees, hconfig, hquery, hcovered, hbuilt⟩ := atlas_runs
  obtain ⟨bytes, hbytes⟩ := Files.isFile_iff.mp hsaved
  have hsaves : Saves islands offline ((atlasSite, .idle), none) bytes :=
    { useCache := rfl
      succeeds := ⟨_, endsLocal_iff.mp hends⟩
      writable := fun _ => by with_unfolding_all rfl
      before := by
        have hnone : atlasFiles.readBytes islands.cache.path = .error .notFound := by
          decide +kernel
        exact fun h => absurd (hnone.symm.trans h) (by simp)
      after := hbytes }
  have hkept : atlasEdited.files.readBytes islands.cache.path = .ok bytes :=
    (Files.agreeOff_set atlasSaved.files _ (atlasConfig " ")).readBytes_ok hname hcache hbytes
  have hresolve := resolve_offline atlasSite ⟨0, ["d"]⟩ atlasQuery (by decide)
    (by decide +kernel) (by decide +kernel) (by decide +kernel)
  have hresolve' := resolve_offline atlasEdited ⟨0, ["d"]⟩ atlasQuery hsees hconfig hquery
    (by decide +kernel)
  obtain ⟨-, -, hstale⟩ := stale_iff hsaves rfl hresolve hkept rfl rfl hresolve'
    (fun _ => hcovered) .idle none
  exact hstale.mpr ⟨hcovered, fun heq => hbuilt (by rw [heq]; rfl)⟩

end Annotator

end Gazetteer
