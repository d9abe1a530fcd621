import Gazetteer.Proofs.Annotator.Start
import Mathlib.Logic.Relation

/-!
# Proofs/Annotator/CacheReuse — inits that follow one another in a directory

A first init with the cache leaves the records of its feed in the cache file. What holds from then
on is `Warm`: the file has the dictionary of the feed, and the feed of the directory would still be
the same. No later init changes that, with the cache or without it (`Warm.of_inits`), since only an
init that finds nothing in the cache writes to it.

So every later init has the same dictionary to start from, before its feeder adds to it
(`Warm.startAt_eq`). With the cache it does not push the feed at all (`Warm.startWith_eq`), and
without the cache it always does (`Warm.startWith_throw`). Once a file of the directory is gone, the
cache still serves (`Warm.startAt_gone`).

The main result is `startAt_transparent`. It asks for a free place for the cache file, and that the
file can be written there. `startAt_blocked` shows what happens where a directory stands in its
place, where the place is locked, and where the disk is full.
-/

namespace Gazetteer

/-- Whether what an engine makes of a configuration does not depend on the file at a place: it is no
part of the configuration and its imports. -/
def Rdf.Engine.Overlooks (engine : Rdf.Engine) (files : Files) (config : Resource)
    (name : List String) : Prop :=
  ∀ bytes, Repository.graphOf engine (files.set name (.file bytes)) config
    = Repository.graphOf engine files config

theorem Repository.importsOf_congr {engine : Rdf.Engine} {files files' : Files}
    (h : engine.parse files' = engine.parse files) (config : Path) :
    ∀ (sources : List Rdf.Import) (graph : Rdf.Graph),
      importsOf engine files' config graph sources = importsOf engine files config graph sources
  | [], _ => rfl
  | source :: rest, graph => by
      rw [importsOf, importsOf, h]
      simp only [importsOf_congr h config rest]

/-- An engine overlooks a file that it does not read. -/
theorem Rdf.Engine.overlooks_of_parse {engine : Rdf.Engine} {files : Files} {name : List String}
    (h : ∀ bytes, engine.parse (files.set name (.file bytes)) = engine.parse files)
    (config : Resource) : engine.Overlooks files config name := by
  intro bytes
  have hurl : ∀ path, (files.set name (.file bytes)).url path = files.url path := fun _ => rfl
  simp only [Repository.graphOf, Repository.configurationOf, hurl, h bytes,
    Repository.importsOf_congr (h bytes)]

namespace Annotator

open Gazetteer.Action

/-- A directory whose cache file holds the dictionary of its feed. -/
structure Warm (directory : Path) (config : Resource) (query : String) (fingerprint : Nat)
    (time : String) (es : List Entity) (base : Dictionary) (site : Site) : Prop where
  file : site.files.readBytes (Cache.inDirectory directory).path
    = .ok (Cache.bytesOf time (some fingerprint) base)
  feed : Resolver.localFeed? site directory = .ok (some (.files config query (some fingerprint)))
  entities : Feed.localEntities site.engine site.files config query = .ok es
  built : Dictionary.empty.addAll es = .ok base

variable {directory : Path} {config : Resource} {query : String} {fingerprint : Nat}
  {time : String} {es : List Entity} {base : Dictionary} {site site' : Site} {a : Annotator}
  {resolver : Resolver} {feeder : Feeder} {previous : Option Dictionary}

/-- A directory stays as it is while the files and the engine do. -/
theorem Warm.of_eq (h : Warm directory config query fingerprint time es base site)
    (hfiles : site'.files = site.files) (hengine : site'.engine = site.engine) :
    Warm directory config query fingerprint time es base site' where
  file := by rw [hfiles, h.file]
  feed := (Resolver.localFeed?_of_files hfiles directory).trans h.feed
  entities := by rw [hfiles, hengine, h.entities]
  built := h.built

theorem Warm.of_given (h : Warm directory config query fingerprint time es base site)
    (hgiven : site'.given = site.given) :
    Warm directory config query fingerprint time es base site' :=
  h.of_eq (Site.files_eq_of_given hgiven) (Site.engine_eq_of_given hgiven)

/-! ## What the cache gives back -/

theorem lossless_of_localEntities {engine : Rdf.Engine} {files : Files}
    (hfeed : Resolver.localFeed? site directory
      = .ok (some (.files config query (some fingerprint))))
    (hes : Feed.localEntities engine files config query = .ok es)
    (hbase : Dictionary.empty.addAll es = .ok base) (time : String) :
    Json.Lossless (Cache.contents time (some fingerprint) base) := by
  have hfingerprint : fingerprint < 2 ^ 64 := by
    rw [Resolver.fingerprint_of_localFeed? hfeed]
    exact Digest.short_lt _
  refine Cache.lossless_contents time hfingerprint fun e he => ?_
  rw [Dictionary.records_addAll hbase] at he
  exact Feed.isText_of_localEntities hes e (List.mem_filter.mp he).1

theorem Warm.read (h : Warm directory config query fingerprint time es base site) :
    (Cache.inDirectory directory).read site.files = Cache.contents time (some fingerprint) base :=
  Cache.read_of_readBytes (lossless_of_localEntities h.feed h.entities h.built time) h.file

/-- **The cache serves the feed** that it was written for. -/
theorem Warm.cached_eq (h : Warm directory config query fingerprint time es base site)
    (hdirectory : a.directory = directory) (huse : a.useCache = true) (source : Source Site)
    (hfingerprint : source.fingerprint = some (fingerprint : Int)) :
    a.cached a.cache.access source site = .ok (some base) site := by
  rw [cached_of_fingerprint huse hfingerprint, access_load, cache, hdirectory,
    Cache.load_of_read h.read h.built]
  rfl

/-! ## Inits with a warm cache -/

/-- The feed of the directory is what a resolver gives that finds no service. -/
theorem Warm.resolve_eq (h : Warm directory config query fingerprint time es base site)
    (hdirectory : a.directory = directory) (hservice : resolver.FindsNoService site) :
    ∃ site', site'.given = site.given ∧ resolver.resolve a.directory site
      = .ok (.files config query (some (fingerprint : Int))) site' := by
  obtain ⟨site', hgiven, hresolve⟩ := resolver.resolve_of_findsNoService hservice h.feed
  exact ⟨site', hgiven, hdirectory ▸ hresolve⟩

/-- **With the cache** an init goes on from the dictionary of the feed, whatever pushing the feed
would do. -/
theorem Warm.startWith_eq (h : Warm directory config query fingerprint time es base site)
    (hdirectory : a.directory = directory) (hservice : resolver.FindsNoService site)
    (huse : a.useCache = true) (feeder : Feeder) (previous : Option Dictionary) :
    ∃ site', site'.given = site.given ∧ ∀ push : Feed → Action (Site × Dictionary) Unit,
      a.startWith push resolver ((site, feeder), previous)
        = a.feedFrom Feeder.feeding .localRepository base ((site', feeder), previous) := by
  obtain ⟨site', hgiven, hresolve⟩ := h.resolve_eq hdirectory hservice
  have hcached := (h.of_given hgiven).cached_eq hdirectory huse
    (Feed.files config query (some fingerprint)).source rfl
  exact ⟨site', hgiven, startWith_of_cached_some hresolve hcached⟩

/-- **Without the cache** an init pushes the feed, and fails as the push does. -/
theorem Warm.startWith_throw (h : Warm directory config query fingerprint time es base site)
    (hdirectory : a.directory = directory) (hservice : resolver.FindsNoService site)
    (huse : a.useCache = false) (fault : Fault) (feeder : Feeder) (previous : Option Dictionary) :
    ∃ site', a.startWith (fun _ => throw fault) resolver ((site, feeder), previous)
      = .error (a.pushFault fault) ((site', feeder), previous) := by
  obtain ⟨site', -, hresolve⟩ := h.resolve_eq hdirectory hservice
  exact ⟨site', startWith_of_cached_none hresolve (cached_of_not_useCache huse _ _ site') rfl fault⟩

/-- What pushing the feed gives, at any site where it is the same. -/
theorem pushed_files (hes : Feed.localEntities site.engine site.files config query = .ok es)
    (hbase : Dictionary.empty.addAll es = .ok base) (a : Annotator) (fingerprint : Option Int) :
    ∃ site', site'.given = site.given ∧
      a.pushed (Feed.files config query fingerprint).source site = .ok base site' := by
  obtain ⟨site', hgiven, hpush⟩ := Feed.push_files_ok hes fingerprint
  exact ⟨site', hgiven, pushed_ok (hpush Dictionary.listener (handAll_listener_iff.mpr hbase)) rfl⟩

/-- **Every init with a warm cache** goes on from the dictionary of the feed. -/
theorem Warm.startAt_eq (h : Warm directory config query fingerprint time es base site)
    (hdirectory : a.directory = directory) (hservice : resolver.FindsNoService site)
    (feeder : Feeder) (previous : Option Dictionary) :
    ∃ site', site'.given = site.given ∧ a.startAt resolver ((site, feeder), previous)
      = a.feedFrom Feeder.feeding .localRepository base ((site', feeder), previous) := by
  rw [startAt_eq_startWith]
  cases huse : a.useCache with
  | true =>
    obtain ⟨site', hgiven, heq⟩ := h.startWith_eq hdirectory hservice huse feeder previous
    exact ⟨site', hgiven, heq _⟩
  | false =>
    obtain ⟨site₁, hgiven₁, hresolve⟩ := h.resolve_eq hdirectory hservice
    have h₁ := h.of_given hgiven₁
    obtain ⟨site₂, hgiven₂, hpushed⟩ := pushed_files h₁.entities h₁.built a (some fingerprint)
    have hd : a.dictionaryOf a.cache.access
        (Feed.files config query (some fingerprint)).source site₁ = .ok base site₂ := by
      rw [dictionaryOf_of_pushed (cached_of_not_useCache huse _ _ site₁) hpushed, huse]
      rfl
    exact ⟨site₂, hgiven₂.trans hgiven₁, start_of_dictionaryOf (bind_ok hresolve _) hd⟩

/-! ## Runs of inits -/

/-- The sites that inits of a directory lead to, one after the other. The annotators differ as they
like in all but the directory, and so do their feeders; each is one that was there before or a fresh
one. In between anything may happen that leaves the files and the engine alone. -/
inductive Inits (directory : Path) (site : Site) : Site → Prop
  | refl : Inits directory site site
  | init {site₁ : Site} (a : Annotator) (resolver : Resolver) (feeder : Feeder)
      (previous : Option Dictionary) : Inits directory site site₁ → a.directory = directory →
      resolver.FindsNoService site₁ →
      Inits directory site (outcome (a.startAt resolver) ((site₁, feeder), previous)).2.1.1
  | meanwhile {site₁ site₂ : Site} : Inits directory site site₁ → site₂.files = site₁.files →
      site₂.engine = site₁.engine → Inits directory site site₂

/-- **Step**: an init leaves the directory as it found it. -/
theorem Warm.outcome_startAt (h : Warm directory config query fingerprint time es base site)
    (hdirectory : a.directory = directory) (hservice : resolver.FindsNoService site)
    (feeder : Feeder) (previous : Option Dictionary) :
    Warm directory config query fingerprint time es base
      (outcome (a.startAt resolver) ((site, feeder), previous)).2.1.1 := by
  obtain ⟨site', hgiven, heq⟩ := h.startAt_eq hdirectory hservice feeder previous
  exact h.of_given ((given_outcome_startAt heq).trans hgiven)

/-- **Run**: so do all inits that follow one another. -/
theorem Warm.of_inits (h : Warm directory config query fingerprint time es base site)
    (hrun : Inits directory site site') :
    Warm directory config query fingerprint time es base site' := by
  induction hrun with
  | refl => exact h
  | init a resolver feeder previous _ hdirectory hservice ih =>
    exact ih.outcome_startAt hdirectory hservice feeder previous
  | meanwhile _ hfiles hengine ih => exact ih.of_eq hfiles hengine

/-! ## When a file is gone -/

/-- Whether a tree is what is left when the configuration or the query of a directory is removed. -/
def Removes (directory : Path) (files files' : Files) : Prop :=
  ∃ name bytes, files.at? name = some (.file bytes) ∧ Files.AgreeOff name files files' ∧
    files'.at? name = none ∧
    (files.locate (Resolver.fileOf files.herePath directory Defaults.configFile) = .ok name ∨
      files.locate (Resolver.fileOf files.herePath directory Defaults.queryFile) = .ok name)

/-- Whether one of the two was removed, or one after the other. -/
def Gone (directory : Path) : Files → Files → Prop := Relation.TransGen (Removes directory)

/-- The cache file is none of the two. -/
theorem locate_cache_ne {files : Files} {name : List String}
    (h : files.locate (Resolver.fileOf files.herePath directory Defaults.configFile) = .ok name ∨
      files.locate (Resolver.fileOf files.herePath directory Defaults.queryFile) = .ok name) :
    files.locate (Cache.inDirectory directory).path ≠ .ok name := by
  intro hcache
  have hlast := Files.getLast?_of_locate (by decide) (Cache.names_inDirectory directory) hcache
  rcases h with h | h
  · obtain ⟨names, hnames⟩ :=
      Resolver.names_fileOf files.herePath directory Resolver.ofString_configFile
    rw [Files.getLast?_of_locate (by decide) hnames h] at hlast
    exact absurd hlast (by decide)
  · obtain ⟨names, hnames⟩ :=
      Resolver.names_fileOf files.herePath directory Resolver.ofString_queryFile
    rw [Files.getLast?_of_locate (by decide) hnames h] at hlast
    exact absurd hlast (by decide)

/-- Removing one of the two leaves the cache file as it is. -/
theorem Removes.readBytes_cache {files files' : Files} (h : Removes directory files files')
    {bytes : List UInt8} (hread : files.readBytes (Cache.inDirectory directory).path = .ok bytes) :
    files'.readBytes (Cache.inDirectory directory).path = .ok bytes := by
  obtain ⟨name, _, hat, hagree, -, hlocate⟩ := h
  exact hagree.readBytes_ok (by simp [hat]) (locate_cache_ne hlocate) hread

theorem Gone.readBytes_cache {files files' : Files} (h : Gone directory files files')
    {bytes : List UInt8} (hread : files.readBytes (Cache.inDirectory directory).path = .ok bytes) :
    files'.readBytes (Cache.inDirectory directory).path = .ok bytes := by
  induction h with
  | single hremoves => exact hremoves.readBytes_cache hread
  | tail _ hremoves ih => exact hremoves.readBytes_cache ih

theorem Gone.here_eq {files files' : Files} (h : Gone directory files files') :
    files'.here = files.here := by
  induction h with
  | single hremoves =>
    obtain ⟨_, _, -, hagree, -⟩ := hremoves
    exact hagree.1
  | tail _ hremoves ih =>
    obtain ⟨_, _, -, hagree, -⟩ := hremoves
    exact hagree.1.trans ih

theorem Gone.localFeed?_eq_none {files : Files} (h : Gone directory files site.files)
    (hsees : files.Sees directory) : Resolver.localFeed? site directory = .ok none := by
  have hhere := h.here_eq
  obtain ⟨files', -, name, _, -, hagree, hnone, hlocate⟩ := Relation.TransGen.tail'_iff.mp h
  have hsees' : files'.Sees directory := by rwa [Files.Sees, ← hagree.1, hhere]
  exact Resolver.localFeed?_eq_none hagree hsees' hnone hlocate

/-- **Once a file of the directory is gone**, an init with the cache goes on from the dictionary of
the feed that there was. -/
theorem Warm.startAt_gone (h : Warm directory config query fingerprint time es base site)
    (hgone : Gone directory site.files site'.files) (hdirectory : a.directory = directory)
    (hservice : resolver.FindsNoService site') (huse : a.useCache = true) (feeder : Feeder)
    (previous : Option Dictionary) :
    ∃ site'', site''.given = site'.given ∧ a.startAt resolver ((site', feeder), previous)
      = a.feedFrom Feeder.feeding .unavailable base ((site'', feeder), previous) := by
  have hnone := hgone.localFeed?_eq_none (Resolver.of_localFeed?_eq_ok h.feed).1
  obtain ⟨site'', hgiven, hresolve⟩ := resolver.resolve_of_findsNoService hservice hnone
  have hfile : site''.files.readBytes (Cache.inDirectory directory).path
      = .ok (Cache.bytesOf time (some fingerprint) base) := by
    rw [Site.files_eq_of_given hgiven, hgone.readBytes_cache h.file]
  have hread := Cache.read_of_readBytes
    (lossless_of_localEntities h.feed h.entities h.built time) hfile
  have hcached : a.cached a.cache.access (Feed.unavailable directory).source site''
      = .ok (some base) site'' := by
    rw [cached_of_unavailable huse rfl rfl, access_loadAny, cache, hdirectory,
      Cache.loadAny_of_read hread h.built]
    rfl
  rw [startAt_eq_startWith]
  exact ⟨site'', hgiven, startWith_of_cached_some (hdirectory ▸ hresolve) hcached _⟩

/-! ## The first init -/

/-- An init that finds nothing in the cache. -/
theorem cached_of_free {name : List String}
    (hfree : site.files.IsFree (Cache.inDirectory directory).path name)
    (hdirectory : a.directory = directory) (source : Source Site) {fingerprint : Int}
    (hfingerprint : source.fingerprint = some fingerprint) :
    a.cached a.cache.access source site = .ok none site := by
  cases huse : a.useCache with
  | false => exact cached_of_not_useCache huse _ _ site
  | true =>
    have hread : (Cache.inDirectory directory).read site.files = .null := by
      have hnot : site.files.readBytes (Cache.inDirectory directory).path = .error .notFound := by
        rw [Files.readBytes, Files.node?, hfree.1]
        simp only [hfree.2]
      rw [Cache.read, hnot]
    have hload : (Cache.inDirectory directory).load site.files (some fingerprint) = .ok none := by
      rw [Cache.load, hread]
    rw [cached_of_fingerprint huse hfingerprint, access_load, cache, hdirectory, hload]
    rfl

/-- **Saving makes a directory warm.** -/
theorem warm_of_save {name : List String}
    (hfeed : Resolver.localFeed? site directory
      = .ok (some (.files config query (some fingerprint))))
    (hfree : site.files.IsFree (Cache.inDirectory directory).path name)
    (hwritable : (Cache.inDirectory directory).IsWritable site.files)
    (hoverlooks : site.engine.Overlooks site.files config name)
    (hes : Feed.localEntities site.engine site.files config query = .ok es)
    (hbase : Dictionary.empty.addAll es = .ok base)
    (hfiles : site'.files
      = (Cache.inDirectory directory).save time (some fingerprint) base site.files)
    (hengine : site'.engine = site.engine) :
    Warm directory config query fingerprint time es base site' := by
  rw [Cache.save_free hfree hwritable] at hfiles
  let bytes := Cache.bytesOf time (some fingerprint) base
  have hlast := Files.getLast?_of_locate (by decide) (Cache.names_inDirectory directory) hfree.1
  have hset : (site.files.set name (.file bytes)).at? name ≠ some .directory := by
    rw [Files.at?_set site.files hfree.ne_nil]
    simp
  have hgraph : Feed.localEntities site.engine (site.files.set name (.file bytes)) config query
      = Feed.localEntities site.engine site.files config query := by
    rw [Feed.localEntities, Feed.localEntities, Feed.localRows, Feed.localRows, hoverlooks bytes]
  exact
    { file := by rw [hfiles, Files.readBytes_set hfree.1 hfree.ne_directory]
      feed := (Resolver.localFeed?_agreeOff (Files.agreeOff_set site.files name _)
        hfree.ne_directory hset (by rw [hlast]; decide) (by rw [hlast]; decide) rfl hfiles
        directory).trans hfeed
      entities := by rw [hfiles, hengine, hgraph, hes]
      built := hbase }

/-- **An init that finds nothing in the cache** pushes the feed, and saves its dictionary before the
feeder adds to it. -/
theorem exists_saved_of_cached_none {variant : Variant} {after : Site}
    (hdirectory : a.directory = directory) (huse : a.useCache = true)
    (hresolve : resolver.resolve directory site
      = .ok (.files config query (some (fingerprint : Int))) after)
    (hcached : a.cached a.cache.access
      (Feed.files config query (some (fingerprint : Int))).source after = .ok none after)
    (hstart : (outcome (a.startAt resolver) ((site, feeder), previous)).1 = .ok variant) :
    ∃ es base site', Feed.localEntities site.engine site.files config query = .ok es ∧
      Dictionary.empty.addAll es = .ok base ∧
      site'.files
        = (Cache.inDirectory directory).save site.time (some fingerprint) base site.files ∧
      site'.engine = site.engine ∧
      a.startAt resolver ((site, feeder), previous)
        = a.feedFrom Feeder.feeding .localRepository base ((site', feeder), previous) := by
  have hgiven := (resolver.given_resolve directory).ok hresolve
  have hrun := eq_ok_of_outcome (Prod.ext hstart rfl :
    outcome (a.startAt resolver) ((site, feeder), previous) = (.ok variant, _))
  obtain ⟨source, site₁, base, site₃, hsource, hdictionary, -⟩ := exists_of_start_ok hrun
  have hsource' := bind_ok (hdirectory ▸ hresolve : resolver.resolve a.directory site = .ok _ after)
    fun feed => pure feed.source
  obtain ⟨rfl, rfl⟩ := EStateM.Result.ok.inj (hsource'.symm.trans hsource)
  rw [dictionaryOf, bind_ok hcached] at hdictionary
  obtain ⟨d, site₂, hpushed, -⟩ := exists_of_bind_ok hdictionary
  obtain ⟨site₅, hpush, -⟩ := exists_of_pushed_ok hpushed
  have hpush' : Feed.push Dictionary.listener (.files config query (some (fingerprint : Int)))
      (after, .empty) = .ok () (site₅, d) := hpush
  obtain ⟨es, hes, hhand⟩ := Feed.localEntities_of_push hpush'
  have hd := handAll_listener_iff.mp hhand
  obtain ⟨site₄, hgiven₄, hpushed₄⟩ := pushed_files hes hd a (some fingerprint)
  let saved : Site :=
    { site₄ with files := a.cache.save site₄.time (some fingerprint) d site₄.files }
  have hsaved : a.dictionaryOf a.cache.access
      (Feed.files config query (some fingerprint)).source after = .ok d saved := by
    rw [dictionaryOf_of_pushed hcached hpushed₄, huse]
    rfl
  rw [Site.engine_eq_of_given hgiven, Site.files_eq_of_given hgiven] at hes
  have hgiven₅ := hgiven₄.trans hgiven
  have hfiles : saved.files
      = (Cache.inDirectory directory).save site.time (some fingerprint) d site.files := by
    rw [← Site.time_eq_of_given hgiven₅, ← Site.files_eq_of_given hgiven₅, ← hdirectory]
    rfl
  have hengine : site₄.engine = site.engine := Site.engine_eq_of_given hgiven₅
  exact ⟨es, d, saved, hes, hd, hfiles, hengine, start_of_dictionaryOf hsource' hsaved⟩

/-- **A first init with the cache** leaves the dictionary of the feed in it. -/
theorem exists_warm_of_first {name : List String} {variant : Variant} {after : Site}
    (hdirectory : a.directory = directory) (huse : a.useCache = true)
    (hresolve : resolver.resolve directory site
      = .ok (.files config query (some (fingerprint : Int))) after)
    (hfree : site.files.IsFree (Cache.inDirectory directory).path name)
    (hwritable : (Cache.inDirectory directory).IsWritable site.files)
    (hoverlooks : site.engine.Overlooks site.files config name)
    (hstart : (outcome (a.startAt resolver) ((site, feeder), previous)).1 = .ok variant) :
    ∃ es base site', Feed.localEntities site.engine site.files config query = .ok es ∧
      Warm directory config query fingerprint site.time es base site' ∧
      site'.files = site.files.set name
        (.file (Cache.bytesOf site.time (some fingerprint) base)) ∧
      a.startAt resolver ((site, feeder), previous)
        = a.feedFrom Feeder.feeding .localRepository base ((site', feeder), previous) := by
  have hfeed := (Resolver.of_resolve_eq_files hresolve).2
  have hfiles := Site.files_eq_of_given ((resolver.given_resolve directory).ok hresolve)
  have hcached : a.cached a.cache.access
      (Feed.files config query (some (fingerprint : Int))).source after = .ok none after :=
    cached_of_free (hfiles.symm ▸ hfree) hdirectory _ rfl
  obtain ⟨es, base, site', hes, hbase, hsave, hengine, heq⟩ :=
    exists_saved_of_cached_none hdirectory huse hresolve hcached hstart
  exact ⟨es, base, site', hes,
    warm_of_save hfeed hfree hwritable hoverlooks hes hbase hsave hengine,
    hsave.trans (Cache.save_free hfree hwritable _ _ _), heq⟩

/-! ## A directory of islands -/

/-- A query for one island, which is part of the query itself. -/
def islandQuery : String :=
  "SELECT ?inst ?cls ?label WHERE \x7b VALUES (?inst ?cls ?label) \x7b "
    ++ "(\"malta\" \"island\" \"Malta\") \x7d \x7d"

/-- A directory with the query, a configuration that says nothing, and whatever else stands there.
-/
def islandFiles (others : List (List String × Node)) : Files where
  here := some ["r"]
  nodes := [(["r"], .directory), (["r", "d"], .directory),
    (["r", "d", Defaults.configFile], .file (Text.encode "# islands\n".toList)),
    (["r", "d", Defaults.queryFile], .file (Text.encode islandQuery.toList))] ++ others

/-- An engine as far as the directory needs one: the configuration has no triples, and the query has
the same answer in all graphs. -/
def islandEngine : Rdf.Engine :=
  { Rdf.Engine.blank with
    query := fun _ _ => .ok { columns := ["inst", "cls", "label"]
                              rows := [[some "malta", some "island", some "Malta"]] } }

def siteOver (files : Files) : Site := { Site.bare with files, engine := islandEngine }

def islandSite (others : List (List String × Node)) : Site := siteOver (islandFiles others)

/-- The annotator of the directory. -/
def islands : Annotator := { directory := ⟨0, ["d"]⟩ }

/-- A resolver without a service. -/
def offline : Resolver := { provider := .absent }

theorem resolve_offline (site : Site) (directory : Path) (query : String)
    (hsees : site.files.Sees directory)
    (hconfig : site.files.isFile (Resolver.fileOf site.here directory Defaults.configFile) = true)
    (hquery : site.files.readBytes (Resolver.fileOf site.here directory Defaults.queryFile)
      = .ok (Text.encode query.toList))
    (hbreaks : '\r' ∉ query.toList) :
    offline.resolve directory site = .ok (.files (Resolver.configUrl site.files directory) query
      (some (Fingerprint.compute site.files (Resolver.configUrl site.files directory) query)))
      site := by
  have hremote : offline.remoteFeed? site = .ok none site := rfl
  rw [Resolver.resolve_of_remoteFeed?_none hremote, Resolver.localFeed?_of_sees hsees]
  simp only [Resolver.feedOfFiles?_eq, hconfig, hquery, Text.decode?_encode,
    Text.unifyLineBreaks_of_notMem hbreaks, String.ofList_toList, if_true]
  rfl

theorem localEntities_islandSite : Feed.localEntities islandEngine (islandFiles [])
    (Resolver.configUrl (islandFiles []) ⟨0, ["d"]⟩) islandQuery
      = .ok [Entity.ofStrings "malta" "island" "Malta"] := by
  obtain ⟨p, -, hp, -⟩ := Resolver.exists_path_configUrl (islandFiles []) ⟨0, ["d"]⟩
  have hgraph : Repository.graphOf islandEngine (islandFiles [])
      (Resolver.configUrl (islandFiles []) ⟨0, ["d"]⟩) = .ok {} := by
    have hsees : (islandFiles []).Sees p := .inr rfl
    rw [Repository.graphOf, hp]
    dsimp only
    rw [Repository.configurationOf, Files.url_eq hsees]
    rfl
  rw [Feed.localEntities, Feed.localRows, hgraph]
  rfl

/-- Whether an init ended with the feed of the directory. -/
def endsLocal : Except Fault Variant → Bool
  | .ok .localRepository => true
  | _ => false

theorem endsLocal_iff {r : Except Fault Variant} :
    endsLocal r = true ↔ r = .ok .localRepository := by
  constructor
  · intro h
    unfold endsLocal at h
    split at h
    · rfl
    · exact absurd h (by simp)
  · rintro rfl
    rfl

/-! ## Cache transparency -/

/-- What holds of every init of a directory at a site whose cache file has some records. -/
structure Transparent (directory : Path) (records : List Entity) (bytes : List UInt8)
    (site : Site) : Prop where
  /-- The cache file has the records of the feed, and none of a feeder. -/
  file : site.files.readBytes (Cache.inDirectory directory).path = .ok bytes
  /-- Every init ends with these records and what its feeder adds after them. -/
  fed (a : Annotator) (resolver : Resolver) (feeder : Feeder) (previous : Option Dictionary) :
    a.directory = directory → resolver.FindsNoService site →
      ∃ site', site'.given = site.given ∧
        a.Fed records (site', feeder) (a.startAt resolver ((site, feeder), previous))
  /-- With the cache it makes no difference what pushing the feed would do. -/
  unpushed (a : Annotator) (resolver : Resolver) (feeder : Feeder)
      (previous : Option Dictionary) :
    a.directory = directory → resolver.FindsNoService site → a.useCache = true →
      ∀ push, a.startWith push resolver ((site, feeder), previous)
        = a.startAt resolver ((site, feeder), previous)
  /-- Without the cache an init fails as pushing the feed does. -/
  pushed (a : Annotator) (resolver : Resolver) (feeder : Feeder) (previous : Option Dictionary) :
    a.directory = directory → resolver.FindsNoService site → a.useCache = false →
      ∀ fault, ∃ s, a.startWith (fun _ => throw fault) resolver ((site, feeder), previous)
        = .error (a.pushFault fault) s
  /-- When the configuration or the query is gone, an init with the cache still ends so. -/
  gone (a : Annotator) (resolver : Resolver) (feeder : Feeder) (previous : Option Dictionary)
      (site' : Site) :
    Gone directory site.files site'.files → a.directory = directory →
      resolver.FindsNoService site' → a.useCache = true →
        ∃ site'', site''.given = site'.given ∧
          a.Fed records (site'', feeder) (a.startAt resolver ((site', feeder), previous))

theorem Warm.transparent (h : Warm directory config query fingerprint time es base site) :
    Transparent directory (es.filter Entity.isKept) (Cache.bytesOf time (some fingerprint) base)
      site where
  file := h.file
  fed a resolver feeder previous hdirectory hservice := by
    obtain ⟨site', hgiven, heq⟩ := h.startAt_eq hdirectory hservice feeder previous
    rw [heq]
    exact ⟨site', hgiven, fed_feedFrom (Dictionary.addAll_filter_isKept h.built) _ _ _⟩
  unpushed a resolver feeder previous hdirectory hservice huse push := by
    obtain ⟨site', -, heq⟩ := h.startWith_eq hdirectory hservice huse feeder previous
    rw [startAt_eq_startWith, heq, heq]
  pushed a resolver feeder previous hdirectory hservice huse fault := by
    obtain ⟨site', heq⟩ := h.startWith_throw hdirectory hservice huse fault feeder previous
    exact ⟨_, heq⟩
  gone a resolver feeder previous site' hgone hdirectory hservice huse := by
    obtain ⟨site'', hgiven, heq⟩ :=
      h.startAt_gone hgone hdirectory hservice huse feeder previous
    rw [heq]
    exact ⟨site'', hgiven, fed_feedFrom (Dictionary.addAll_filter_isKept h.built) _ _ _⟩

/-- **Cache transparency.** The first init of a directory with the cache, if it succeeds, ends with
the records of the feed, in the order they are pushed and without those that have no lexeme, and
what the feeder adds after them; it writes the cache file and no other. From then on the directory
is transparent to every init that follows, whichever came before it. -/
theorem startAt_transparent {name : List String} {variant : Variant} {after : Site}
    (hdirectory : a.directory = directory) (huse : a.useCache = true)
    (hresolve : resolver.resolve directory site
      = .ok (.files config query (some (fingerprint : Int))) after)
    (hfree : site.files.IsFree (Cache.inDirectory directory).path name)
    (hwritable : (Cache.inDirectory directory).IsWritable site.files)
    (hoverlooks : site.engine.Overlooks site.files config name)
    (hstart : (outcome (a.startAt resolver) ((site, feeder), previous)).1 = .ok variant) :
    ∃ es base,
      (∃ s, Feed.push (collector none) (.files config query (some (fingerprint : Int))) (site, [])
        = .ok () (s, es)) ∧
      Dictionary.empty.addAll (es.filter Entity.isKept) = .ok base ∧
      (∃ site', site'.files = site.files.set name
          (.file (Cache.bytesOf site.time (some fingerprint) base)) ∧
        a.Fed (es.filter Entity.isKept) (site', feeder)
          (a.startAt resolver ((site, feeder), previous))) ∧
      ∀ site', Inits directory (outcome (a.startAt resolver) ((site, feeder), previous)).2.1.1
          site' →
        Transparent directory (es.filter Entity.isKept)
          (Cache.bytesOf site.time (some fingerprint) base) site' := by
  obtain ⟨es, base, site', hes, hwarm, hfiles, heq⟩ :=
    exists_warm_of_first hdirectory huse hresolve hfree hwritable hoverlooks hstart
  obtain ⟨s, -, hpush⟩ := Feed.push_files_ok hes (some (fingerprint : Int))
  have hkept := Dictionary.addAll_filter_isKept hwarm.built
  refine ⟨es, base, ⟨s, hpush (collector none) (handAll_collector es [])⟩, hkept,
    ⟨site', hfiles, ?_⟩, fun site'' hrun => ?_⟩
  · rw [heq]
    exact fed_feedFrom hkept _ _ _
  · exact ((hwarm.of_given (given_outcome_startAt heq)).of_inits hrun).transparent

/-- The directory of islands has its one island from the first init on. -/
theorem startAt_transparent_islands :
    ∃ bytes, ∀ site', Inits ⟨0, ["d"]⟩
        (outcome (islands.startAt offline) ((islandSite [], .idle), none)).2.1.1 site' →
      Transparent ⟨0, ["d"]⟩ [Entity.ofStrings "malta" "island" "Malta"] bytes site' := by
  have hfree : (islandFiles []).IsFree (Cache.inDirectory ⟨0, ["d"]⟩).path
      ["r", "d", Defaults.cacheFile] := ⟨by decide +kernel, by decide +kernel⟩
  have hwritable : (Cache.inDirectory ⟨0, ["d"]⟩).IsWritable (islandFiles []) :=
    fun _ => by with_unfolding_all rfl
  have hresolve := resolve_offline (islandSite []) ⟨0, ["d"]⟩ islandQuery (by decide)
    (by decide +kernel) (by decide +kernel) (by decide +kernel)
  have hends : endsLocal (outcome (islands.startAt offline) ((islandSite [], .idle), none)).1
      = true := by decide +kernel
  obtain ⟨es, base, ⟨s, hpush⟩, -, -, hafter⟩ := startAt_transparent rfl rfl hresolve
    hfree hwritable (Rdf.Engine.overlooks_of_parse (fun _ => rfl) _) (endsLocal_iff.mp hends)
  obtain ⟨es', hes', hhand⟩ := Feed.localEntities_of_push hpush
  obtain rfl : [Entity.ofStrings "malta" "island" "Malta"] = es' :=
    Except.ok.inj (localEntities_islandSite.symm.trans hes')
  obtain rfl := (EStateM.Result.ok.inj (hhand.symm.trans (handAll_collector _ []))).2
  have hkept : Entity.isKept (Entity.ofStrings "malta" "island" "Malta") = true := by
    decide +kernel
  rw [List.nil_append, List.filter_cons_of_pos hkept, List.filter_nil] at hafter
  exact ⟨_, hafter⟩

/-- The directory of islands, where its cache file cannot be written: a directory stands in its
place, or the place is locked, or the disk is full. -/
def blockedFiles : List Files :=
  [islandFiles [(["r", "d", Defaults.cacheFile], .directory)],
    { islandFiles [] with locked := [["r", "d", Defaults.cacheFile]] },
    { islandFiles [] with full := some 8 }]

/-- **Where the cache file cannot be written**, there is none and an init succeeds, but it leaves
nothing behind that serves: the next one pushes the feed again, and fails if that fails. -/
theorem startAt_blocked :
    islands.useCache = true ∧ ∀ files ∈ blockedFiles,
      let first := outcome (islands.startAt offline) ((siteOver files, .idle), none)
      let pushless := islands.startWith (fun _ => throw .connectionClosed) offline
      (Cache.inDirectory islands.directory).isPresent files = false ∧
        first.1 = .ok .localRepository ∧
        (outcome (islands.startAt offline) ((first.2.1.1, .idle), none)).1 = .ok .localRepository ∧
        (outcome pushless ((first.2.1.1, .idle), none)).1 ≠ .ok .localRepository := by
  refine ⟨rfl, fun files hfiles => ?_⟩
  simp only [Ne, ← endsLocal_iff]
  revert files
  decide +kernel

end Annotator

end Gazetteer
