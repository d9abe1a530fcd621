import Gazetteer.Feed.Resolver
import Gazetteer.Proofs.Dictionary.Cache
import Gazetteer.Proofs.Location.Url
import Gazetteer.Proofs.Repository.Given

/-!
# Proofs/Feed/Resolver — which feed a resolver takes

Resolving asks for a service first and then looks at the directory (`resolve_eq`); it keeps what is
given of a site (`given_resolve`). A resolver that `FindsNoService` gives the feed of the
directory's files, or an unavailable one (`resolve_of_findsNoService`).

The directory has to be seen from the root for that: without a working directory a relative one is a
fault (`localFeed?_of_not_sees`). Its feed depends on the configuration and the query file alone: it
is the same in a tree that differs under another name only (`localFeed?_agreeOff`), and there is
none once one of the two files is gone (`localFeed?_eq_none`). Its configuration is a URL, and read
back as a path this URL is `meantConfig` (`toPath_configUrl`).
-/

namespace Gazetteer

/-- What takes part in a fingerprint is the file at the configuration's path, if there is one. -/
theorem Fingerprint.configBytes_eq {files : Files} {config : Resource} {p : Path}
    (h : config.toPath = .ok p) : configBytes files config = (files.readBytes p).toOption := by
  rw [configBytes, h]
  dsimp only
  cases files.readBytes p <;> rfl

namespace Resolver

open Gazetteer.Action Site

/-- The feed of the knowledge service, if there is a service and its feed can be had. -/
def remoteFeed? (resolver : Resolver) : Action Site (Option Feed) := do
  let site ← get
  match resolver.service site with
  | .ok (some service) => resolver.serviceFeed? service
  | _ => pure none

/-- **Resolving** takes the feed of the service, and without one that of the directory. -/
theorem resolve_eq (resolver : Resolver) (directory : Path) :
    resolver.resolve directory = (do
      match ← resolver.remoteFeed? with
      | some feed => return feed
      | none =>
        let site ← get
        return (← Action.ofExcept (localFeed? site directory)).getD (.unavailable directory)) := by
  funext site
  rw [resolve, remoteFeed?]
  simp only [get_bind, bind_assoc]
  cases resolver.service site with
  | error fault => rfl
  | ok service => cases service <;> rfl

/-- Whether a resolver finds no knowledge service that it could take a feed from. -/
def FindsNoService (resolver : Resolver) (site : Site) : Prop :=
  ∃ site', resolver.remoteFeed? site = .ok none site'

theorem given_serviceFeed? (resolver : Resolver) (service : Service) :
    Keeps given (resolver.serviceFeed? service) := by
  have hconnect : Keeps given (resolver.connectService service) :=
    (given_repository service).bind fun repository => keeps_get.bind fun site =>
      (keeps_ofExcept _).bind fun query => (given_connect repository).bind fun _ => keeps_pure _
  refine (keeps_attempt hconnect).bind fun result => ?_
  cases result <;> exact keeps_pure _

theorem given_remoteFeed? (resolver : Resolver) : Keeps given resolver.remoteFeed? := by
  refine keeps_get.bind fun site => ?_
  split
  · exact given_serviceFeed? resolver _
  · exact keeps_pure _

/-- **Resolving keeps what is given.** -/
theorem given_resolve (resolver : Resolver) (directory : Path) :
    Keeps given (resolver.resolve directory) := by
  rw [resolve_eq]
  refine (given_remoteFeed? resolver).bind fun remote => ?_
  cases remote with
  | some feed => exact keeps_pure feed
  | none => exact keeps_get.bind fun site => (keeps_ofExcept _).bind fun _ => keeps_pure _

/-- The feed of a directory depends on the files alone. -/
theorem localFeed?_of_files {site site' : Site} (h : site'.files = site.files) (directory : Path) :
    localFeed? site' directory = localFeed? site directory := by
  unfold localFeed? feedOfFiles? Site.absolute here
  rw [h]

variable {resolver : Resolver} {site : Site} {directory : Path}

/-- Where no feed of a service is had, the directory decides. -/
theorem resolve_of_remoteFeed?_none {site' : Site}
    (h : resolver.remoteFeed? site = .ok none site') (directory : Path) :
    resolver.resolve directory site = Action.ofExcept ((localFeed? site directory).map fun feed? =>
      feed?.getD (.unavailable directory)) site' := by
  have hfiles := files_eq_of_given ((given_remoteFeed? resolver).ok h)
  rw [resolve_eq, bind_ok h, ← localFeed?_of_files hfiles directory]
  dsimp only
  rw [get_bind]
  cases localFeed? site' directory <;> rfl

/-- **Without a service** it is the feed of the directory. -/
theorem resolve_of_findsNoService (h : resolver.FindsNoService site) {feed? : Option Feed}
    (hlocal : localFeed? site directory = .ok feed?) : ∃ site', site'.given = site.given ∧
      resolver.resolve directory site = .ok (feed?.getD (.unavailable directory)) site' := by
  obtain ⟨site', hremote⟩ := h
  refine ⟨site', (given_remoteFeed? resolver).ok hremote, ?_⟩
  rw [resolve_of_remoteFeed?_none hremote, hlocal]
  rfl

/-- The feed of a service is a remote one. -/
theorem variant_of_remoteFeed? {feed : Feed} {site' : Site}
    (h : resolver.remoteFeed? site = .ok (some feed) site') : feed.variant = .remoteService := by
  rw [remoteFeed?, get_bind] at h
  rcases hservice : resolver.service site with fault | _ | service
  · simp only [hservice] at h
    exact absurd (EStateM.Result.ok.inj h).1 (by simp)
  · simp only [hservice] at h
    exact absurd (EStateM.Result.ok.inj h).1 (by simp)
  · simp only [hservice] at h
    obtain ⟨result, site₁, hattempt, h⟩ := exists_of_bind_ok h
    cases result with
    | error fault => exact absurd (EStateM.Result.ok.inj h).1 (by simp)
    | ok feed' =>
      obtain rfl := Option.some.inj (EStateM.Result.ok.inj h).1
      obtain ⟨_, _, -, h⟩ := exists_of_bind_ok (attempt_eq_ok hattempt)
      obtain ⟨_, _, -, h⟩ := exists_of_bind_ok h
      obtain ⟨_, _, -, h⟩ := exists_of_bind_ok h
      obtain ⟨connection, _, -, h⟩ := exists_of_bind_ok h
      rw [← (EStateM.Result.ok.inj h).1]
      rfl

/-- **A feed of local files** is that of the directory, and there was no service. -/
theorem of_resolve_eq_files {config : Resource} {query : String} {fingerprint : Option Int}
    {site' : Site}
    (h : resolver.resolve directory site = .ok (.files config query fingerprint) site') :
    resolver.FindsNoService site ∧
      localFeed? site directory = .ok (some (.files config query fingerprint)) := by
  have hresolve := h
  rw [resolve_eq] at h
  obtain ⟨remote, site₁, hremote, h⟩ := exists_of_bind_ok h
  cases remote with
  | some feed =>
    have hvariant := variant_of_remoteFeed? hremote
    rw [(EStateM.Result.ok.inj h).1] at hvariant
    exact absurd hvariant (by simp [Feed.variant])
  | none =>
    refine ⟨⟨site₁, hremote⟩, ?_⟩
    rw [resolve_of_remoteFeed?_none hremote] at hresolve
    have hfeed := (ofExcept_eq_ok hresolve).1
    rcases hlocal : localFeed? site directory with fault | _ | feed
    · exact absurd (hlocal ▸ hfeed) (by simp [Except.map])
    · exact absurd (Except.ok.inj (hlocal ▸ hfeed)) (by simp)
    · exact congrArg (fun feed => Except.ok (some feed)) (Except.ok.inj (hlocal ▸ hfeed))

/-! ## The files that a feed is made of -/

/-- The path of a file of a directory, seen from the working directory. -/
def fileOf (here directory : Path) (name : String) : Path := here.join (directory.child name)

theorem names_fileOf (here directory : Path) {name : String}
    (hname : Path.ofString name = ⟨0, [name]⟩) :
    ∃ names, (fileOf here directory name).names = names ++ [name] := by
  have hchild : (directory.child name).names = directory.names ++ [name] := by
    rw [Path.child, hname]
    rfl
  rw [fileOf, Path.join]
  split
  · exact ⟨_, hchild⟩
  · exact ⟨here.names ++ directory.names, by simp only [hchild, List.append_assoc]⟩

theorem isAbsolute_fileOf {here : Path} (h : here.isAbsolute = true) (directory : Path)
    (name : String) : (fileOf here directory name).isAbsolute = true := by
  rw [fileOf, Path.join]
  split
  · assumption
  · exact h

theorem ofString_configFile : Path.ofString Defaults.configFile = ⟨0, [Defaults.configFile]⟩ := by
  decide +kernel

theorem ofString_queryFile : Path.ofString Defaults.queryFile = ⟨0, [Defaults.queryFile]⟩ := by
  decide +kernel

/-- The configuration file of a directory, as a feed names it. -/
def configUrl (files : Files) (directory : Path) : Resource :=
  .text (Path.toUrl files.herePath (fileOf files.herePath directory Defaults.configFile))

/-- The path that the fingerprint of a feed takes the configuration of a directory from: that of the
configuration, with escapes replaced. -/
def meantConfig (files : Files) (directory : Path) : Path :=
  Path.ofString (String.ofList
    (Location.unescape (fileOf files.herePath directory Defaults.configFile).text.toList))

theorem toPath_configUrl (files : Files) (directory : Path) :
    (configUrl files directory).toPath = .ok (meantConfig files directory) := by
  have habsolute : (fileOf files.herePath directory Defaults.configFile).isAbsolute = true :=
    isAbsolute_fileOf rfl directory _
  have hjoin := Path.join_of_isAbsolute habsolute files.herePath
  rw [configUrl, Resource.toPath_toUrl (by rwa [hjoin]), hjoin, meantConfig]

/-- The two files of a directory are seen from the root just if the directory is. -/
theorem absolute_child {files : Files} {name : String} (hname : Path.ofString name = ⟨0, [name]⟩) :
    files.Sees (directory.child name) ↔ files.Sees directory := by
  have hchild : (directory.child name).isAbsolute = directory.isAbsolute := by
    rw [Path.child, hname]
    rfl
  rw [Files.Sees, Files.Sees, hchild]

/-- **Without a working directory** a relative directory has no feed, not even one that is
unavailable. -/
theorem localFeed?_of_not_sees (h : ¬ site.files.Sees directory) : localFeed? site directory
    = .error (.file .adrift (directory.child Defaults.queryFile).text) := by
  rw [localFeed?, Site.absolute,
    Files.absolute_error (mt (absolute_child ofString_queryFile).mp h)]
  rfl

theorem localFeed?_of_sees (h : site.files.Sees directory) : localFeed? site directory
    = .ok (feedOfFiles? site (fileOf site.here directory Defaults.configFile)
        (fileOf site.here directory Defaults.queryFile)) := by
  rw [localFeed?, Site.absolute, Site.absolute,
    Files.absolute_eq ((absolute_child ofString_queryFile).mpr h),
    Files.absolute_eq ((absolute_child ofString_configFile).mpr h)]
  rfl

theorem of_localFeed?_eq_ok {feed? : Option Feed} (h : localFeed? site directory = .ok feed?) :
    site.files.Sees directory ∧
      feedOfFiles? site (fileOf site.here directory Defaults.configFile)
        (fileOf site.here directory Defaults.queryFile) = feed? := by
  by_cases hsees : site.files.Sees directory
  · exact ⟨hsees, Except.ok.inj ((localFeed?_of_sees hsees).symm.trans h)⟩
  · exact absurd ((localFeed?_of_not_sees hsees).symm.trans h) (by simp)

/-- The feed of the two files of a directory, if they can be read. -/
theorem feedOfFiles?_eq (site : Site) (directory : Path) :
    feedOfFiles? site (fileOf site.here directory Defaults.configFile)
        (fileOf site.here directory Defaults.queryFile) =
      if site.files.isFile (fileOf site.here directory Defaults.configFile) then
        match site.files.readBytes (fileOf site.here directory Defaults.queryFile) with
        | .error _ => none
        | .ok bytes =>
          match Text.decode? bytes with
          | none => none
          | some cs =>
            let query := String.ofList (Text.unifyLineBreaks cs)
            let url := configUrl site.files directory
            some (.files url query (some (Fingerprint.compute site.files url query)))
      else none := rfl

/-- **What a feed of local files is**: the configuration and the query of the directory, and the
fingerprint of both. -/
theorem of_localFeed?_eq_some {feed : Feed} (h : localFeed? site directory = .ok (some feed)) :
    ∃ query, feed = .files (configUrl site.files directory) query
      (some (Fingerprint.compute site.files (configUrl site.files directory) query)) := by
  have hfeed := (of_localFeed?_eq_ok h).2
  rw [feedOfFiles?_eq] at hfeed
  split at hfeed
  · split at hfeed
    · exact absurd hfeed (by simp)
    · split at hfeed
      · exact absurd hfeed (by simp)
      · exact ⟨_, (Option.some.inj hfeed).symm⟩
  · exact absurd hfeed (by simp)

theorem fingerprint_of_localFeed? {config : Resource} {query : String} {fingerprint : Nat}
    (h : localFeed? site directory = .ok (some (.files config query (some (fingerprint : Int))))) :
    fingerprint = Fingerprint.compute site.files config query := by
  obtain ⟨query', heq⟩ := of_localFeed?_eq_some h
  injection heq with hconfig hquery hfingerprint
  rw [hconfig, hquery]
  exact Int.ofNat.inj (Option.some.inj hfingerprint)

/-- The configuration that takes part in a fingerprint has the name of a configuration file. -/
theorem exists_path_configUrl (files : Files) (directory : Path) :
    ∃ p names, (configUrl files directory).toPath = .ok p ∧
      p.names = names ++ [Defaults.configFile] := by
  have hhere : files.herePath.isAbsolute = true := rfl
  have habsolute := isAbsolute_fileOf hhere directory Defaults.configFile
  obtain ⟨names, hnames⟩ := names_fileOf files.herePath directory ofString_configFile
  have hjoin := Path.join_of_isAbsolute habsolute files.herePath
  have hplain : Path.IsPlainName Defaults.configFile := by decide +kernel
  rw [← hjoin] at habsolute hnames
  exact Path.exists_names_toUrl habsolute hnames hplain

section AgreeOff

variable {files files' : Files} {name : List String}

/-- A file with another last name than a place does not stand there. -/
theorem locate_ne {p : Path} {names : List String} {last : String} (hlast : last ≠ "..")
    (hp : p.names = names ++ [last]) (hne : name.getLast? ≠ some last) :
    files.locate p ≠ .ok name :=
  fun h => hne (Files.getLast?_of_locate hlast hp h)

variable (h : Files.AgreeOff name files files') (hname : files.at? name ≠ some .directory)
  (hname' : files'.at? name ≠ some .directory)
  (hconfig : name.getLast? ≠ some Defaults.configFile)

include h hname hname' hconfig

theorem configBytes_agreeOff (directory : Path) :
    Fingerprint.configBytes files' (configUrl files' directory)
      = Fingerprint.configBytes files (configUrl files directory) := by
  have hurl : configUrl files' directory = configUrl files directory := by
    rw [configUrl, configUrl, Files.herePath, Files.herePath, h.1]
  obtain ⟨p, names, hp, hnames⟩ := exists_path_configUrl files directory
  rw [hurl, Fingerprint.configBytes_eq hp, Fingerprint.configBytes_eq hp]
  obtain ⟨bytes, hread, hread'⟩ | ⟨flaw, flaw', hread, hread'⟩ :=
    h.readBytes_cases hname hname' (locate_ne (by decide) hnames hconfig)
  · rw [hread, hread']
  · rw [hread, hread']
    rfl

/-- **The feed of a directory** is the same in a tree that differs under another name than those of
its files. -/
theorem localFeed?_agreeOff (hquery : name.getLast? ≠ some Defaults.queryFile) {site site' : Site}
    (hfiles : site.files = files) (hfiles' : site'.files = files') (directory : Path) :
    localFeed? site' directory = localFeed? site directory := by
  have hhere : site'.here = site.here := by
    rw [here, here, hfiles, hfiles', Files.herePath, Files.herePath, h.1]
  have hurl : configUrl files' directory = configUrl files directory := by
    rw [configUrl, configUrl, Files.herePath, Files.herePath, h.1]
  have hcompute : ∀ query, Fingerprint.compute files' (configUrl files' directory) query
      = Fingerprint.compute files (configUrl files directory) query := by
    intro query
    rw [Fingerprint.compute, Fingerprint.compute,
      configBytes_agreeOff h hname hname' hconfig directory]
  have hsees : site'.files.Sees directory ↔ site.files.Sees directory := by
    rw [Files.Sees, Files.Sees, hfiles, hfiles', h.1]
  by_cases hdirectory : site.files.Sees directory
  · rw [localFeed?_of_sees hdirectory, localFeed?_of_sees (hsees.mpr hdirectory)]
    obtain ⟨names, hnames⟩ := names_fileOf site.here directory ofString_configFile
    obtain ⟨names', hnames'⟩ := names_fileOf site.here directory ofString_queryFile
    have hisFile := h.isFile_eq hname hname' (locate_ne (by decide) hnames hconfig)
    rw [feedOfFiles?_eq, feedOfFiles?_eq, hhere, hfiles, hfiles', hisFile]
    simp only [hcompute]
    obtain ⟨bytes, hread, hread'⟩ | ⟨flaw, flaw', hread, hread'⟩ :=
      h.readBytes_cases hname hname' (locate_ne (by decide) hnames' hquery)
    · simp only [hread, hread', hurl]
    · simp only [hread, hread']
  · rw [localFeed?_of_not_sees hdirectory, localFeed?_of_not_sees (mt hsees.mp hdirectory)]

end AgreeOff

/-- **There is no feed of a directory** once its configuration or its query is gone. -/
theorem localFeed?_eq_none {files : Files} {name : List String}
    (h : Files.AgreeOff name files site.files) (hsees : files.Sees directory)
    (hgone : site.files.at? name = none)
    (hp : files.locate (fileOf files.herePath directory Defaults.configFile) = .ok name ∨
      files.locate (fileOf files.herePath directory Defaults.queryFile) = .ok name) :
    localFeed? site directory = .ok none := by
  have hhere : site.here = files.herePath := by
    rw [here, Files.herePath, Files.herePath, h.1]
  have hsees' : site.files.Sees directory := by rwa [Files.Sees, h.1]
  rw [localFeed?_of_sees hsees', feedOfFiles?_eq, hhere]
  rcases hp with hp | hp
  · have hnot :
        site.files.isFile (fileOf files.herePath directory Defaults.configFile) = false := by
      refine Bool.eq_false_iff.mpr fun hfile => ?_
      obtain ⟨bytes, hread⟩ := Files.isFile_iff.mp hfile
      exact h.readBytes_gone hgone hp bytes hread
    rw [hnot, if_neg (by simp)]
  · cases hread : site.files.readBytes (fileOf files.herePath directory Defaults.queryFile) with
    | ok bytes => exact absurd hread (h.readBytes_gone hgone hp bytes)
    | error flaw => simp only [ite_self]

end Resolver

end Gazetteer
