import Gazetteer.Proofs.Feed.Resolver
import Gazetteer.Proofs.Repository.Backend

/-!
# Proofs/Feed/Selection — the first source that works

Resolving goes through the sources in order, and each step of each source may fail. `Connects` says
of a resolver that every step to a connection with its service succeeds, `Readable` of a directory
that its files can be taken, and `Resolves` what the feed of the directory then is. The service
decides alone when it can be had (`remoteFeed?_cases`), and leaves no connection otherwise; the
files decide the rest (`localFeed?_cases`), but only if the directory can be seen from the root.
-/

namespace Gazetteer.Resolver

open Gazetteer.Action Site

/-! ## The query for all entities -/

/-- The query with a body. -/
def queryFor (body : String) : String :=
  "SELECT ?inst ?cls ?label WHERE \x7b " ++ body ++ " \x7d"

/-- The query for the entities of the fallback pattern. -/
def fallbackQuery (fallback : String) : String := queryFor fallback

/-- The query for the entities of the trusted classes and of the fallback pattern. -/
def unionQuery (trusted fallback : String) : String :=
  queryFor ("\x7b " ++ trusted ++ " \x7d UNION \x7b " ++ fallback ++ " \x7d")

theorem select_eq_queryFor (body : String) :
    Sparql.entityQuery.select Defaults.projection body = queryFor body := by
  have hhead : "SELECT " ++ Defaults.projection ++ " WHERE \x7b "
      = "SELECT ?inst ?cls ?label WHERE \x7b " := by decide +kernel
  exact congrArg (fun head => head ++ body ++ " \x7d") hhead

theorem length_eq_of_wrapped {head x y tail : String} (h : head ++ x ++ tail = head ++ y ++ tail) :
    x.length = y.length := by
  have hlength := congrArg String.length h
  simp only [String.length_append] at hlength
  omega

theorem length_lt_joined {a b c : String} (hc : 0 < c.length) (x y : String) :
    y.length < (a ++ x ++ b ++ y ++ c).length := by
  simp only [String.length_append]
  omega

/-- **The queries with and without trusted classes** are never the same: the one has the pattern of
the other and more. -/
theorem unionQuery_ne_fallbackQuery (trusted fallback : String) :
    unionQuery trusted fallback ≠ fallbackQuery fallback := by
  intro h
  have hbrace : 0 < " \x7d".length := by decide +kernel
  exact absurd (length_eq_of_wrapped h) (Nat.ne_of_gt (length_lt_joined hbrace trusted fallback))

variable {resolver : Resolver} {site site' : Site} {directory : Path}

/-- **A registry with classes** puts their pattern before the fallback. -/
theorem entityQuery_of_pattern {trusted : String}
    (h : (site.registry resolver.registry).pattern = .ok trusted) :
    resolver.entityQuery site = .ok (unionQuery trusted resolver.fallback) := by
  have hjoin : ∀ a b c x y : String, a ++ x ++ c ++ b ++ (a ++ y ++ c)
      = a ++ x ++ (c ++ (b ++ a)) ++ y ++ c := by
    intro a b c x y
    simp only [String.append_assoc]
  have hmiddle : " \x7d" ++ (" UNION " ++ "\x7b ") = " \x7d UNION \x7b " := by decide +kernel
  simp only [entityQuery, h]
  refine congrArg Except.ok ((select_eq_queryFor _).trans (congrArg queryFor ?_))
  refine (hjoin "\x7b " " UNION " " \x7d" trusted resolver.fallback).trans ?_
  exact congrArg (fun joint => "\x7b " ++ trusted ++ joint ++ resolver.fallback ++ " \x7d") hmiddle

/-- **A registry without classes** leaves the fallback alone. -/
theorem entityQuery_of_not_ready {fault : Fault}
    (h : (site.registry resolver.registry).pattern = .error fault) :
    resolver.entityQuery site = .ok (fallbackQuery resolver.fallback) := by
  simp only [entityQuery, h]
  exact congrArg Except.ok (select_eq_queryFor _)

theorem entityQuery_eq_of_given (h : site'.given = site.given) :
    resolver.entityQuery site' = resolver.entityQuery site := by
  have hregistries : site'.registries = site.registries := by
    have := congrArg Site.registries h
    exact this
  simp only [entityQuery, Site.registry, hregistries]

/-- Whether a query is the one that a registry calls for: with the pattern of its trusted classes
where it has been given any, and only there. -/
structure Asks (resolver : Resolver) (site : Site) (query : String) : Prop where
  union : (site.registry resolver.registry).classes.isSome ↔
    ∃ trusted, (site.registry resolver.registry).pattern = .ok trusted ∧
      query = unionQuery trusted resolver.fallback
  fallback : (site.registry resolver.registry).classes = none ↔
    query = fallbackQuery resolver.fallback

/-- **The query for all entities** can always be built, and is the one that the registry calls
for. -/
theorem exists_entityQuery (resolver : Resolver) (site : Site) :
    ∃ query, resolver.entityQuery site = .ok query ∧ resolver.Asks site query := by
  cases hclasses : (site.registry resolver.registry).classes with
  | none =>
    have hpattern : (site.registry resolver.registry).pattern = .error .registryNotReady := by
      rw [Registry.pattern, hclasses]
    refine ⟨_, entityQuery_of_not_ready hpattern, ⟨fun h => ?_, ?_⟩, fun _ => rfl,
      fun _ => hclasses⟩
    · rw [hclasses] at h
      exact absurd h (by simp)
    · rintro ⟨trusted, htrusted, -⟩
      rw [hpattern] at htrusted
      exact absurd htrusted (by simp)
  | some classes =>
    obtain ⟨trusted, hpattern⟩ :
        ∃ trusted, (site.registry resolver.registry).pattern = .ok trusted := by
      rw [Registry.pattern, hclasses]
      exact ⟨_, rfl⟩
    refine ⟨_, entityQuery_of_pattern hpattern, ⟨fun _ => ⟨trusted, hpattern, rfl⟩, fun _ => ?_⟩,
      fun h => ?_, fun h => absurd h (unionQuery_ne_fallbackQuery _ _)⟩
    · rw [hclasses]
      rfl
    · rw [hclasses] at h
      exact absurd h (by simp)

/-! ## The service -/

/-- Whether a resolver's provider yields a service, the repository of the service is obtained, the
query for all entities can be built, and a connection to the repository opens. -/
def Connects (resolver : Resolver) (site : Site) : Prop :=
  ∃ service repository site₁ query connection site₂,
    resolver.service site = .ok (some service) ∧ service.repository site = .ok repository site₁ ∧
    resolver.entityQuery site₁ = .ok query ∧ connect repository site₁ = .ok connection site₂

theorem keeps_connections_repository (service : Service) :
    Keeps Site.connections service.repository := by
  cases service with
  | fixed outcome => exact keeps_ofExcept outcome
  | configured config =>
    refine Keeps.bind (keeps_ofExcept _) fun repository => ?_
    refine Keeps.bind ?_ fun _ => ?_
    · refine Keeps.bind (fun _ => rfl) fun _ => keeps_get.bind fun site => ?_
      split
      · exact keeps_throw _
      · split
        · exact keeps_pure _
        · exact keeps_throw _
    · exact fun _ => rfl

/-- **Connecting to a service**: where every step succeeds, there is one new connection, and
otherwise none. -/
theorem connectService_cases (resolver : Resolver) (service : Service) (site : Site) :
    (∃ repository site₁ query connection backend site₂,
      service.repository site = .ok repository site₁ ∧ resolver.entityQuery site₁ = .ok query ∧
      connect repository site₁ = .ok connection site₂ ∧ connection = ⟨site.connections.size⟩ ∧
      resolver.connectService service site
        = .ok (.remote connection Defaults.queryLanguage query) site₂ ∧
      resolver.Asks site query ∧ site₂.connections = site.connections.push { backend }) ∨
    ((∀ repository site₁ connection site₂, service.repository site = .ok repository site₁ →
      connect repository site₁ ≠ .ok connection site₂) ∧ ∃ fault site',
      resolver.connectService service site = .error fault site' ∧
      site'.connections = site.connections) := by
  cases hrepository : service.repository site with
  | error fault site₁ =>
    refine .inr ⟨fun _ _ _ _ h => absurd h (by simp), fault, site₁, bind_error hrepository _, ?_⟩
    exact (keeps_connections_repository service).error hrepository
  | ok repository site₁ =>
    have hgiven : site₁.given = site.given := (given_repository service).ok hrepository
    have hconnections := (keeps_connections_repository service).ok hrepository
    obtain ⟨query, hquery, hasks⟩ := exists_entityQuery resolver site
    have hquery₁ : resolver.entityQuery site₁ = .ok query :=
      (entityQuery_eq_of_given hgiven).trans hquery
    have hbegin : resolver.connectService service site = (connect repository >>= fun connection =>
        pure (Feed.remote connection Defaults.queryLanguage query)) site₁ := by
      rw [connectService, bind_ok hrepository, get_bind, hquery₁]
      rfl
    rcases connect_cases site₁ repository with
      ⟨backend, site₂, -, hopen, -, hpush⟩ | ⟨fault, site₂, -, hopen, -, hkept⟩
    · rw [hconnections] at hopen hpush
      exact .inl ⟨repository, site₁, query, _, backend, site₂, rfl, hquery₁, hopen, rfl,
        hbegin.trans (bind_ok hopen _), hasks, hpush⟩
    · refine .inr ⟨?_, fault, site₂, hbegin.trans (bind_error hopen _), hkept.trans hconnections⟩
      rintro _ _ connection site' hsame hconnect
      obtain ⟨rfl, rfl⟩ := EStateM.Result.ok.inj hsame
      exact absurd (hopen.symm.trans hconnect) (by simp)

/-- **The feed of the service**: where every step to a connection succeeds, it holds the one
connection that has been opened; otherwise there is no feed, and no connection has been opened. -/
theorem remoteFeed?_cases (resolver : Resolver) (site : Site) :
    (resolver.Connects site ∧ ∃ query backend site',
      resolver.remoteFeed? site
        = .ok (some (.remote ⟨site.connections.size⟩ Defaults.queryLanguage query)) site' ∧
      resolver.Asks site query ∧ site'.connections = site.connections.push { backend }) ∨
    (¬ resolver.Connects site ∧ ∃ site',
      resolver.remoteFeed? site = .ok none site' ∧ site'.connections = site.connections) := by
  rcases hservice : resolver.service site with fault | _ | service
  · refine .inr ⟨?_, site, ?_, rfl⟩
    · rintro ⟨service, _, _, _, _, _, h, -⟩
      exact absurd (hservice.symm.trans h) (by simp)
    · simp only [remoteFeed?, get_bind, hservice]
      rfl
  · refine .inr ⟨?_, site, ?_, rfl⟩
    · rintro ⟨service, _, _, _, _, _, h, -⟩
      exact absurd (hservice.symm.trans h) (by simp)
    · simp only [remoteFeed?, get_bind, hservice]
      rfl
  · have hremote : resolver.remoteFeed? site = resolver.serviceFeed? service site := by
      simp only [remoteFeed?, get_bind, hservice]
    rw [hremote, serviceFeed?]
    rcases connectService_cases resolver service site with
      ⟨repository, site₁, query, _, backend, site₂, hrepository, hquery, hopen, rfl, hconnect,
        hasks, hpush⟩ | ⟨hnot, fault, site₁, hconnect, hkept⟩
    · refine .inl ⟨⟨service, repository, site₁, query, _, site₂, hservice, hrepository, hquery,
        hopen⟩, query, backend, site₂, ?_, hasks, hpush⟩
      rw [bind_ok (attempt_ok hconnect)]
      rfl
    · refine .inr ⟨?_, site₁, ?_, hkept⟩
      · rintro ⟨service', repository, site₁, _, connection, site₂, h, hrepository, -, hopen⟩
        obtain rfl := Option.some.inj (Except.ok.inj (hservice.symm.trans h))
        exact hnot repository site₁ connection site₂ hrepository hopen
      · rw [bind_ok (attempt_error hconnect)]
        rfl

/-! ## The files of the directory -/

/-- Whether the configuration of a directory is a file, and its query can be read as text. -/
def Readable (site : Site) (directory : Path) : Prop :=
  site.files.isFile (fileOf site.here directory Defaults.configFile) = true ∧
    ∃ bytes cs, site.files.readBytes (fileOf site.here directory Defaults.queryFile) = .ok bytes ∧
      Text.decode? bytes = some cs

/-- What a text in a file is read as: a carriage return with a line feed after it, or without one,
is read as a line feed, and every other character as itself. -/
inductive ReadsAs : List Char → List Char → Prop
  | nil : ReadsAs [] []
  | pair {cs ds : List Char} (h : ReadsAs cs ds) : ReadsAs ('\r' :: '\n' :: cs) ('\n' :: ds)
  | lone {cs ds : List Char} (hnext : cs.head? ≠ some '\n') (h : ReadsAs cs ds) :
      ReadsAs ('\r' :: cs) ('\n' :: ds)
  | other {c : Char} {cs ds : List Char} (hc : c ≠ '\r') (h : ReadsAs cs ds) :
      ReadsAs (c :: cs) (c :: ds)

theorem readsAs_unifyLineBreaks (cs : List Char) : ReadsAs cs (Text.unifyLineBreaks cs) := by
  fun_induction Text.unifyLineBreaks cs with
  | case1 rest ih => exact .pair ih
  | case2 rest hnext ih =>
    refine .lone (fun hhead => ?_) ih
    obtain ⟨rest', rfl⟩ := List.head?_eq_some_iff.mp hhead
    exact hnext rest' rfl
  | case3 c rest _ hc ih => exact .other (fun heq => hc heq) ih
  | case4 => exact .nil

/-- **A text is read in one way.** -/
theorem ReadsAs.unique {cs ds ds' : List Char} (h : ReadsAs cs ds) (h' : ReadsAs cs ds') :
    ds' = ds := by
  induction h generalizing ds' with
  | nil =>
    cases h'
    rfl
  | pair _ ih =>
    cases h' with
    | pair h' => rw [ih h']
    | lone hnext => exact absurd rfl hnext
    | other hc => exact absurd rfl hc
  | lone hnext _ ih =>
    cases h' with
    | pair h' => exact absurd rfl hnext
    | lone _ h' => rw [ih h']
    | other hc => exact absurd rfl hc
  | other hc _ ih =>
    cases h' with
    | pair | lone => exact absurd rfl hc
    | other _ h' => rw [ih h']

/-- Whether a feed is that of a directory's files: of the text that its query file is read as, and
of the fingerprint of this text with its configuration. -/
def IsOfFiles (site : Site) (directory : Path) (feed : Feed) : Prop :=
  ∃ bytes cs ds, site.files.readBytes (fileOf site.here directory Defaults.queryFile) = .ok bytes ∧
    Text.decode? bytes = some cs ∧ ReadsAs cs ds ∧
    feed = .files (configUrl site.files directory) (String.ofList ds)
      (some (Fingerprint.compute site.files (configUrl site.files directory) (String.ofList ds)))

/-- **The feed of the directory** is there exactly where its files can be taken. -/
theorem localFeed?_cases {site : Site} {directory : Path} (hsees : site.files.Sees directory) :
    (Readable site directory ∧ ∃ feed, localFeed? site directory = .ok (some feed) ∧
      IsOfFiles site directory feed) ∨
    (¬ Readable site directory ∧ localFeed? site directory = .ok none) := by
  rw [localFeed?_of_sees hsees, feedOfFiles?_eq]
  cases hfile : site.files.isFile (fileOf site.here directory Defaults.configFile) with
  | false =>
    exact .inr ⟨fun h => absurd (hfile.symm.trans h.1) (by simp), by rw [if_neg (by simp)]⟩
  | true =>
    rw [if_pos rfl]
    cases hread : site.files.readBytes (fileOf site.here directory Defaults.queryFile) with
    | error flaw =>
      refine .inr ⟨?_, rfl⟩
      rintro ⟨-, bytes, cs, hbytes, -⟩
      exact absurd (hread.symm.trans hbytes) (by simp)
    | ok bytes =>
      dsimp only
      cases hdecode : Text.decode? bytes with
      | none =>
        refine .inr ⟨?_, rfl⟩
        rintro ⟨-, bytes', cs, hbytes, hcs⟩
        obtain rfl := Except.ok.inj (hread.symm.trans hbytes)
        exact absurd (hdecode.symm.trans hcs) (by simp)
      | some cs =>
        exact .inl ⟨⟨hfile, bytes, cs, hread, hdecode⟩, _, rfl, bytes, cs, _, hread, hdecode,
          readsAs_unifyLineBreaks cs, rfl⟩

/-- A feed of local files is that of files which can be taken. -/
theorem isOfFiles_of_localFeed? {site : Site} {directory : Path} {feed : Feed}
    (h : localFeed? site directory = .ok (some feed)) :
    Readable site directory ∧ IsOfFiles site directory feed := by
  rcases localFeed?_cases (of_localFeed?_eq_ok h).1 with
    ⟨hreadable, feed', hfeed', hof⟩ | ⟨-, hnone⟩
  · rw [Option.some.inj (Except.ok.inj (h.symm.trans hfeed'))]
    exact ⟨hreadable, hof⟩
  · exact absurd (hnone.symm.trans h) (by simp)

/-! ## The source that is taken -/

example : (outcome (({ provider := .absent } : Resolver).resolve ⟨0, ["d"]⟩)
    { Site.bare with files := { Files.empty [] with here := none } }).1.isOk = false := by
  decide +kernel

end Gazetteer.Resolver
