import Gazetteer.Feed.Basic
import Gazetteer.Fingerprint
import Gazetteer.Service.Access
import Gazetteer.Sparql.EntityQuery

/-!
# Feed/Resolver — the feed of a directory

A resolver takes the first source that works: the knowledge service, if there is one and its
repository can be reached and connected to; the configuration and query files of the directory, if
they can be read; and otherwise a feed that is unavailable. Every failure on the way only leads to
the next source, with one exception: the paths of the two files are made absolute first, and that
fails for a relative directory where the working directory is gone.
-/

namespace Gazetteer

/-- Where a resolver takes its knowledge service from. -/
inductive Provider where
  /-- The service of the site. -/
  | standard
  | absent
  | failing (fault : Fault)
  | given (service : Service)
deriving Inhabited

/-- How feeds are chosen. -/
structure Resolver where
  provider : Provider := .standard
  registry : RegistryId := .process
  fallback : String := Defaults.fallbackPattern
deriving Inhabited

namespace Resolver

/-- The knowledge service, if there is one. -/
def service (resolver : Resolver) (site : Site) : Except Fault (Option Service) :=
  match resolver.provider with
  | .standard => site.knowledgeService
  | .absent => .ok none
  | .failing fault => .error fault
  | .given service => .ok (some service)

/-- The query for all entities: those of the trusted classes and of the fallback pattern, or of the
fallback alone while the registry is not ready. -/
def entityQuery (resolver : Resolver) (site : Site) : Except Fault String :=
  match (site.registry resolver.registry).pattern with
  | .ok trusted => Sparql.entityQuery [trusted, resolver.fallback]
  | .error _ => Sparql.entityQuery [resolver.fallback]

/-- The feed of a service, or what stands in its way. -/
def connectService (resolver : Resolver) (service : Service) : Action Site Feed := do
  let repository ← service.repository
  let site ← get
  let query ← Action.ofExcept (resolver.entityQuery site)
  let connection ← Site.connect repository
  return .remote connection Defaults.queryLanguage query

/-- The feed of a service, if it can be had. -/
def serviceFeed? (resolver : Resolver) (service : Service) : Action Site (Option Feed) := do
  match ← Action.attempt (resolver.connectService service) with
  | .ok feed => return some feed
  | .error _ => return none

/-- The feed of a configuration and a query file, if they can be read. -/
def feedOfFiles? (site : Site) (config query : Path) : Option Feed :=
  if site.files.isFile config then
    match site.files.readBytes query with
    | .error _ => none
    | .ok bytes =>
      match Text.decode? bytes with
      | none => none
      | some cs =>
        let query := String.ofList (Text.unifyLineBreaks cs)
        let url := Resource.text (Path.toUrl site.here config)
        some (.files url query (some (Fingerprint.compute site.files url query)))
  else none

/-- The feed of a directory's configuration and query files, if they can be read. -/
def localFeed? (site : Site) (directory : Path) : Except Fault (Option Feed) := do
  let query ← site.absolute (directory.child Defaults.queryFile)
  let config ← site.absolute (directory.child Defaults.configFile)
  return feedOfFiles? site config query

/-- The feed of a directory. -/
def resolve (resolver : Resolver) (directory : Path) : Action Site Feed := do
  let site ← get
  let remote ←
    match resolver.service site with
    | .ok (some service) => resolver.serviceFeed? service
    | _ => pure none
  match remote with
  | some feed => return feed
  | none =>
    let site ← get
    return (← Action.ofExcept (localFeed? site directory)).getD (.unavailable directory)

end Resolver

end Gazetteer
