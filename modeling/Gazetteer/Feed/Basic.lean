import Gazetteer.Repository.Evaluation

/-!
# Feed/Basic — sources of entity records

A feed asks the knowledge service over an open connection, or a local repository built for the
occasion, or it is unavailable and only fails when it is used. Pushing a feed evaluates its query
once and hands the records to a listener; the connection to a local repository is closed on every
way out.
-/

namespace Gazetteer

/-- Which of its three sources a feed has. -/
inductive Variant where
  | remoteService
  | localRepository
  | unavailable
deriving Repr, DecidableEq

namespace Variant

def name : Variant → String
  | remoteService => "remote_service"
  | localRepository => "local_repository"
  | unavailable => "unavailable"

/-- The first source that is at hand: the service, then the local files. -/
def select (serviceReachable localReadable : Bool) : Variant :=
  if serviceReachable then remoteService
  else if localReadable then localRepository
  else unavailable

end Variant

/-- A source of entity records. -/
inductive Feed where
  | remote (connection : ConnectionId) (language query : String)
  | files (config : Resource) (query : String) (fingerprint : Option Int)
  | unavailable (directory : Path)
deriving Repr, Inhabited

namespace Feed

def variant : Feed → Variant
  | remote .. => .remoteService
  | files .. => .localRepository
  | unavailable _ => .unavailable

/-- The fingerprint of what the feed is built from; only local files have one. -/
def fingerprint? : Feed → Option Int
  | files _ _ fingerprint => fingerprint
  | _ => none

/-- The configuration file that an unavailable feed misses. -/
def missingConfig (directory : Path) : Path := directory.child Defaults.configFile

/-- The name of a kind of feeds. -/
def typeName : Feed → String
  | remote .. => "RemoteServiceFeed"
  | files .. => "LocalRepositoryFeed"
  | unavailable _ => "UnavailableFeed"

/-- How a feed shows itself: its kind and what it is made from, a query cut short. -/
def shown (feed : Feed) : String :=
  let source := match feed with
    | remote _ language query =>
      language ++ ", " ++ Text.quote (String.ofList (query.toList.take 60))
    | files config _ fingerprint =>
      config.shown ++ ", fingerprint=" ++ (value fingerprint).quoted
    | unavailable directory => directory.text
  "<" ++ feed.typeName ++ "(" ++ source ++ ")>"

/-- What a feed is made from, by name. -/
def origin (here : Path) : Feed → List (String × Value)
  | remote _ language query => [("query", value query), ("query_language", value language)]
  | files config query fingerprint =>
    [("query", value query), ("config_url", value config.shown),
      ("fingerprint", value (fingerprint.map toString))]
  | unavailable directory => [("config_path", value (here.join (missingConfig directory)))]

/-- The fault of a remote feed: a failed query as it is, and any other as the cause of one. -/
def remoteFault (fault : Fault) : Fault :=
  if fault.isQuery then fault else .remoteFeedFailed fault

/-- Hands the records of the feed to a listener. -/
def push {ℓ : Type} (listener : Listener ℓ) : Feed → Action (Site × ℓ) Unit
  | remote connection language query =>
    Action.mapFault remoteFault do
      let rows ← Action.onFirst (Site.evaluate connection query language)
      let _ ← Action.onSecond (rows.deliver listener)
  | files config query _ => do
    let graph ← Action.onFirst (Repository.loadGraph config)
    let connection ← Action.onFirst (Site.addConnection { backend := .graph graph })
    Action.ensuring
      (do
        let rows ← Action.onFirst (Site.evaluate connection query)
        let _ ← Action.onSecond (rows.deliver listener))
      (Action.onFirst (Site.closeConnection connection))
  | unavailable directory => do
    let (site, _) ← get
    let config ← Action.ofExcept (site.absolute (missingConfig directory))
    throw (.noConfiguration config)

/-- Whether a feed holds a connection that can be closed. -/
def hasConnection : Feed → Bool
  | remote .. => true
  | _ => false

/-- Closes the connection that a feed holds. -/
def close : Feed → Action Site Unit
  | remote connection _ _ => Site.closeConnection connection
  | _ => pure ()

end Feed

end Gazetteer
