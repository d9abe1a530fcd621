import Gazetteer.Service.Basic

/-!
# Site — everything that a run reads and changes

A site holds the files, the environment variables, what the network and the RDF engine answer, the
repositories and connections that have been opened, the registries of trusted classes, and the
events so far. Repositories, connections and registries are only ever added, so a place that has
been given out stays valid.
-/

namespace Gazetteer

/-- What a run reads and changes. -/
structure Site where
  files : Files
  environment : List (String × String) := []
  /-- The present time, as it is written into cache files. -/
  time : String := ""
  transport : Transport
  engine : Rdf.Engine
  /-- What has been done towards the network and the engine, the oldest first. -/
  events : List Event := []
  /-- How many graphs have been begun. -/
  graphs : Nat := 0
  repositories : Array Repository := #[]
  connections : Array Connection := #[]
  /-- The registries; the first one belongs to the process. -/
  registries : Array Registry := #[{}]
  /-- The service set by hand, which may be none at all. -/
  service : Option (Option Service) := none

namespace Site

/-- A site with no files and no network, where nothing has happened yet. -/
def bare : Site where
  files := .empty []
  transport := .offline
  engine := .blank

/-- The working directory. -/
def here (site : Site) : Path := site.files.herePath

/-- A path seen from the root. -/
def absolute (site : Site) (p : Path) : Except Fault Path :=
  (site.files.absolute p).mapError fun flaw => .file flaw p.text

/-- The `file:` URL of a path. -/
def url (site : Site) (p : Path) : Except Fault String :=
  (site.files.url p).mapError fun flaw => .file flaw p.text

/-- The value of an environment variable. -/
def setting? (site : Site) (name : String) : Option String :=
  (site.environment.find? fun v => v.1 == name).map (·.2)

/-- The site with one more event. -/
def record (site : Site) (event : Event) : Site := { site with events := site.events ++ [event] }

/-- Records an event. -/
def note (event : Event) : Action Site Unit := modify fun site => site.record event

/-- Takes in a repository. -/
def addRepository (repository : Repository) : Action Site RepositoryId := do
  let site ← get
  set { site with repositories := site.repositories.push repository }
  return ⟨site.repositories.size⟩

/-- Takes in a connection. -/
def addConnection (connection : Connection) : Action Site ConnectionId := do
  let site ← get
  set { site with connections := site.connections.push connection }
  return ⟨site.connections.size⟩

/-- Takes in a registry. -/
def addRegistry (registry : Registry) : Action Site RegistryId := do
  let site ← get
  set { site with registries := site.registries.push registry }
  return ⟨site.registries.size⟩

/-- Changes a repository. -/
def updateRepository (id : RepositoryId) (f : Repository → Repository) : Action Site Unit :=
  modify fun site => { site with repositories := site.repositories.modify id.index f }

/-- Changes a connection. -/
def updateConnection (id : ConnectionId) (f : Connection → Connection) : Action Site Unit :=
  modify fun site => { site with connections := site.connections.modify id.index f }

/-- Changes a registry. -/
def updateRegistry (id : RegistryId) (f : Registry → Registry) : Action Site Unit :=
  modify fun site => { site with registries := site.registries.modify id.index f }

/-- The registry at a place. -/
def registry (site : Site) (id : RegistryId) : Registry := site.registries[id.index]?.getD {}

end Site

/-- The registry of the process. -/
def RegistryId.process : RegistryId := ⟨0⟩

end Gazetteer
