import Gazetteer.Repository.Evaluation
import Gazetteer.Value.Number

/-!
# Service/Access — the knowledge service of a site

The service is the one set by hand, which may be none at all, and otherwise the one that the
environment variables name. Its repository is handed out only when the server answers.
-/

namespace Gazetteer

namespace ServiceConfig

/-- The configuration in the environment variables, with some parts given. -/
def fromVariables (site : Site) (server repository : Option String := none)
    (timeout : Option Value := none) : Except Fault ServiceConfig := do
  let server := server.getD ((site.setting? "LKB_SERVICE_URL").getD "")
  let repository := repository.getD ((site.setting? "LKB_SERVICE_REPOSITORY").getD "lkb")
  let timeout ←
    match timeout with
    | some v => .ok v
    | none =>
      match site.setting? "LKB_SERVICE_TIMEOUT" with
      | some text => (integerOfText text).map .int
      | none => .ok (.int 5)
  return ⟨server, repository, timeout⟩

end ServiceConfig

namespace Service

/-- The repository that a service stands for, once its server has answered. -/
def repository : Service → Action Site RepositoryId
  | fixed outcome => Action.ofExcept outcome
  | configured config => do
    let repository ← Action.ofExcept
      (Site.serverRepository config.server config.repository .null)
    Site.ping (endpointOf config.server config.repository) config.timeout
    Site.addRepository repository

end Service

/-- The service that the environment variables name, if they name one. -/
def Site.configuredService (site : Site) : Except Fault (Option Service) :=
  match ServiceConfig.fromVariables site with
  | .error fault => .error fault
  | .ok config => .ok (if config.isConfigured then some (.configured config) else none)

/-- The knowledge service: the one set by hand, or else the one of the environment. -/
def Site.knowledgeService (site : Site) : Except Fault (Option Service) :=
  match site.service with
  | some service => .ok service
  | none => site.configuredService

end Gazetteer
