import Gazetteer.Proofs.Repository.Graph
import Gazetteer.Proofs.Repository.Reply
import Gazetteer.Service.Access

/-!
# Proofs/Repository/Given — what runs add to a site, and what they leave alone

A run adds events, graphs, repositories and connections to a site. All else is `given`: the files,
the environment, what the network and the engine answer, the registries, and the service. Opening,
asking and closing connections keeps it.
-/

namespace Gazetteer.Site

/-- A site without what runs have added to it. -/
def given (site : Site) : Site :=
  { site with events := [], graphs := 0, repositories := #[], connections := #[] }

theorem files_eq_of_given {site site' : Site} (h : site'.given = site.given) :
    site'.files = site.files := by
  have := congrArg Site.files h
  exact this

theorem engine_eq_of_given {site site' : Site} (h : site'.given = site.given) :
    site'.engine = site.engine := by
  have := congrArg Site.engine h
  exact this

theorem transport_eq_of_given {site site' : Site} (h : site'.given = site.given) :
    site'.transport = site.transport := by
  have := congrArg Site.transport h
  exact this

theorem time_eq_of_given {site site' : Site} (h : site'.given = site.given) :
    site'.time = site.time := by
  have := congrArg Site.time h
  exact this

open Gazetteer.Action

theorem given_note (event : Event) : Keeps given (note event) :=
  keeps_note (fun _ _ _ _ => rfl) event

theorem given_addRepository (repository : Repository) : Keeps given (addRepository repository) :=
  fun _ => rfl

theorem given_addConnection (c : Connection) : Keeps given (addConnection c) := fun _ => rfl

theorem given_updateConnection (id : ConnectionId) (f : Connection → Connection) :
    Keeps given (updateConnection id f) := fun _ => rfl

theorem given_updateRepository (id : RepositoryId) (f : Repository → Repository) :
    Keeps given (updateRepository id f) := fun _ => rfl

theorem given_ask (backend : Backend) (query : String) : Keeps given (ask backend query) := by
  intro site
  obtain ⟨events, hask⟩ := ask_eq site backend query
  cases hreply : site.reply backend query with
  | ok rows =>
    rw [hreply] at hask
    rw [outcome_ok hask]
    rfl
  | error fault =>
    rw [hreply] at hask
    rw [outcome_error hask]
    rfl

theorem given_evaluate (id : ConnectionId) (query language : String) :
    Keeps given (evaluate id query language) := by
  unfold evaluate
  refine keeps_get.bind fun site => ?_
  dsimp only
  split
  · exact (given_updateConnection id _).bind fun _ => keeps_throw _
  · exact (given_updateConnection id _).bind fun _ => given_ask _ query

theorem given_closeConnection (id : ConnectionId) : Keeps given (closeConnection id) := by
  unfold closeConnection
  refine keeps_get.bind fun site => ?_
  split
  · exact keeps_pure _
  · split
    · exact keeps_pure _
    · refine (given_updateConnection id _).bind fun _ => ?_
      split
      · exact given_note _
      · exact keeps_pure _

theorem given_loadGraph (config : Resource) : Keeps given (Repository.loadGraph config) :=
  keeps_loadGraph (fun _ _ _ _ => rfl) config

theorem given_connect (id : RepositoryId) : Keeps given (connect id) := by
  unfold connect
  refine keeps_get.bind fun site => ?_
  split
  · exact given_addConnection _
  · exact (keeps_loadRepository (fun _ _ _ _ => rfl) id).bind fun _ => given_addConnection _
  · split
    · exact keeps_throw _
    · exact (given_addConnection _).bind fun _ =>
        (given_updateRepository id _).bind fun _ => keeps_pure _
  · exact keeps_throw _

theorem given_ping (endpoint : String) (timeout : Value) : Keeps given (ping endpoint timeout) := by
  unfold ping
  refine (given_note _).bind fun _ => keeps_get.bind fun site => ?_
  split
  · exact keeps_throw _
  · split
    · exact keeps_pure _
    · exact keeps_throw _

/-- **Asking a service for its repository** keeps what is given. -/
theorem given_repository (service : Service) : Keeps given service.repository := by
  cases service with
  | fixed outcome => exact keeps_ofExcept outcome
  | configured config =>
    refine Keeps.bind (keeps_ofExcept _) fun repository => ?_
    exact (given_ping _ _).bind fun _ => given_addRepository repository

end Gazetteer.Site
