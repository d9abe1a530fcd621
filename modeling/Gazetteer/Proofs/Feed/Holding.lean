import Gazetteer.Proofs.Feed.Selection
import Gazetteer.Proofs.Repository.Holding

/-!
# Proofs/Feed/Holding — the connection that a feed holds

A feed of a service holds the connection that resolving opened for it, until it is closed; any other
feed holds none, and opens and closes one of its own when it is pushed. So resolving leads to a site
where the connection of the feed is held (`ends_resolve`), pushing leaves it held on every way out
(`leads_push`), and closing the feed leaves none (`leads_close`).
-/

namespace Gazetteer

open Gazetteer.Action Site

namespace Feed

/-- The connection that a feed holds. -/
def held : Feed → Option ConnectionId
  | remote connection _ _ => some connection
  | _ => none

/-- Whether a feed asks its questions in the language that connections take. -/
def IsSparql (feed : Feed) : Prop :=
  ∀ connection language query, feed = .remote connection language query → language = sparql

theorem isSparql_of_held {feed : Feed} (h : feed.held = none) : feed.IsSparql := by
  rintro connection language query rfl
  exact absurd h (by simp [held])

variable {ℓ : Type} {since : Site}

/-- Asking a query and handing over what it gives. -/
theorem leads_ask_deliver (listener : Listener ℓ) (connection : ConnectionId) (query : String) :
    Leads (fun s : Site × ℓ => since.Holds (some connection) s.1)
      (do
        let rows ← onFirst (Site.evaluate connection query)
        let _ ← onSecond (rows.deliver listener))
      fun s => since.Holds (some connection) s.1 := by
  refine (ends_onFirst (leads_evaluate connection query)).bind fun rows => ?_
  have hdeliver : Keeps Prod.fst (onSecond (rows.deliver listener) : Action (Site × ℓ) Nat) :=
    keeps_onSecond (f := fun site => site) _
  exact (leads_of_keeps hdeliver).bind fun _ => ends_pure fun _ h => h

/-- **Pushing a feed** leaves held what was held, on every way out. -/
theorem leads_push (listener : Listener ℓ) : ∀ {feed : Feed}, feed.IsSparql →
    Leads (fun s : Site × ℓ => since.Holds feed.held s.1) (feed.push listener)
      fun s => since.Holds feed.held s.1
  | .remote connection language query, h => by
      obtain rfl := h connection language query rfl
      exact (leads_ask_deliver listener connection query).mapFault remoteFault
  | .files config query _, _ => by
      have hload : Leads (since.Holds none) (Repository.loadGraph config) (since.Holds none) :=
        leads_of_keeps_connections (keeps_loadGraph (fun _ _ _ _ => rfl) config) none
      refine (ends_onFirst hload).bind fun graph => ?_
      refine (ends_onFirst (ends_addConnection (.graph graph))).bind fun connection => ?_
      exact (leads_ask_deliver listener connection query).ensuring
        (ends_onFirst (leads_closeConnection connection))
  | .unavailable directory, _ => by
      have hkeeps : Keeps Prod.fst (push listener (.unavailable directory)) :=
        keeps_get.bind fun _ => (keeps_ofExcept _).bind fun _ => keeps_throw _
      exact leads_of_keeps hkeeps

/-- **Closing a feed** leaves no connection held. -/
theorem leads_close : ∀ feed : Feed, Leads (since.Holds feed.held) feed.close (since.Holds none)
  | .remote connection _ _ => leads_closeConnection connection
  | .files .. => ends_pure fun _ h => h
  | .unavailable _ => ends_pure fun _ h => h

end Feed

/-- The feed of a directory's files holds no connection. -/
theorem Resolver.held_localFeed? {site : Site} {directory : Path} {feed : Feed}
    (h : localFeed? site directory = .ok (some feed)) : feed.held = none := by
  obtain ⟨query, rfl⟩ := of_localFeed?_eq_some h
  rfl

/-- **Resolving** gives a feed that holds the one connection that has been opened, if one has; if it
fails, none has been opened. -/
theorem Resolver.ends_resolve {since : Site} (resolver : Resolver) (directory : Path) :
    Ends (since.Holds none) (resolver.resolve directory)
      (fun feed site => feed.IsSparql ∧ since.Holds feed.held site) (since.Holds none) := by
  intro site hsite
  rcases remoteFeed?_cases resolver site with
    ⟨-, query, backend, site', hremote, -, hpush⟩ | ⟨-, site', hremote, hkept⟩
  · have hresolve : resolver.resolve directory site
        = .ok (.remote ⟨site.connections.size⟩ Defaults.queryLanguage query) site' :=
      (congrFun (resolve_eq resolver directory) site).trans (bind_ok hremote _)
    rw [outcome_ok hresolve]
    refine ⟨?_, hsite.push hpush⟩
    rintro _ _ _ heq
    exact (Feed.remote.inj heq).2.1.symm
  · have hresolve := resolve_of_remoteFeed?_none hremote directory
    rcases hlocal : localFeed? site directory with fault | _ | feed
    · rw [hlocal] at hresolve
      rw [outcome_error hresolve]
      exact hsite.of_eq hkept
    · rw [hlocal] at hresolve
      rw [outcome_ok hresolve]
      exact ⟨Feed.isSparql_of_held rfl, hsite.of_eq hkept⟩
    · rw [hlocal] at hresolve
      rw [outcome_ok hresolve]
      have hheld := held_localFeed? hlocal
      refine ⟨Feed.isSparql_of_held hheld, ?_⟩
      simp only [Option.getD_some, hheld]
      exact hsite.of_eq hkept

end Gazetteer
