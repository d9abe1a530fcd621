import Gazetteer.Proofs.Feed.Holding
import Gazetteer.Proofs.Feeder.Calls
import Gazetteer.Proofs.Feeder.FeedAll

/-!
# Proofs/Feeder/Holding — the connections that feeders open

A feeder opens connections in two places. One that pushes a feed opens and closes its connection
while it fills a dictionary (`leads_feedAll`). One that looks up labels opens a connection for the
session of a document, and the session keeps it until the document ends: between the calls about
documents there is no session and no connection is held (`Feeder.Rests`), and during a document the
connection of its one session, if it has one (`Feeder.Attends`). `ends_begin`, `leads_feedAhead` and
`leads_finish` lead from the one to the other, on every way out.
-/

namespace Gazetteer

open Gazetteer.Action Site

namespace Feeder

variable {since : Site}

/-- The sessions of a feeder that looks up labels; other feeders have no connections of sessions. -/
def labelSessions : Feeder → Sessions (ConnectionId × LabelSession)
  | label feeder => feeder.sessions
  | _ => []

/-! ## Setting up, and filling a dictionary -/

/-- **Setting a feeder up** leaves connections and sessions alone. -/
theorem keeps_connections_setUp (options : List (String × Value)) :
    Keeps (fun s : Site × Feeder => (s.1.connections, s.2.labelSessions)) (setUp options) := by
  rintro ⟨site, feeder⟩
  unfold setUp
  cases feeder with
  | idle => rfl
  | rehearsed _ => rfl
  | label feeder =>
    have hkeeps := LabelFeeder.keeps_setUp
      (f := fun s : Site × LabelFeeder => (s.1.connections, s.2.sessions))
      (fun _ _ _ _ _ _ _ _ => rfl) options (site, feeder)
    rw [outcome_get_bind]
    dsimp only
    rw [outcome_zoom]
    exact hkeeps
  | vocabulary resolver directory =>
    rw [outcome_get_bind]
    dsimp only
    split <;> rfl

theorem leads_fill {ℓ : Type} (feeder : Feeder) (listener : Listener ℓ) :
    Leads (fun s : Site × ℓ => since.Holds none s.1) (feeder.fill ℓ listener)
      fun s => since.Holds none s.1 := by
  rcases feeder with _ | ⟨resolver, _ | directory⟩ | feeder | rehearsal
  · exact ends_pure fun _ h => h
  · exact ends_pure fun _ h => h
  · refine (ends_onFirst (resolver.ends_resolve directory)).bind fun feed => ?_
    intro s hs
    exact ((Feed.leads_push listener hs.1).ensuring (ends_onFirst feed.leads_close)) s hs.2
  · exact ends_pure fun _ h => h
  · exact leads_of_keeps (keeps_onSecond (f := fun site => site) _)

/-- **Filling a dictionary** leaves no connection held, -/
theorem leads_feedAll {ℓ : Type} (listener : Listener ℓ) :
    Leads (fun s : (Site × Feeder) × ℓ => since.Holds none s.1.1) (feedAll listener)
      fun s => since.Holds none s.1.1 :=
  leads_of_outcome fun ⟨⟨site, feeder⟩, l⟩ hs => by
    rw [outcome_feedAll]
    exact (feeder.leads_fill listener).outcome hs

/-- **and the feeder as it is.** -/
theorem keeps_feeder_feedAll {ℓ : Type} (listener : Listener ℓ) :
    Keeps (fun s : (Site × Feeder) × ℓ => s.1.2) (feedAll listener) := by
  rintro ⟨⟨site, feeder⟩, l⟩
  rw [outcome_feedAll]

/-! ## The calls about a document -/

/-- Whether a feeder is between documents: there is no session, and no connection is held. -/
def Rests (since : Site) (s : Site × Feeder) : Prop :=
  since.Holds none s.1 ∧ s.2.labelSessions = []

/-- Whether a feeder is in the middle of a document: at most this one has a session, whose
connection is then the one that is held. -/
def Attends (since : Site) (document : Document) (s : Site × Feeder) : Prop :=
  match s.2 with
  | label feeder => ∃ connection session, feeder.sessions = [(document.key, connection, session)] ∧
      since.Holds (some connection) s.1
  | _ => since.Holds none s.1

/-- A call to a rehearsed feeder leaves the site as it is. -/
theorem outcome_onRehearsal {α : Type} (rehearsal : Rehearsal)
    (action : Action (List CueEvent × Sessions (String × List Cue)) α) (site : Site) :
    outcome (onRehearsal rehearsal action) (site, .rehearsed rehearsal)
      = ((outcome action (rehearsal.events, rehearsal.sessions)).1, site,
        .rehearsed { rehearsal with
          events := (outcome action (rehearsal.events, rehearsal.sessions)).2.1
          sessions := (outcome action (rehearsal.events, rehearsal.sessions)).2.2 }) :=
  outcome_zoom _ _ _ _

/-- **Opening a session** is opening its connection. -/
theorem ends_openFor (feeder : LabelFeeder) (document : Document) :
    Ends (since.Holds none) (feeder.ops.openFor document)
      (fun session? site => ∃ connection session, session? = some (connection, session) ∧
        since.Holds (some connection) site) (since.Holds none) := by
  dsimp only [LabelFeeder.ops]
  split
  · exact ends_throw fun _ h => h
  · exact (ends_connect _).bind fun connection => ends_pure fun _ h => ⟨connection, _, rfl, h⟩

/-- **A document that begins** gets the one session, or there is none. -/
theorem ends_begin (document : Document) :
    Ends (Rests since) (begin document)
      (fun fed s => if fed then Attends since document s else Rests since s) (Rests since) := by
  rintro ⟨site, feeder⟩ ⟨hsite, hsessions⟩
  rcases feeder with _ | ⟨resolver, directory⟩ | feeder | rehearsal
  · exact ⟨hsite, rfl⟩
  · exact ⟨hsite, rfl⟩
  · have hrun : outcome (begin document) (site, .label feeder) = _ :=
      feeder.goesAlong_begin document (site, feeder.sessions)
    have hnil : feeder.sessions = [] := hsessions
    have hopen := ends_openFor feeder document site hsite
    rw [hrun, hnil]
    rcases hresult : feeder.ops.openFor document site with ⟨session?, site'⟩ | ⟨fault, site'⟩
    · rw [outcome_ok hresult] at hopen
      obtain ⟨connection, session, rfl, hheld⟩ := hopen
      rw [outcome_ok (Sessions.begin_first hresult rfl)]
      exact ⟨connection, session, rfl, hheld⟩
    · rw [outcome_error hresult] at hopen
      rw [outcome_error (Sessions.begin_error hresult)]
      exact ⟨hopen, rfl⟩
  · have hrun : outcome (begin document) (site, .rehearsed rehearsal) = _ :=
      outcome_onRehearsal rehearsal (Sessions.begin rehearsal.ops document) site
    rw [hrun]
    rcases (outcome (Sessions.begin rehearsal.ops document)
      (rehearsal.events, rehearsal.sessions)).1 with fault | _ | _
    · exact ⟨hsite, rfl⟩
    · exact ⟨hsite, rfl⟩
    · exact hsite

/-- **Looking up phrases** keeps the connection held. -/
theorem leads_lookUpAll (connection : ConnectionId) : ∀ phrases : List String,
    Leads (fun s : Site × LabelSession => since.Holds (some connection) s.1)
      (LabelSession.lookUpAll (fun query => Site.evaluate connection query) phrases)
      fun s => since.Holds (some connection) s.1
  | [] => ends_pure fun _ h => h
  | phrase :: rest => by
      have hlookUp : ∀ template, Leads (since.Holds (some connection))
          (LabelSession.lookUp (fun query => Site.evaluate connection query) template phrase)
          (since.Holds (some connection)) := fun template =>
        (leads_of_keeps_connections (keeps_ofExcept _) _).bind fun query =>
          (leads_evaluate connection query).attempt.bind fun answer =>
            leads_of_keeps_connections (keeps_ofExcept _) _
      rintro ⟨site, session⟩ hsite
      simp only [LabelSession.lookUpAll, outcome_get_bind]
      by_cases hskips : session.skips phrase = true
      · simp only [hskips, if_true]
        exact leads_lookUpAll connection rest _ hsite
      · simp only [hskips, if_false, Bool.false_eq_true]
        rw [outcome_modify_bind]
        exact ((ends_onFirst (hlookUp session.template)).bind fun records =>
          (leads_lookUpAll connection rest).bind fun others => ends_pure fun _ h => h) _ hsite

/-- **Asking a session** keeps its connection held, and the session with it. -/
theorem leads_ops_checkpoint (feeder : LabelFeeder) (connection : ConnectionId)
    (ahead : List String) :
    Leads (fun s => since.Holds (some connection) s.1 ∧ s.2.1 = connection)
      (feeder.ops.checkpoint ahead)
      fun s => since.Holds (some connection) s.1 ∧ s.2.1 = connection :=
  leads_of_outcome fun ⟨site, connection, session⟩ hs => by
    obtain ⟨hsite, rfl⟩ := hs
    have hend := (leads_lookUpAll connection
      (LabelSession.phrases (LabelSession.reach session.maxLexemes ahead.length) ahead)).outcome
      (s := (site, session)) hsite
    dsimp only [LabelFeeder.ops]
    rw [outcome_get_bind, outcome_zoom]
    exact ⟨hend, rfl⟩

/-- **Words ahead of a document** keep the connection of its session held. -/
theorem leads_checkpoint (document : Document) (ahead : List String) :
    Leads (Attends since document) (checkpoint document ahead) (Attends since document) :=
  leads_of_outcome fun ⟨site, feeder⟩ hs => by
    rcases feeder with _ | ⟨resolver, directory⟩ | feeder | rehearsal
    · exact hs
    · exact hs
    · obtain ⟨connection, session, hsessions, hsite⟩ := hs
      have hrun : outcome (checkpoint document ahead) (site, .label feeder) = _ :=
        feeder.goesAlong_checkpoint document ahead (site, feeder.sessions)
      have hfind : feeder.sessions.find? document = some (connection, session) := by
        rw [hsessions, Sessions.find?_singleton]
      rw [hrun]
      by_cases hahead : ahead = []
      · rw [hahead, outcome_ok Sessions.checkpoint_nil]
        exact ⟨connection, session, hsessions, hsite⟩
      · have hend := (leads_ops_checkpoint feeder connection ahead).outcome
          (s := (site, connection, session)) ⟨hsite, rfl⟩
        rw [Sessions.outcome_checkpoint hahead hfind, hsessions]
        revert hend
        rcases outcome (feeder.ops.checkpoint ahead) (site, connection, session) with
          ⟨result, site', connection', session'⟩
        rintro ⟨hsite', rfl⟩
        exact ⟨connection', session', Sessions.update_singleton document _ _, hsite'⟩
    · have hrun : outcome (checkpoint document ahead) (site, .rehearsed rehearsal) = _ :=
        outcome_onRehearsal rehearsal (Sessions.checkpoint rehearsal.ops document ahead) site
      rw [hrun]
      exact hs

theorem leads_feedAhead {ℓ : Type} (listener : Listener ℓ) (document : Document)
    (ahead : List String) :
    Leads (fun s : (Site × Feeder) × ℓ => Attends since document s.1)
      (feedAhead listener document ahead) fun s => Attends since document s.1 :=
  (ends_onFirst (leads_checkpoint document ahead)).bind fun records =>
    leads_of_keeps (keeps_onSecond (f := fun s => s) (handAll listener records))

/-- **A document that ends** gives up its session, and the connection is closed. -/
theorem leads_finish (document : Document) :
    Leads (Attends since document) (finish document) (Rests since) :=
  leads_of_outcome fun ⟨site, feeder⟩ hs => by
    rcases feeder with _ | ⟨resolver, directory⟩ | feeder | rehearsal
    · exact ⟨hs, rfl⟩
    · exact ⟨hs, rfl⟩
    · obtain ⟨connection, session, hsessions, hsite⟩ := hs
      have hrun : outcome (finish document) (site, .label feeder) = _ :=
        feeder.goesAlong_finish document (site, feeder.sessions)
      have hfind : feeder.sessions.find? document = some (connection, session) := by
        rw [hsessions, Sessions.find?_singleton]
      obtain ⟨site', hclose⟩ := exists_closeConnection site connection
      have hend := (leads_closeConnection connection).outcome hsite
      rw [outcome_ok hclose] at hend
      rw [hrun, outcome_ok (Sessions.finish_some hfind hclose), hsessions, Sessions.erase_singleton]
      exact ⟨hend, rfl⟩
    · have hrun : outcome (finish document) (site, .rehearsed rehearsal) = _ :=
        outcome_onRehearsal rehearsal (Sessions.finish rehearsal.ops document) site
      rw [hrun]
      exact ⟨hs, rfl⟩

end Feeder

end Gazetteer
