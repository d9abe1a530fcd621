import Gazetteer.Json.Writer
import Gazetteer.Proofs.Feeder.Calls
import Gazetteer.Proofs.Feeder.Lookups
import Gazetteer.Proofs.Feeder.SetUp
import Gazetteer.Proofs.Repository.Queries
import Mathlib.Logic.Function.Basic

/-!
# Proofs/Feeder/Isolation — documents that share a feeder do not meet

Documents that share a feeder which looks up labels have a session and a connection each.
`LabelFeeder.alone` says what the calls about one document come to by themselves: its state is one
session, if there is one, and the queries so far, and it answers them with nothing but a function.
A call about a document does the same to its session among the others as it does alone, and nothing
to the others (`perform_alone`). So what a document sees of a run does not depend on the calls of
other documents (`sights_alone`), and two feeders with the same settings and answers show a document
the same (`LabelFeeder.isolated`).
-/

namespace Gazetteer

open Gazetteer.Action

/-! ## A document by itself -/

namespace LabelFeeder

/-- The session of a document that begins. -/
def newSession (feeder : LabelFeeder) : LabelSession :=
  ⟨feeder.template, feeder.minLength, feeder.maxLexemes, []⟩

/-- Answers a query from a function, and keeps it. -/
def answering (answers : Except Fault (String → Except Fault Rows)) (query : String) :
    Action (List String) Rows := do
  modify fun queries => queries ++ [query]
  let answer ← Action.ofExcept answers
  Action.ofExcept (answer query)

/-- The calls about one document. The state is the queries so far and the session, if there is
one. -/
def alone (new : LabelSession) (answers : Except Fault (String → Except Fault Rows)) :
    DocumentFeed (List String × Option LabelSession) where
  begin _ := do
    let _ ← Action.ofExcept answers
    modify fun (queries, _) => (queries, some new)
    return true
  checkpoint document ahead := do
    if ahead.isEmpty then return []
    let (_, session?) ← get
    match session? with
    | none => throw (.noSession document.shown)
    | some session =>
      zoom (fun (queries, _) => (queries, session))
        (fun (queries, session) _ => (queries, some session))
        (LabelSession.checkpoint (answering answers) ahead)
  finish _ := modify fun (queries, _) => (queries, none)

end LabelFeeder

/-! ## Looking up phrases -/

section LookUp

variable {answer : String → Except Fault Rows} {connection : ConnectionId} {site : Site}

/-- **Looking up a phrase** over a connection is looking it up in what the connection answers. -/
theorem outcome_lookUp (h : site.Serves connection answer) (template phrase : String)
    (queries : List String) : ∃ result asked site',
    outcome (LabelSession.lookUp (fun query => Site.evaluate connection query) template phrase) site
      = (result, site') ∧
    outcome (LabelSession.lookUp (LabelFeeder.answering (.ok answer)) template phrase) queries
      = (result, queries ++ asked) ∧
    Site.Asks connection asked site site' := by
  cases hquery : LabelSession.query template phrase with
  | error fault =>
    refine ⟨.error fault, [], site, LabelSession.outcome_lookUp_error hquery, ?_,
      .refl connection site⟩
    rw [List.append_nil]
    exact LabelSession.outcome_lookUp_error hquery
  | ok query =>
    obtain ⟨site', hevaluate, hasks⟩ := h.outcome_evaluate query
    have hanswering : outcome (LabelFeeder.answering (.ok answer) query) queries
        = (answer query, queries ++ [query]) := outcome_ofExcept (answer query) _
    exact ⟨LabelSession.recordsOf (answer query), [query], site',
      LabelSession.outcome_lookUp_eq hquery hevaluate,
      LabelSession.outcome_lookUp_eq hquery hanswering, hasks⟩

/-- **Looking up phrases one after the other**, likewise. -/
theorem outcome_lookUpAll : ∀ (phrases : List String) {site : Site} (session : LabelSession)
    (queries : List String), site.Serves connection answer → ∃ result session' asked site',
    outcome (LabelSession.lookUpAll (fun query => Site.evaluate connection query) phrases)
      (site, session) = (result, site', session') ∧
    outcome (LabelSession.lookUpAll (LabelFeeder.answering (.ok answer)) phrases)
      (queries, session) = (result, queries ++ asked, session') ∧
    Site.Asks connection asked site site'
  | [], site, session, queries, _ =>
    ⟨.ok [], session, [], site, rfl, by rw [List.append_nil]; rfl, .refl connection site⟩
  | phrase :: rest, site, session, queries, h => by
      cases hskips : session.skips phrase with
      | true =>
        rw [LabelSession.outcome_lookUpAll_of_skips hskips,
          LabelSession.outcome_lookUpAll_of_skips hskips]
        exact outcome_lookUpAll rest session queries h
      | false =>
        obtain ⟨result, asked, site₁, hsite, hqueries, hasks⟩ :=
          outcome_lookUp h session.template phrase queries
        rw [LabelSession.outcome_lookUpAll_cons hskips, LabelSession.outcome_lookUpAll_cons hskips,
          hsite, hqueries]
        cases result with
        | error fault =>
          exact ⟨.error fault, session.remember phrase, asked, site₁, rfl, rfl, hasks⟩
        | ok records =>
          obtain ⟨result, session', asked', site₂, hsite', hqueries', hasks'⟩ :=
            outcome_lookUpAll rest (session.remember phrase) (queries ++ asked) (hasks.serves h)
          simp only [hsite', hqueries', List.append_assoc]
          exact ⟨result.map (records ++ ·), session', asked ++ asked', site₂, rfl, rfl,
            hasks.trans hasks'⟩

/-- **A checkpoint of a session**, likewise. -/
theorem outcome_labelCheckpoint (ahead : List String) (session : LabelSession)
    (queries : List String) (h : site.Serves connection answer) :
    ∃ result session' asked site',
    outcome (LabelSession.checkpoint (fun query => Site.evaluate connection query) ahead)
      (site, session) = (result, site', session') ∧
    outcome (LabelSession.checkpoint (LabelFeeder.answering (.ok answer)) ahead)
      (queries, session) = (result, queries ++ asked, session') ∧
    Site.Asks connection asked site site' :=
  outcome_lookUpAll _ session queries h

end LookUp

/-! ## One session among others -/

/-- A site and the sessions of a feeder that looks up labels. -/
abbrev Shared := Site × Sessions (ConnectionId × LabelSession)

/-- Whether the sessions of a feeder are in order: each has an open connection of its own, which
answers as the feeder's connections do. -/
structure Tended (feeder : LabelFeeder) (answers : Except Fault (String → Except Fault Rows))
    (s : Shared) : Prop where
  same : feeder.answers s.1 = answers
  serves : ∀ document held, s.2.find? document = some held →
    ∃ answer, answers = .ok answer ∧ s.1.Serves held.1 answer
  distinct : ∀ document other held held', document.key ≠ other.key →
    s.2.find? document = some held → s.2.find? other = some held' →
    held.1.index ≠ held'.1.index

/-- What a call about a document leaves: sessions in order, the session that the document then has,
and those of the other documents as they were. -/
structure Turned (feeder : LabelFeeder) (answers : Except Fault (String → Except Fault Rows))
    (document : Document) (s s' : Shared) (session? : Option LabelSession) : Prop where
  tended : Tended feeder answers s'
  session : (s'.2.find? document).map Prod.snd = session?
  others : ∀ other, other.key ≠ document.key → s'.2.find? other = s.2.find? other

section Turns

variable {feeder : LabelFeeder} {answers : Except Fault (String → Except Fault Rows)}
  {s s' : Shared} {document : Document}

theorem LabelFeeder.answers_of_same {site site' : Site} (h : Site.SameSources site site') :
    feeder.answers site' = feeder.answers site := by
  rw [answers, answers, h.answersOf]

theorem Tended.initial (site : Site) : Tended feeder (feeder.answers site) (site, []) where
  same := rfl
  serves _ _ h := absurd h (by simp [Sessions.find?])
  distinct _ _ _ _ _ h := absurd h (by simp [Sessions.find?])

namespace Tended

variable (h : Tended feeder answers s)

include h

/-- **The sessions stay in order** if the document's is, and the others are left alone. -/
theorem of_turn (hsame : Site.SameSources s.1 s'.1)
    (hothers : ∀ other, other.key ≠ document.key → s'.2.find? other = s.2.find? other)
    (hserves : ∀ other held answer, other.key ≠ document.key → s.2.find? other = some held →
      s.1.Serves held.1 answer → s'.1.Serves held.1 answer)
    (hown : ∀ held, s'.2.find? document = some held →
      (∃ answer, answers = .ok answer ∧ s'.1.Serves held.1 answer) ∧
      ∀ other held', other.key ≠ document.key → s.2.find? other = some held' →
        held.1.index ≠ held'.1.index) :
    Tended feeder answers s' where
  same := (LabelFeeder.answers_of_same hsame).trans h.same
  serves other held hheld := by
    by_cases hkey : other.key = document.key
    · exact (hown held ((Sessions.find?_of_key hkey).symm.trans hheld)).1
    · rw [hothers other hkey] at hheld
      obtain ⟨answer, hanswer, hserve⟩ := h.serves other held hheld
      exact ⟨answer, hanswer, hserves other held answer hkey hheld hserve⟩
  distinct first second held held' hne hheld hheld' := by
    by_cases hkey : first.key = document.key
    · have hkey' : second.key ≠ document.key := fun heq => hne (hkey.trans heq.symm)
      rw [hothers second hkey'] at hheld'
      exact (hown held ((Sessions.find?_of_key hkey).symm.trans hheld)).2 second held' hkey' hheld'
    · rw [hothers first hkey] at hheld
      by_cases hkey' : second.key = document.key
      · exact Ne.symm ((hown held' ((Sessions.find?_of_key hkey').symm.trans hheld')).2 first held
          hkey hheld)
      · rw [hothers second hkey'] at hheld'
        exact h.distinct first second held held' hne hheld hheld'

/-- **A call that leaves the sessions** as they are, and the connections. -/
theorem unturned (document : Document) {site' : Site} (hsame : Site.SameSources s.1 site')
    (hconnections : site'.connections = s.1.connections) :
    Site.asked s.1 site' = [] ∧
      Turned feeder answers document s (site', s.2) ((s.2.find? document).map Prod.snd) := by
  have hserves : ∀ id answer, s.1.Serves id answer → site'.Serves id answer :=
    fun id answer hserves => hserves.of_same hsame fun c hc => ⟨c.queries, by rw [hconnections, hc]⟩
  have htended : Tended feeder answers (site', s.2) := {
    same := (LabelFeeder.answers_of_same hsame).trans h.same
    serves := fun other held hheld =>
      have ⟨answer, hanswer, hserve⟩ := h.serves other held hheld
      ⟨answer, hanswer, hserves _ _ hserve⟩
    distinct := h.distinct }
  exact ⟨Site.asked_eq_nil fun i => by rw [Site.queriesAt, Site.queriesAt, hconnections],
    htended, rfl, fun _ _ => rfl⟩

/-- **Opening the session of a document** is opening a connection, or failing as the feeder's
answers do. -/
theorem openFor (document : Document) :
    (∃ answer backend site', answers = .ok answer ∧ s.1.reply backend = answer ∧
      feeder.ops.openFor document s.1
        = .ok (some (⟨s.1.connections.size⟩, feeder.newSession)) site' ∧
      Site.Opens backend s.1 site') ∨
    (∃ fault site', answers = .error fault ∧ feeder.ops.openFor document s.1 = .error fault site' ∧
      Site.SameSources s.1 site' ∧ site'.connections = s.1.connections) := by
  have hsame := h.same
  cases hrepository : feeder.repository with
  | none =>
    rw [LabelFeeder.answers, hrepository] at hsame
    exact .inr ⟨_, s.1, hsame.symm, by simp only [LabelFeeder.ops, hrepository]; rfl,
      ⟨rfl, rfl, rfl⟩, rfl⟩
  | some repository =>
    simp only [LabelFeeder.answers, hrepository, Site.answersOf] at hsame
    rcases Site.connect_cases s.1 repository with
      ⟨backend, site', hbackend, hconnect, hsources, hpush⟩ |
      ⟨fault, site', hbackend, hconnect, hsources, hkept⟩
    · rw [hbackend] at hsame
      refine .inl ⟨_, backend, site', hsame.symm, rfl, ?_, hsources, hpush⟩
      simp only [LabelFeeder.ops, hrepository]
      exact bind_ok hconnect _
    · rw [hbackend] at hsame
      refine .inr ⟨fault, site', hsame.symm, ?_, hsources, hkept⟩
      simp only [LabelFeeder.ops, hrepository]
      exact bind_error hconnect _

/-- **A document that has begun** has a new session, and the other documents have theirs. -/
theorem began {site' : Site} {answer : String → Except Fault Rows} (hanswer : answers = .ok answer)
    (hsame : Site.SameSources s.1 site')
    (hnew : site'.Serves ⟨s.1.connections.size⟩ answer)
    (hserves : ∀ other held answer, other.key ≠ document.key → s.2.find? other = some held →
      s.1.Serves held.1 answer → site'.Serves held.1 answer) :
    Turned feeder answers document s
      (site', s.2.erase document ++ [(document.key, (⟨s.1.connections.size⟩, feeder.newSession))])
      (some feeder.newSession) := by
  have hfind := Sessions.find?_erase_append s.2 document
    ((⟨s.1.connections.size⟩ : ConnectionId), feeder.newSession)
  have hkept : ∀ other, other.key ≠ document.key → _ = s.2.find? other := fun other hne =>
    Sessions.find?_erase_append_of_ne hne s.2
      ((⟨s.1.connections.size⟩ : ConnectionId), feeder.newSession)
  refine ⟨h.of_turn hsame hkept hserves fun held hheld => ?_, by rw [hfind]; rfl, hkept⟩
  obtain rfl := Option.some.inj (hfind.symm.trans hheld)
  refine ⟨⟨answer, hanswer, hnew⟩, fun other held' hne hheld' => ?_⟩
  obtain ⟨_, -, hserve⟩ := h.serves other held' hheld'
  exact Ne.symm (Nat.ne_of_lt hserve.index_lt)

/-- **A document that begins** among others begins as it does alone. -/
theorem begin (document : Document) (queries : List String) : ∃ result s' session?,
    outcome (Sessions.begin feeder.ops document) s = (result, s') ∧
    outcome ((LabelFeeder.alone feeder.newSession answers).begin document)
        (queries, (s.2.find? document).map Prod.snd)
      = (result, queries ++ Site.asked s.1 s'.1, session?) ∧
    Turned feeder answers document s s' session? := by
  obtain ⟨site, sessions⟩ := s
  rcases h.openFor document with
    ⟨answer, backend, site₁, hanswer, hreply, hopen, hopens⟩ |
    ⟨fault, site₁, hanswer, hopen, hsame, hconnections⟩
  · have halone : ∀ asked, asked = [] →
        outcome ((LabelFeeder.alone feeder.newSession answers).begin document)
          (queries, (sessions.find? document).map Prod.snd)
        = (.ok true, queries ++ asked, some feeder.newSession) := by
      rintro _ rfl
      rw [hanswer, List.append_nil]
      rfl
    have hnew := hopens.serves_new
    rw [hreply] at hnew
    cases hfind : sessions.find? document with
    | none =>
      rw [← hfind]
      exact ⟨_, _, _, outcome_ok (Sessions.begin_first hopen hfind),
        halone _ (Site.asked_eq_nil hopens.queriesAt_eq),
        h.began hanswer hopens.same hnew fun _ _ _ _ _ hserve => hopens.serves hserve⟩
    | some previous =>
      rw [← hfind]
      obtain ⟨_, -, hserve⟩ := h.serves document previous hfind
      obtain ⟨site₂, hclose, hcloses⟩ := Site.exists_closes (hopens.serves hserve)
      have hne : site.connections.size ≠ previous.1.index := Ne.symm (Nat.ne_of_lt hserve.index_lt)
      refine ⟨_, _, _, outcome_ok (Sessions.begin_again hopen hfind hclose),
        halone _ (Site.asked_eq_nil fun i => ?_), h.began hanswer (hopens.same.trans hcloses.same)
          (hcloses.serves hne hnew) fun other held _ hkey hheld hserve => ?_⟩
      · exact (hcloses.queriesAt_eq i).trans (hopens.queriesAt_eq i)
      · exact hcloses.serves (h.distinct other document held previous hkey hheld hfind)
          (hopens.serves hserve)
  · obtain ⟨hasked, hturned⟩ := h.unturned document hsame hconnections
    refine ⟨_, _, _, outcome_error (Sessions.begin_error hopen), ?_, hturned⟩
    rw [hasked, hanswer, List.append_nil]
    rfl

/-- **A document that ends** among others ends as it does alone. -/
theorem finish (document : Document) (queries : List String) : ∃ s' session?,
    outcome (Sessions.finish feeder.ops document) s = (.ok (), s') ∧
    outcome ((LabelFeeder.alone feeder.newSession answers).finish document)
        (queries, (s.2.find? document).map Prod.snd)
      = (.ok (), queries ++ Site.asked s.1 s'.1, session?) ∧
    Turned feeder answers document s s' session? := by
  obtain ⟨site, sessions⟩ := s
  have herased := Sessions.find?_erase document sessions
  have halone : ∀ asked, asked = [] →
      outcome ((LabelFeeder.alone feeder.newSession answers).finish document)
        (queries, (sessions.find? document).map Prod.snd) = (.ok (), queries ++ asked, none) := by
    rintro _ rfl
    rw [List.append_nil]
    rfl
  have hturned : ∀ {site' : Site}, Site.SameSources site site' →
      (∀ other held answer, other.key ≠ document.key → sessions.find? other = some held →
        site.Serves held.1 answer → site'.Serves held.1 answer) →
      Turned feeder answers document (site, sessions) (site', sessions.erase document) none := by
    intro site' hsame hserves
    refine ⟨h.of_turn hsame (fun other hne => Sessions.find?_erase_of_ne hne sessions) hserves
      fun held hheld => absurd (herased.symm.trans hheld) (by simp), by rw [herased]; rfl,
      fun other hne => Sessions.find?_erase_of_ne hne sessions⟩
  cases hfind : sessions.find? document with
  | none =>
    rw [← hfind]
    exact ⟨_, _, outcome_ok (Sessions.finish_none hfind),
      halone _ (Site.asked_eq_nil fun _ => rfl),
      hturned ⟨rfl, rfl, rfl⟩ fun _ _ _ _ _ hserve => hserve⟩
  | some held =>
    rw [← hfind]
    obtain ⟨_, -, hserve⟩ := h.serves document held hfind
    obtain ⟨site₁, hclose, hcloses⟩ := Site.exists_closes hserve
    exact ⟨_, _, outcome_ok (Sessions.finish_some hfind hclose),
      halone _ (Site.asked_eq_nil hcloses.queriesAt_eq),
      hturned hcloses.same fun other held' _ hkey hheld hserve =>
        hcloses.serves (h.distinct other document held' held hkey hheld hfind) hserve⟩

/-- **Lexemes ahead** of a document among others come to what they do alone. -/
theorem checkpoint (document : Document) (lexemes queries : List String) :
    ∃ result s' session?,
    outcome (Sessions.checkpoint feeder.ops document lexemes) s = (result, s') ∧
    outcome ((LabelFeeder.alone feeder.newSession answers).checkpoint document lexemes)
        (queries, (s.2.find? document).map Prod.snd)
      = (result, queries ++ Site.asked s.1 s'.1, session?) ∧
    Turned feeder answers document s s' session? := by
  obtain ⟨site, sessions⟩ := s
  obtain ⟨hasked, hturned⟩ := h.unturned document ⟨rfl, rfl, rfl⟩ rfl
  by_cases hlexemes : lexemes = []
  · subst hlexemes
    exact ⟨_, _, _, outcome_ok Sessions.checkpoint_nil, by rw [hasked, List.append_nil]; rfl,
      hturned⟩
  · have hempty : lexemes.isEmpty = false := by simpa using hlexemes
    cases hfind : sessions.find? document with
    | none =>
      rw [hfind] at hturned
      refine ⟨_, _, _, outcome_error (Sessions.checkpoint_none hlexemes hfind), ?_, hturned⟩
      rw [hasked, List.append_nil]
      simp only [LabelFeeder.alone, hempty]
      rfl
    | some held =>
      obtain ⟨connection, session⟩ := held
      obtain ⟨answer, hanswer, hserve⟩ := h.serves document _ hfind
      obtain ⟨result, session', asked, site', hsite, halone, hasks⟩ :=
        outcome_labelCheckpoint lexemes session queries hserve
      have hops : outcome (feeder.ops.checkpoint lexemes) (site, (connection, session))
          = (result, site', (connection, session')) := by
        simp only [LabelFeeder.ops, outcome_get_bind]
        rw [outcome_zoom, hsite]
      have hupdate := Sessions.find?_update document (connection, session') hfind
      have hothers : ∀ other, other.key ≠ document.key → _ = sessions.find? other :=
        fun other hne => Sessions.find?_update_of_ne hne sessions (connection, session')
      have htended : Tended feeder answers
          (site', sessions.update document (connection, session')) := by
        refine h.of_turn hasks.same hothers (fun _ _ _ _ _ => hasks.serves) fun held hheld => ?_
        obtain rfl := Option.some.inj (hupdate.symm.trans hheld)
        refine ⟨⟨answer, hanswer, hasks.serves hserve⟩, fun other held' hne hheld' => ?_⟩
        exact h.distinct document other (connection, session) held' (Ne.symm hne) hfind hheld'
      refine ⟨result, (site', sessions.update document (connection, session')), some session', ?_,
        ?_, htended, by rw [hupdate]; rfl, hothers⟩
      · rw [Sessions.outcome_checkpoint hlexemes hfind, hops]
      · rw [hasks.asked_eq hserve, hanswer]
        simp only [LabelFeeder.alone, hempty, Bool.false_eq_true, if_false, outcome_get_bind,
          Option.map_some]
        rw [outcome_zoom, halone]

end Tended

end Turns

/-! ## A listener for each document -/

section Listeners

variable {ℓ : Type} (listeners : Nat → Listener ℓ)

/-- The listeners of documents, each with a state of its own. -/
def Listener.each (document : Document) : Listener (Nat → ℓ) := fun record =>
  zoom (fun ls => ls document.key) (fun l ls => Function.update ls document.key l)
    (listeners document.key record)

/-- **Handing records to a document's listener** changes its state alone. -/
theorem outcome_handAll_each (document : Document) : ∀ (records : List Entity) (ls : Nat → ℓ),
    outcome (handAll (Listener.each listeners document) records) ls
      = ((outcome (handAll (listeners document.key) records) (ls document.key)).1,
        Function.update ls document.key
          (outcome (handAll (listeners document.key) records) (ls document.key)).2)
  | [], ls => by
      rw [handAll, handAll, outcome_pure, outcome_pure, Function.update_eq_self]
  | record :: rest, ls => by
      rw [handAll, handAll, outcome_bind, outcome_bind, Listener.each, outcome_zoom]
      rcases outcome (listeners document.key record) (ls document.key) with ⟨fault | _, l⟩
      · rfl
      · have ih := outcome_handAll_each document rest (Function.update ls document.key l)
        rw [Function.update_self, Function.update_idem] at ih
        exact ih

/-- The calls about a document, with the listener of the document. -/
abbrev listenerOf (document : Document) : Listener ℓ := listeners document.key

theorem handed_each {σ τ : Type} (document : Document) {result : Except Fault (List Entity)}
    (s : σ) (t : τ) (ls : Nat → ℓ) : ∃ result' l,
    handed (Listener.each listeners document) (result, s) ls
      = (result', s, Function.update ls document.key l) ∧
    handed (listenerOf listeners document) (result, t) (ls document.key) = (result', t, l) := by
  cases result with
  | error fault =>
    exact ⟨.error fault, ls document.key, by rw [Function.update_eq_self]; rfl, rfl⟩
  | ok records =>
    refine ⟨_, _, ?_, rfl⟩
    simp only [handed, outcome_handAll_each]

end Listeners

/-! ## Runs -/

section Runs

variable {feeder : LabelFeeder} {answers : Except Fault (String → Except Fault Rows)}
  {ℓ : Type} (listeners : Nat → Listener ℓ)

/-- **A call about a document** among others does the same as it does alone. -/
theorem Tended.perform {s : Shared} (h : Tended feeder answers s) (document : Document)
    (call : DocumentCall) (queries : List String) (ls : Nat → ℓ) : ∃ result s' session? l,
    outcome ((Sessions.feed feeder.ops).perform (Listener.each listeners) document call) (s, ls)
      = (result, s', Function.update ls document.key l) ∧
    outcome ((LabelFeeder.alone feeder.newSession answers).perform (listenerOf listeners)
        document call) ((queries, (s.2.find? document).map Prod.snd), ls document.key)
      = (result, (queries ++ Site.asked s.1 s'.1, session?), l) ∧
    Turned feeder answers document s s' session? := by
  cases call with
  | begin =>
    obtain ⟨result, s', session?, hshared, halone, hturned⟩ := h.begin document queries
    refine ⟨result.map some, s', session?, ls document.key, ?_, ?_, hturned⟩
    · rw [outcome_perform_begin, Sessions.feed, hshared, Function.update_eq_self]
    · rw [outcome_perform_begin, halone]
  | ahead lexemes =>
    obtain ⟨result, s', session?, hshared, halone, hturned⟩ := h.checkpoint document lexemes queries
    obtain ⟨result', l, hls, hl⟩ := handed_each listeners document s'
      (queries ++ Site.asked s.1 s'.1, session?) ls
    refine ⟨result', s', session?, l, ?_, ?_, hturned⟩
    · rw [outcome_perform_ahead, Sessions.feed, hshared]
      exact hls
    · rw [outcome_perform_ahead, halone]
      exact hl
  | finish =>
    obtain ⟨s', session?, hshared, halone, hturned⟩ := h.finish document queries
    refine ⟨.ok none, s', session?, ls document.key, ?_, ?_, hturned⟩
    · rw [outcome_perform_finish, Sessions.feed, hshared, Function.update_eq_self]
      rfl
    · rw [outcome_perform_finish, halone]
      rfl

/-- What a document sees of a call: the result, the queries that were asked for it, and what its
listener has become. -/
structure Sight (ℓ : Type) where
  call : DocumentCall
  result : Except Fault (Option Bool)
  asked : List String
  listener : ℓ

/-- What is seen of the steps of a run. -/
def sights {σ : Type} (asked : σ → σ → List String) (heard : σ → ℓ) (run : List (Step σ)) :
    List (Sight ℓ) :=
  run.map fun step => ⟨step.call, step.result, asked step.before step.after, heard step.after⟩

/-- The steps of a run that are calls about one document. -/
def stepsOf {σ : Type} (key : Nat) (run : List (Step σ)) : List (Step σ) :=
  run.filter fun step => step.document.key = key

/-- The calls about one document. -/
def callsOf (key : Nat) (calls : Calls) : Calls := calls.filter fun call => call.1.key = key

theorem stepsOf_cons {σ : Type} (key : Nat) (step : Step σ) (run : List (Step σ)) :
    stepsOf key (step :: run)
      = if step.document.key = key then step :: stepsOf key run else stepsOf key run := by
  simp [stepsOf, List.filter_cons]

theorem callsOf_cons (key : Nat) (document : Document) (call : DocumentCall) (calls : Calls) :
    callsOf key ((document, call) :: calls)
      = if document.key = key then (document, call) :: callsOf key calls
        else callsOf key calls := by
  simp [callsOf, List.filter_cons]

theorem callsOf_callsOf (key : Nat) (calls : Calls) :
    callsOf key (callsOf key calls) = callsOf key calls := by
  simp [callsOf, List.filter_filter]

/-- The run of calls to sessions that share a feeder. -/
abbrev sharedRun (feeder : LabelFeeder) :
    Document → DocumentCall → Action (Shared × (Nat → ℓ)) (Option Bool) :=
  (Sessions.feed feeder.ops).perform (Listener.each listeners)

/-- The run of the calls about one document by itself. -/
abbrev aloneRun (new : LabelSession) (answers : Except Fault (String → Except Fault Rows)) :
    Document → DocumentCall → Action ((List String × Option LabelSession) × ℓ) (Option Bool) :=
  (LabelFeeder.alone new answers).perform (listenerOf listeners)

/-- **A document sees of a run** what its own calls come to by themselves. -/
theorem Tended.sights_alone (key : Nat) : ∀ (calls : Calls) {s : Shared},
    Tended feeder answers s → ∀ (ls : Nat → ℓ) (queries : List String)
      (session? : Option LabelSession),
      (∀ document, document.key = key → (s.2.find? document).map Prod.snd = session?) →
      sights (fun s s' => Site.asked s.1.1 s'.1.1) (fun s => s.2 key)
          (stepsOf key (steps (sharedRun listeners feeder) (s, ls) calls))
        = sights (fun s s' => s'.1.1.drop s.1.1.length) (fun s => s.2)
          (steps (aloneRun listeners feeder.newSession answers) ((queries, session?), ls key)
            (callsOf key calls)) ∧
      (reached (sharedRun listeners feeder) (s, ls) calls).2 key
        = (reached (aloneRun listeners feeder.newSession answers) ((queries, session?), ls key)
            (callsOf key calls)).2
  | [], _, _, _, _, _, _ => ⟨rfl, rfl⟩
  | (document, call) :: rest, s, h, ls, queries, session?, hsession => by
      obtain ⟨result, s', session?', l, hshared, halone, hturned⟩ :=
        h.perform listeners document call queries ls
      have hstep : stepAt (sharedRun listeners feeder) (s, ls) document call
          = ⟨document, call, result, (s, ls), (s', Function.update ls document.key l)⟩ := by
        simp only [stepAt, hshared]
      rw [steps, reached, hstep, stepsOf_cons, callsOf_cons]
      dsimp only
      by_cases hkey : document.key = key
      · subst hkey
        rw [hsession document rfl] at halone
        have halone' : stepAt (aloneRun listeners feeder.newSession answers)
            ((queries, session?), ls document.key) document call
            = ⟨document, call, result, ((queries, session?), ls document.key),
              ((queries ++ Site.asked s.1 s'.1, session?'), l)⟩ := by
          simp only [stepAt, halone]
        have hown : ∀ other, other.key = document.key →
            (s'.2.find? other).map Prod.snd = session?' := fun other hother => by
          rw [Sessions.find?_of_key hother, hturned.session]
        have ih := sights_alone document.key rest hturned.tended
          (Function.update ls document.key l) (queries ++ Site.asked s.1 s'.1) session?' hown
        rw [Function.update_self] at ih
        rw [if_pos rfl, if_pos rfl, steps, reached, halone']
        refine ⟨?_, ih.2⟩
        simp only [sights, List.map_cons, Function.update_self, List.drop_left]
        exact congrArg _ ih.1
      · have hothers : ∀ other, other.key = key →
            (s'.2.find? other).map Prod.snd = session? := fun other hother => by
          rw [hturned.others other fun heq => hkey (heq.symm.trans hother), hsession other hother]
        have ih := sights_alone key rest hturned.tended (Function.update ls document.key l) queries
          session? hothers
        rw [Function.update_of_ne (Ne.symm hkey)] at ih
        rw [if_neg hkey, if_neg hkey]
        exact ih

/-- The run of the calls of documents that share a feeder. -/
abbrev feederRun : Document → DocumentCall → Action ((Site × Feeder) × (Nat → ℓ)) (Option Bool) :=
  Feeder.feed.perform (Listener.each listeners)

/-- What a document sees of a run of calls to a feeder. -/
def sightsOf (key : Nat) (run : List (Step ((Site × Feeder) × (Nat → ℓ)))) : List (Sight ℓ) :=
  sights (fun s s' => Site.asked s.1.1 s'.1.1) (fun s => s.2 key) (stepsOf key run)

theorem sights_stepsOf_map {σ τ : Type} (f : σ → τ) (asked : τ → τ → List String)
    (heard : τ → ℓ) (key : Nat) (run : List (Step σ)) :
    sights asked heard (stepsOf key (run.map (Step.map f)))
      = sights (fun s s' => asked (f s) (f s')) (fun s => heard (f s)) (stepsOf key run) := by
  simp only [sights, stepsOf, List.filter_map, List.map_map]
  rfl

theorem LabelFeeder.withSessions_nil {feeder : LabelFeeder} (h : feeder.sessions = [])
    (site : Site) : feeder.withSessions (site, []) = (site, .label feeder) := by
  rw [withSessions, ← h]

/-- **A document sees of a feeder** what its own calls come to by themselves. -/
theorem LabelFeeder.sightsOf_alone {feeder : LabelFeeder} (h : feeder.sessions = []) (site : Site)
    (ls : Nat → ℓ) (calls : Calls) (key : Nat) :
    sightsOf key (steps (feederRun listeners) ((site, .label feeder), ls) calls)
        = sights (fun s s' => s'.1.1.drop s.1.1.length) (fun s => s.2)
          (steps (aloneRun listeners feeder.newSession (feeder.answers site)) (([], none), ls key)
            (callsOf key calls)) ∧
      (reached (feederRun listeners) ((site, .label feeder), ls) calls).2 key
        = (reached (aloneRun listeners feeder.newSession (feeder.answers site)) (([], none), ls key)
            (callsOf key calls)).2 := by
  have hbegin : (((site, .label feeder), ls) : (Site × Feeder) × (Nat → ℓ))
      = Prod.map feeder.withSessions id ((site, []), ls) := by
    rw [Prod.map, withSessions_nil h site]
    rfl
  have hcalls := Feeder.goesAlong_perform_label (Listener.each listeners) feeder
  rw [hbegin, steps_map hcalls, reached_map hcalls, sightsOf, sights_stepsOf_map]
  exact (Tended.initial site).sights_alone listeners key calls ls [] none fun _ _ => rfl

/-- **Documents that share a feeder do not meet**: whatever the calls of other documents, and
wherever they come in between, a document sees the same results, the same queries and the same
records as with a feeder that has the same settings and that it has to itself. -/
theorem LabelFeeder.isolated {feeder fresh : LabelFeeder} {site site' : Site}
    (hsame : feeder.SameSettings site fresh site') (hsessions : feeder.sessions = [])
    (hfresh : fresh.sessions = []) (ls : Nat → ℓ) (calls : Calls) (key : Nat) :
    sightsOf key (steps (feederRun listeners) ((site, .label feeder), ls) calls)
        = sightsOf key
          (steps (feederRun listeners) ((site', .label fresh), ls) (callsOf key calls)) ∧
      (reached (feederRun listeners) ((site, .label feeder), ls) calls).2 key
        = (reached (feederRun listeners) ((site', .label fresh), ls)
          (callsOf key calls)).2 key := by
  have hnew : fresh.newSession = feeder.newSession := by
    rw [newSession, newSession, hsame.template, hsame.minLength, hsame.maxLexemes]
  have hshared := sightsOf_alone listeners hsessions site ls calls key
  have hown := sightsOf_alone listeners hfresh site' ls (callsOf key calls) key
  rw [callsOf_callsOf, hnew, hsame.answers] at hown
  exact ⟨hshared.1.trans hown.1.symm, hshared.2.trans hown.2.symm⟩

end Runs

/-- The document of a server that has found one city, or none. -/
def harbourDocument (found : Bool) : Value :=
  .object [("head", .object [("vars", .array [.string "inst", .string "cls", .string "label"])]),
    ("results", .object [("bindings", .array (if found then [.object [("inst", term "v"),
      ("cls", term "city"), ("label", term "Varna")]] else []))])]
where
  term (text : String) : Value := .object [("type", .string "literal"), ("value", .string text)]

/-- A server that knows Varna and cannot be reached when it is asked about Burgas. -/
def harbourSite : Site :=
  { Site.bare with
    transport := { Transport.offline with
      post := fun endpoint query =>
        if Text.occursIn "Burgas".toList query.toList then Transport.offline.post endpoint query
        else .ok { json := .ok (harbourDocument (Text.occursIn "Varna".toList query.toList)) } } }

/-- The options of a feeder that asks the server. -/
def harbourOptions : List (String × Value) :=
  [("server", .string "http://h"), ("repository_id", .string "x"),
    ("label_query", .string "SELECT * \x7b ?i ?p %s \x7d")]

/-- The site and the feeder once it has been set up. -/
def harbourStart : Site × LabelFeeder :=
  (outcome (LabelFeeder.setUp harbourOptions) (harbourSite, {})).2

/-- The calls of two readers, one of which begins again, and the other never ends. -/
def harbourCalls : Calls :=
  [(⟨0, 0, "log", "Varna"⟩, .begin), (⟨1, 1, "map", "Burgas"⟩, .begin),
    (⟨0, 0, "log", "Varna"⟩, .ahead ["Varna"]), (⟨0, 0, "log", "Varna"⟩, .begin),
    (⟨1, 1, "map", "Burgas"⟩, .ahead ["Burgas"]), (⟨0, 0, "log", "Varna"⟩, .finish),
    (⟨1, 1, "map", "Burgas"⟩, .ahead ["Varna"])]

/-- The second reader sees what it would see alone; it has been given one record of Varna, and none
of Burgas. -/
theorem isolated_harbour :
    LabelFeeder.setUp harbourOptions (harbourSite, {})
      = .ok () (harbourStart.1, harbourStart.2) ∧
    harbourStart.2.SameSettings harbourStart.1 harbourStart.2 harbourStart.1 ∧
    harbourStart.2.sessions = [] ∧
    sightsOf 1 (steps (feederRun fun _ => collector none)
        ((harbourStart.1, .label harbourStart.2), fun _ => []) harbourCalls)
      = sightsOf 1 (steps (feederRun fun _ => collector none)
        ((harbourStart.1, .label harbourStart.2), fun _ => []) (callsOf 1 harbourCalls)) ∧
    ((reached (feederRun fun _ => collector none)
        ((harbourStart.1, .label harbourStart.2), fun _ => []) harbourCalls).2 1).map
          (fun e => Json.write e.toValue) = ["[\"v\", \"city\", \"Varna\"]".toList] := by
  have hok : (outcome (LabelFeeder.setUp harbourOptions) (harbourSite, {})).1.isOk = true := by
    decide +kernel
  have hsetUp : LabelFeeder.setUp harbourOptions (harbourSite, {})
      = .ok () (harbourStart.1, harbourStart.2) := by
    cases hrun : LabelFeeder.setUp harbourOptions (harbourSite, {}) with
    | ok _ s => rw [harbourStart, outcome_ok hrun]
    | error fault s =>
      rw [outcome_error hrun] at hok
      exact absurd hok (by simp [Except.isOk, Except.toBool])
  obtain ⟨hsame, hsessions, -⟩ := LabelFeeder.sameSettings_of_setUp rfl hsetUp hsetUp
  exact ⟨hsetUp, hsame, hsessions,
    (LabelFeeder.isolated _ hsame hsessions hsessions (fun _ => []) harbourCalls 1).1,
    by decide +kernel⟩

end Gazetteer
