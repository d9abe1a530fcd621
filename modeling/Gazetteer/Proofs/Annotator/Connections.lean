import Gazetteer.Proofs.Annotator.Search
import Gazetteer.Proofs.Feeder.Holding
import Gazetteer.Proofs.Feeder.Isolation
import Mathlib.Logic.Relation

/-!
# Proofs/Annotator/Connections — every connection that is opened is closed

An init opens connections for the feed of its directory and for what its feeder pushes, and
annotating a document opens one for the session of a label feeder. Whatever fails on the way, each
is closed and released once, and asked nothing afterwards, before the call that opened it is over
(`leads_startAt`, `leads_executeIn`). So it is after any history of calls, whatever else happens at
the site between them (`connections_isDone`).
-/

namespace Gazetteer.Annotator

open Gazetteer.Action Site

variable {since : Site}

/-! ## Building the dictionary -/

/-- Taking a dictionary from the cache leaves connections alone. -/
theorem keeps_connections_cached (a : Annotator) (source : Source Site) :
    Keeps Site.connections (a.cached a.cache.access source) := by
  unfold cached
  split
  · exact keeps_pure none
  · split
    · exact keeps_get.bind fun site => keeps_ofExcept _
    · split
      · exact keeps_get.bind fun site => keeps_ofExcept _
      · exact keeps_pure none

/-- **A feed that holds a connection** has no dictionary in the cache. -/
theorem ends_cached (a : Annotator) (feed : Feed) :
    Ends (since.Holds feed.held) (a.cached a.cache.access feed.source)
      (fun found site => since.Holds feed.held site ∧ (found.isSome → feed.held = none))
      (since.Holds none) := by
  cases hheld : feed.held with
  | none =>
    exact (leads_of_keeps_connections (a.keeps_connections_cached feed.source) none).weaken
      (fun _ h => h) (fun _ _ h => ⟨h, fun _ => rfl⟩) fun _ h => h
  | some connection =>
    have hnone : a.cached a.cache.access feed.source = pure none := by
      cases feed with
      | remote => cases huse : a.useCache <;> simp [cached, huse, Feed.source, Feed.fingerprint?,
          Feed.variant]
      | files => exact absurd hheld (by simp [Feed.held])
      | unavailable => exact absurd hheld (by simp [Feed.held])
    rw [hnone]
    exact ends_pure fun _ h => ⟨h, fun hsome => absurd hsome (by simp)⟩

/-- **Pushing a feed** ends with the feed closed. -/
theorem leads_pushed (a : Annotator) {feed : Feed} (h : feed.IsSparql) :
    Leads (since.Holds feed.held) (a.pushed feed.source) (since.Holds none) := by
  have hpush : Leads (since.Holds feed.held) (withState Dictionary.empty feed.source.push)
      (since.Holds feed.held) :=
    ends_withState (Q := fun _ => since.Holds feed.held) _ (Feed.leads_push Dictionary.listener h)
  exact ((hpush.mapFault a.pushFault).ensuring feed.leads_close).bind fun _ =>
    ends_pure fun _ h => h

/-- **Getting a dictionary** from the cache or the feed ends with no connection held. -/
theorem leads_dictionaryOf (a : Annotator) {feed : Feed} (h : feed.IsSparql) :
    Leads (since.Holds feed.held) (a.dictionaryOf a.cache.access feed.source)
      (since.Holds none) := by
  refine (a.ends_cached feed).bind fun found => ?_
  cases found with
  | some d =>
    refine ends_pure fun site hsite => ?_
    rw [← hsite.2 rfl]
    exact hsite.1
  | none =>
    refine Ends.bind (fun site hsite => a.leads_pushed h site hsite.1) fun d => ?_
    dsimp only
    split
    · split
      · exact (leads_of_keeps_connections (fun _ => rfl) none).bind fun _ => ends_pure fun _ h => h
      · exact ends_pure fun _ h => h
    · exact ends_pure fun _ h => h

/-- **An init** ends with no connection held, -/
theorem leads_startAt (a : Annotator) (resolver : Resolver) :
    Leads (fun s : (Site × Feeder) × Option Dictionary => since.Holds none s.1.1)
      (a.startAt resolver) fun s => since.Holds none s.1.1 := by
  have hresolve : Ends (since.Holds none) (do
        let feed ← resolver.resolve a.directory
        return feed.source)
      (fun source site => ∃ feed : Feed, source = feed.source ∧ feed.IsSparql ∧
        since.Holds feed.held site) (since.Holds none) :=
    (resolver.ends_resolve a.directory).bind fun feed =>
      ends_pure fun _ h => ⟨feed, rfl, h.1, h.2⟩
  refine (ends_onFirst (ends_onFirst hresolve)).bind fun source => ?_
  rintro s ⟨feed, rfl, hsparql, hs⟩
  refine Ends.bind (ends_onFirst (ends_onFirst (a.leads_dictionaryOf hsparql))) (fun d => ?_) s hs
  have htake : Leads (fun s : (Site × Feeder) × Option Dictionary => since.Holds none s.1.1)
      (modify fun (s, _) => (s, some d)) fun s => since.Holds none s.1.1 := fun _ h => h
  refine htake.bind fun _ => ?_
  have hsetUp : Leads (fun s : Site × Feeder => since.Holds none s.1) (Feeder.setUp a.options)
      fun s => since.Holds none s.1 :=
    leads_of_outcome fun s hs =>
      hs.of_eq (congrArg Prod.fst (Feeder.keeps_connections_setUp a.options s))
  refine (ends_onFirst hsetUp).bind fun _ => ?_
  have hfeed : Leads (fun s : (Site × Feeder) × Option Dictionary => since.Holds none s.1.1)
      (feedInto Feeder.feeding d) fun s => since.Holds none s.1.1 :=
    leads_zoom (Feeder.leads_feedAll Dictionary.listener) (fun _ h => h) fun _ _ _ h => h
  exact hfeed.bind fun _ => ends_pure fun _ h => h

/-- **and with the sessions of its feeder as they were.** -/
theorem keeps_labelSessions_startAt (a : Annotator) (resolver : Resolver) :
    Keeps (fun s : (Site × Feeder) × Option Dictionary => s.1.2.labelSessions)
      (a.startAt resolver) := by
  refine (keeps_onFirst (keeps_snd_onFirst Feeder.labelSessions _)).bind fun source => ?_
  refine (keeps_onFirst (keeps_snd_onFirst Feeder.labelSessions _)).bind fun d => ?_
  refine Keeps.bind (fun _ => rfl) fun _ => ?_
  refine (keeps_onFirst (f := fun s : Site × Feeder => s.2.labelSessions) fun s =>
    congrArg Prod.snd (Feeder.keeps_connections_setUp a.options s)).bind fun _ => ?_
  refine Keeps.bind ?_ fun _ => keeps_pure _
  have hfeed : Keeps (fun s : (Site × Feeder) × Dictionary => s.1.2.labelSessions)
      (Feeder.feedAll Dictionary.listener) := fun s =>
    congrArg Feeder.labelSessions (Feeder.keeps_feeder_feedAll Dictionary.listener s)
  exact keeps_zoom hfeed fun _ _ h => h

/-! ## Annotating a document -/

section Survey

variable {σ : Type} {P during : σ → Prop} {feeding : Feeding σ} {document : Document}

theorem leads_heard {feedAhead : List String → Action (σ × Dictionary) Unit}
    (h : ∀ window, Leads (fun s => P s.1) (feedAhead window) fun s => P s.1)
    (window : List String) (locals : Dictionary) :
    Leads P (heard (some feedAhead) window locals) P :=
  leads_of_outcome fun s hs => by
    rw [outcome_heard_some]
    exact (h window).outcome (s := (s, locals)) hs

/-- **Run**: what the feeder keeps up at a place, the search keeps up to its end. -/
theorem leads_search (a : Annotator) (globals : Dictionary) (total : Nat)
    {feedAhead : Option (List String → Action (σ × Dictionary) Unit)}
    (h : ∀ window locals, Leads P (heard feedAhead window locals) P) :
    ∀ (lexemes : List Lexeme) (locals : Dictionary),
      Leads (fun s => P s.1) (a.search globals total feedAhead locals lexemes) fun s => P s.1
  | [], locals => by
      rw [search]
      exact ends_pure fun _ h => h
  | l :: ls, locals => by
      rw [search]
      refine (ends_onFirst (h _ locals)).bind fun locals => ?_
      split
      · exact leads_search a globals total h ls locals
      · rename_i n es _
        exact fun s hs => leads_search a globals total h (ls.drop (n - 1)) locals
          (s.1, s.2 ++ es.map (Finding.mk l.start (stopOf (l :: ls) n))) hs
termination_by lexemes => lexemes.length
decreasing_by
  · simp
  · simp only [List.length_drop, List.length_cons]; omega

variable (hbegin : Ends P (feeding.begin document)
    (fun fed s => if fed then during s else P s) P)
  (hahead : ∀ window, Leads (fun s => during s.1) (feeding.feedAhead document window)
    fun s => during s.1)
  (hfinish : Leads during (feeding.finish document) P)

include hbegin hahead hfinish

/-- **Annotating a document** ends as it began, if the calls about the document lead from one
condition to another and back. -/
theorem leads_execute (a : Annotator) (dictionary : Option Dictionary) :
    Leads (fun s : σ × Corpus => P s.1) (a.execute dictionary feeding document)
      fun s => P s.1 := by
  cases dictionary with
  | none => exact ends_throw fun _ h => h
  | some globals =>
    have hsurvey : Leads (fun s => P s.1) (a.survey globals feeding document)
        fun s => P s.1 := by
      refine (ends_onFirst hbegin).bind fun fed => ?_
      cases fed with
      | false =>
        have hnone : ∀ window locals, Leads P (heard none window locals) P :=
          fun _ _ _ hs => hs
        exact a.leads_search globals _ hnone _ .empty
      | true =>
        simp only [if_true]
        exact (a.leads_search globals _ (leads_heard hahead) _ .empty).ensuring
          (ends_onFirst hfinish)
    refine leads_of_outcome fun ⟨s, c⟩ hs => ?_
    obtain ⟨refs, c', hannotate, -⟩ := outcome_annotate a globals feeding document s c
    rw [execute, hannotate]
    exact hsurvey.outcome (s := (s, [])) hs

end Survey

/-- **Annotating a document** ends with no connection held and no session. -/
theorem leads_executeIn (a : Annotator) (document : Document) :
    Leads (fun s => Feeder.Rests since s.1.1) (a.executeIn Feeder.feeding document)
      fun s => Feeder.Rests since s.1.1 :=
  leads_of_outcome fun ⟨⟨s, dictionary⟩, c⟩ hs => by
    rw [outcome_executeIn]
    exact (leads_execute (Feeder.ends_begin document)
      (Feeder.leads_feedAhead Dictionary.listener document) (Feeder.leads_finish document) a
      dictionary).outcome (s := (s, c)) hs

/-! ## Histories -/

/-- A site with a feeder, the dictionary of an annotator, and the documents that it annotates. -/
abbrev Scene := ((Site × Feeder) × Option Dictionary) × Corpus

/-- What may happen with an annotator: it is initialised, or annotates a document, and ends either
way; or anything else happens by which connections and the feeder stay as they are. -/
inductive Happens (a : Annotator) (resolver : Resolver) : Scene → Scene → Prop
  | init (s : Scene) : Happens a resolver s (outcome (onFirst (a.startAt resolver)) s).2
  | execute (document : Document) (s : Scene) :
    Happens a resolver s (outcome (a.executeIn Feeder.feeding document) s).2
  | elsewhere {s s' : Scene} : s'.1.1.1.connections = s.1.1.1.connections →
    s'.1.1.2 = s.1.1.2 → Happens a resolver s s'

/-- **Step**: whatever happens, no connection is held afterwards and no session is left. -/
theorem Happens.rests {a : Annotator} {resolver : Resolver} {s s' : Scene}
    (h : a.Happens resolver s s') (hs : Feeder.Rests since s.1.1) : Feeder.Rests since s'.1.1 := by
  cases h with
  | init =>
    have hheld : Leads (fun s : Scene => since.Holds none s.1.1.1) (onFirst (a.startAt resolver))
        fun s => since.Holds none s.1.1.1 :=
      ends_onFirst (a.leads_startAt resolver)
    have hkeeps : Keeps (fun s : Scene => s.1.1.2.labelSessions) (onFirst (a.startAt resolver)) :=
      keeps_onFirst (a.keeps_labelSessions_startAt resolver)
    exact ⟨hheld.outcome hs.1, (hkeeps s).trans hs.2⟩
  | execute document => exact (a.leads_executeIn document).outcome hs
  | elsewhere hconnections hfeeder =>
    refine ⟨hs.1.of_eq hconnections, ?_⟩
    rw [hfeeder]
    exact hs.2

/-- **Run**: after any history that begins without sessions, every connection that has been opened
meanwhile is closed and released once, and was asked nothing after that; the connections from
before are as they were. -/
theorem connections_isDone (a : Annotator) (resolver : Resolver) {s s' : Scene}
    (hfresh : s.1.1.2.labelSessions = []) (h : Relation.ReflTransGen (a.Happens resolver) s s') :
    ∃ opened, s'.1.1.1.connections.toList = s.1.1.1.connections.toList ++ opened ∧
      ∀ c ∈ opened, c.IsDone := by
  have hrests : Feeder.Rests s.1.1.1 s'.1.1 := by
    induction h with
    | refl => exact ⟨Holds.initial _, hfresh⟩
    | tail _ hlast ih => exact hlast.rests ih
  exact hrests.1.exists_opened

/-- The harbour with a repository that has been loaded. -/
def pierSite : Site := { harbourSite with
  repositories := #[.files (.text "pier.ttl") (some ⟨0, {}⟩)] }

/-- An annotator whose feeder lacks its options, and looks labels up nevertheless. -/
def pierScene : Scene :=
  (((pierSite, .label { repository := some ⟨0⟩, template := "%s" }), none), {})

/-- A resolver that finds the repository. -/
def pierResolver : Resolver := { provider := .given (.fixed (.ok ⟨0⟩)) }

/-- The scene after an init, which fails, and a document. -/
def pierAfter : Scene :=
  (outcome (executeIn { directory := default } Feeder.feeding ⟨0, 0, "log", "Varna"⟩)
    (outcome (onFirst (startAt { directory := default } pierResolver)) pierScene).2).2

theorem connections_isDone_pier :
    pierScene.1.1.2.labelSessions = [] ∧
      Relation.ReflTransGen (Happens { directory := default } pierResolver) pierScene pierAfter ∧
      pierAfter.1.1.1.connections.size = 2 ∧
      ∃ opened, pierAfter.1.1.1.connections.toList = pierScene.1.1.1.connections.toList ++ opened ∧
        ∀ c ∈ opened, c.IsDone := by
  have hhappens : Relation.ReflTransGen (Happens { directory := default } pierResolver) pierScene
      pierAfter := (Relation.ReflTransGen.single (.init pierScene)).tail (.execute _ _)
  exact ⟨rfl, hhappens, by decide +kernel, connections_isDone _ pierResolver rfl hhappens⟩

end Gazetteer.Annotator
