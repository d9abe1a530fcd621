import Gazetteer.Annotator.AtSite
import Gazetteer.Proofs.Feeder.FeedAll

/-!
# Proofs/Annotator/Start — how an init builds its dictionary

An init has two halves. It gets a dictionary, from the cache or by pushing the source
(`dictionaryOf_of_cached`, `dictionaryOf_of_pushed`), and then lets the feeder add to it
(`feedFrom`). Once there is a dictionary, an init ends in one of three ways: `Fed` lists them, with
what the dictionary of the annotator then holds.

To say whether an init pushes its feed at all, `startWith` runs it with any other push in its place.
-/

namespace Gazetteer.Annotator

open Gazetteer.Action

variable {σ τ : Type} {a : Annotator} {cache : CacheAccess σ} {source : Source σ} {s s₁ s₂ : σ}
  {d : Dictionary}

/-! ## Getting a dictionary -/

/-- **A dictionary in the cache** is taken as it is; the source is not pushed. -/
theorem dictionaryOf_of_cached (h : a.cached cache source s = .ok (some d) s₁) :
    a.dictionaryOf cache source s = .ok d s₁ := by
  rw [dictionaryOf, bind_ok h]
  rfl

theorem cached_of_not_useCache (h : a.useCache = false) (cache : CacheAccess σ)
    (source : Source σ) (s : σ) : a.cached cache source s = .ok none s := by
  rw [cached, h]
  rfl

theorem cached_of_fingerprint (h : a.useCache = true) {fingerprint : Int}
    (hfingerprint : source.fingerprint = some fingerprint) :
    a.cached cache source = cache.load fingerprint := by
  simp only [cached, h, hfingerprint, Bool.not_true, Bool.false_eq_true, if_false]

theorem cached_of_unavailable (h : a.useCache = true) (hfingerprint : source.fingerprint = none)
    (hvariant : source.variant = .unavailable) : a.cached cache source = cache.loadAny := by
  simp only [cached, h, hfingerprint, hvariant, Bool.not_true, Bool.false_eq_true, if_false,
    if_true]

theorem pushed_ok (hpush : source.push (s, .empty) = .ok () (s₁, d))
    (hclose : source.close s₁ = .ok () s₂) : a.pushed source s = .ok d s₂ := by
  rw [pushed, bind_ok (ensuring_ok (mapFault_ok (withState_ok hpush)) hclose)]
  rfl

theorem exists_of_pushed_ok (h : a.pushed source s = .ok d s₂) :
    ∃ s₁, source.push (s, .empty) = .ok () (s₁, d) ∧ source.close s₁ = .ok () s₂ := by
  rw [pushed] at h
  obtain ⟨⟨⟨⟩, d'⟩, s₃, hensuring, h⟩ := exists_of_bind_ok h
  obtain ⟨rfl, rfl⟩ := EStateM.Result.ok.inj h
  obtain ⟨s₁, hrun, hclose⟩ := exists_of_ensuring_ok hensuring
  exact ⟨s₁, withState_eq_ok (mapFault_eq_ok hrun), hclose⟩

/-- What is raised when a source could not be pushed: the fault of the push, unless closing the
source fails as well. -/
def raised (a : Annotator) (fault : Fault) : (closing : Except Fault Unit) → Fault
  | .ok () => a.pushFault fault
  | .error closing => closing

/-- **A push that fails**: the source is closed after it. -/
theorem pushed_of_push_error {fault : Fault} {l : Dictionary}
    (hpush : source.push (s, .empty) = .error fault (s₁, l)) :
    a.pushed source s = .error (a.raised fault (outcome source.close s₁).1)
      (outcome source.close s₁).2 := by
  have hfails : mapFault a.pushFault (withState .empty source.push) s
      = .error (a.pushFault fault) s₁ := by
    simp only [mapFault, withState, hpush]
  rw [pushed]
  cases hclose : source.close s₁ with
  | ok _ s₂ =>
    rw [outcome_ok hclose]
    exact bind_error (ensuring_error hfails hclose) _
  | error closing s₂ =>
    rw [outcome_error hclose]
    have hensuring : ensuring (mapFault a.pushFault (withState .empty source.push)) source.close s
        = .error closing s₂ := by
      rw [ensuring, bind_ok (attempt_error hfails)]
      exact bind_error hclose _
    exact bind_error hensuring _

/-- A push that fails is closed after, and its fault handed on. -/
theorem pushed_error {fault : Fault} {l : Dictionary}
    (hpush : source.push (s, .empty) = .error fault (s₁, l))
    (hclose : source.close s₁ = .ok () s₂) :
    a.pushed source s = .error (a.pushFault fault) s₂ := by
  rw [pushed_of_push_error hpush, outcome_ok hclose, raised]

/-- **A dictionary that is pushed**, when there is none in the cache. -/
theorem dictionaryOf_of_pushed (hcached : a.cached cache source s = .ok none s)
    (hpushed : a.pushed source s = .ok d s₁) :
    a.dictionaryOf cache source s = (do
      match source.fingerprint with
      | some fingerprint => if a.useCache then cache.save fingerprint d
      | none => pure ()
      return d : Action σ Dictionary) s₁ := by
  rw [dictionaryOf, bind_ok hcached]
  exact bind_ok hpushed _

theorem dictionaryOf_error {fault : Fault} (hcached : a.cached cache source s = .ok none s)
    (hpushed : a.pushed source s = .error fault s₁) :
    a.dictionaryOf cache source s = .error fault s₁ := by
  rw [dictionaryOf, bind_ok hcached]
  exact bind_error hpushed _

/-! ## Letting the feeder add to it -/

/-- The second half of an init: the feeder is set up and adds to a dictionary. -/
def feedFrom (a : Annotator) (feeding : Feeding (σ × τ)) (variant : Variant) (d : Dictionary) :
    Action ((σ × τ) × Option Dictionary) Variant := do
  modify fun (s, _) => (s, some d)
  Action.onFirst (feeding.setUp a.options)
  feedInto feeding d
  return variant

/-- **The second half of an init** ends as the feeder does. -/
theorem feedFrom_eq (a : Annotator) (feeding : Feeding (σ × τ)) (variant : Variant)
    (d : Dictionary) (u : σ × τ) (previous : Option Dictionary) :
    a.feedFrom feeding variant d (u, previous) =
      match feeding.setUp a.options u with
      | .error fault u' => .error fault (u', some d)
      | .ok () u' =>
        match feeding.feedAll (u', d) with
        | .error fault (u'', d') => .error fault (u'', some d')
        | .ok () (u'', d') => .ok variant (u'', some d') := by
  rw [feedFrom, modify_bind]
  cases hset : feeding.setUp a.options u with
  | error fault u' => exact bind_error (onFirst_error hset (some d)) _
  | ok _ u' =>
    rw [bind_ok (onFirst_ok hset (some d))]
    simp only [bind, EStateM.bind, feedInto, zoom]
    cases feeding.feedAll (u', d) <;> rfl

variable {resolve : Path → Action σ (Source σ)} {feeding : Feeding (σ × τ)} {t : τ}
  {previous : Option Dictionary}

/-- **An init that has its dictionary** goes on with the feeder. -/
theorem start_of_dictionaryOf (hresolve : resolve a.directory s = .ok source s₁)
    (hd : a.dictionaryOf cache source s₁ = .ok d s₂) :
    a.start resolve cache feeding ((s, t), previous)
      = a.feedFrom feeding source.variant d ((s₂, t), previous) := by
  rw [start, bind_ok (onFirst_ok (onFirst_ok hresolve t) previous),
    bind_ok (onFirst_ok (onFirst_ok hd t) previous)]
  rfl

/-- An init without a dictionary fails, and leaves the annotator the one it had. -/
theorem start_error {fault : Fault} (hresolve : resolve a.directory s = .ok source s₁)
    (hd : a.dictionaryOf cache source s₁ = .error fault s₂) :
    a.start resolve cache feeding ((s, t), previous) = .error fault ((s₂, t), previous) := by
  rw [start, bind_ok (onFirst_ok (onFirst_ok hresolve t) previous)]
  exact bind_error (onFirst_error (onFirst_error hd t) previous) _

/-- **What an init that succeeded has done**: it resolved the directory and got a dictionary. -/
theorem exists_of_start_ok {variant : Variant} {u : (σ × τ) × Option Dictionary}
    (h : a.start resolve cache feeding ((s, t), previous) = .ok variant u) :
    ∃ source s₁ d s₂, resolve a.directory s = .ok source s₁ ∧
      a.dictionaryOf cache source s₁ = .ok d s₂ ∧
      a.feedFrom feeding source.variant d ((s₂, t), previous) = .ok variant u := by
  rw [start] at h
  obtain ⟨source, ⟨⟨s₁, t₁⟩, previous₁⟩, hsource, hnext⟩ := exists_of_bind_ok h
  obtain ⟨hsource', rfl⟩ := onFirst_eq_ok hsource
  obtain ⟨hresolve, rfl⟩ := onFirst_eq_ok hsource'
  obtain ⟨d, ⟨⟨s₂, t₂⟩, previous₂⟩, hdictionary, hrest⟩ := exists_of_bind_ok hnext
  obtain ⟨hdictionary', rfl⟩ := onFirst_eq_ok hdictionary
  obtain ⟨hd, rfl⟩ := onFirst_eq_ok hdictionary'
  exact ⟨source, s₁, d, s₂, hresolve, hd, hrest⟩

/-! ## How an init ends -/

/-- How an init ends that has a dictionary of some records: with what the feeder adds after them, or
with the feeder's fault, and then with what was added until then. -/
inductive Fed (a : Annotator) (records : List Entity) (s : Site × Feeder) :
    EStateM.Result Fault ((Site × Feeder) × Option Dictionary) Variant → Prop
  /-- The feeder has filled the dictionary with what it hands to any listener. -/
  | filled {s₁ s₂ : Site × Feeder} {added : List Entity} {d : Dictionary} {variant : Variant} :
      Feeder.setUp a.options s = .ok () s₁ →
      Feeder.feedAll (collector none) (s₁, []) = .ok () (s₂, added) →
      Dictionary.empty.addAll (records ++ added) = .ok d →
      Fed a records s (.ok variant (s₂, some d))
  /-- The feeder could not be set up. -/
  | notSetUp {s₁ : Site × Feeder} {d : Dictionary} {fault : Fault} :
      Feeder.setUp a.options s = .error fault s₁ →
      Dictionary.empty.addAll records = .ok d →
      Fed a records s (.error fault (s₁, some d))
  /-- The feeder failed while it filled the dictionary. -/
  | notFilled {s₁ s₂ : Site × Feeder} {added : List Entity} {d₁ d : Dictionary} {fault : Fault} :
      Feeder.setUp a.options s = .ok () s₁ →
      Dictionary.empty.addAll records = .ok d₁ →
      Feeder.feedAll Dictionary.listener (s₁, d₁) = .error fault (s₂, d) →
      Dictionary.empty.addAll (records ++ added) = .ok d →
      Fed a records s (.error fault (s₂, some d))

/-- **Run**: with a dictionary of some records, an init ends in one of the three ways. -/
theorem fed_feedFrom {records : List Entity} {base : Dictionary}
    (hbase : Dictionary.empty.addAll records = .ok base) (variant : Variant) (s : Site × Feeder)
    (previous : Option Dictionary) :
    Fed a records s (a.feedFrom Feeder.feeding variant base (s, previous)) := by
  have hsetUp : Feeder.feeding.setUp a.options s = Feeder.setUp a.options s := rfl
  rw [feedFrom_eq, hsetUp]
  cases hset : Feeder.setUp a.options s with
  | error fault s₁ => exact .notSetUp hset hbase
  | ok u s₁ =>
    have hfeedAll : Feeder.feeding.feedAll (s₁, base)
        = Feeder.feedAll Dictionary.listener (s₁, base) := rfl
    obtain ⟨added, hadded⟩ := Feeder.adds_feedAll s₁ base
    have hall := (Dictionary.addAll_append hbase added).trans hadded
    dsimp only
    rw [hfeedAll]
    cases hfeed : Feeder.feedAll Dictionary.listener (s₁, base) with
    | error fault t =>
      rw [outcome_error hfeed] at hall
      exact .notFilled hset hbase hfeed hall
    | ok u t =>
      obtain ⟨s₂, d⟩ := t
      obtain ⟨es, hes, hother⟩ := Feeder.impartial_feedAll _ hfeed
      have hcollected := hother (collector none) (handAll_collector es [])
      have hd := (Dictionary.addAll_append hbase es).trans (handAll_listener_iff.mp hes)
      exact .filled hset hcollected hd

/-- **The feeder keeps what is given**, however the init ends. -/
theorem given_feedFrom (a : Annotator) (variant : Variant) (base : Dictionary) :
    Keeps (fun s : (Site × Feeder) × Option Dictionary => s.1.1.given)
      (a.feedFrom Feeder.feeding variant base) := by
  unfold feedFrom
  refine Keeps.bind (fun _ => rfl) fun _ => ?_
  refine (keeps_onFirst (f := fun s : Site × Feeder => s.1.given)
    (Feeder.given_setUp a.options)).bind fun _ => ?_
  refine Keeps.bind ?_ fun _ => keeps_pure variant
  exact keeps_zoom (g := fun s : (Site × Feeder) × Dictionary => s.1.1.given)
    (Feeder.given_feedAll Dictionary.listener) fun _ _ h => h

/-! ## Inits at a site -/

theorem access_load (cache : Cache) (fingerprint : Int) (site : Site) :
    cache.access.load fingerprint site
      = ofExcept (cache.load site.files (some fingerprint)) site := rfl

theorem access_loadAny (cache : Cache) (site : Site) :
    cache.access.loadAny site = ofExcept (cache.loadAny site.files) site := rfl

/-- The source of a feed, with something else in the place of pushing it. -/
def sourceWith (push : Feed → Action (Site × Dictionary) Unit) (feed : Feed) : Source Site :=
  { feed.source with push := push feed }

/-- An init with something else in the place of pushing the feed. -/
def startWith (a : Annotator) (push : Feed → Action (Site × Dictionary) Unit)
    (resolver : Resolver) : Action ((Site × Feeder) × Option Dictionary) Variant :=
  a.start (fun directory => do
    let feed ← resolver.resolve directory
    return sourceWith push feed) a.cache.access Feeder.feeding

theorem startAt_eq_startWith (a : Annotator) (resolver : Resolver) :
    a.startAt resolver = a.startWith (Feed.push Dictionary.listener) resolver := rfl

section Resolved

variable {resolver : Resolver} {feed : Feed} {site after : Site} {feeder : Feeder}

/-- **An init that finds a dictionary in the cache** goes on from it, whatever pushing its feed
would do. -/
theorem startWith_of_cached_some (hresolve : resolver.resolve a.directory site = .ok feed after)
    (hcached : a.cached a.cache.access feed.source after = .ok (some d) after)
    (push : Feed → Action (Site × Dictionary) Unit) :
    a.startWith push resolver ((site, feeder), previous)
      = a.feedFrom Feeder.feeding feed.variant d ((after, feeder), previous) := by
  have hcached' : a.cached a.cache.access (sourceWith push feed) after = .ok (some d) after :=
    hcached
  exact start_of_dictionaryOf (bind_ok hresolve _) (dictionaryOf_of_cached hcached')

/-- **An init that finds none** pushes its feed, and fails as the push does. -/
theorem startWith_of_cached_none (hresolve : resolver.resolve a.directory site = .ok feed after)
    (hcached : a.cached a.cache.access feed.source after = .ok none after)
    (hclose : feed.close after = .ok () after) (fault : Fault) :
    a.startWith (fun _ => throw fault) resolver ((site, feeder), previous)
      = .error (a.pushFault fault) ((after, feeder), previous) := by
  have hcached' : a.cached a.cache.access (sourceWith (fun _ => throw fault) feed) after
      = .ok none after := hcached
  exact start_error (bind_ok hresolve _) (dictionaryOf_error hcached' (pushed_error rfl hclose))

end Resolved

/-- An init leaves what is given as it was when the feeder began. -/
theorem given_outcome_startAt {resolver : Resolver} {s : (Site × Feeder) × Option Dictionary}
    {variant : Variant} {site : Site} {feeder : Feeder}
    (h : a.startAt resolver s
      = a.feedFrom Feeder.feeding variant d ((site, feeder), previous)) :
    (outcome (a.startAt resolver) s).2.1.1.given = site.given := by
  have houtcome : outcome (a.startAt resolver) s
      = outcome (a.feedFrom Feeder.feeding variant d) ((site, feeder), previous) := by
    rw [outcome, outcome, h]
  rw [houtcome]
  exact a.given_feedFrom variant d ((site, feeder), previous)

end Gazetteer.Annotator
