import Gazetteer.Proofs.Annotator.CacheReuse
import Gazetteer.Proofs.Annotator.Protocol
import Gazetteer.Proofs.Dictionary.Shape

/-!
# Proofs/Annotator/Failure — what an init leaves behind that fails

An init has two halves: it prepares a dictionary (`prepared`), and the feeder adds to it. Where the
first half fails, the annotator keeps the dictionary it had. Once there is a new one it has taken
the place of the old one, whatever the feeder then does. So a failed init is not undone as a whole:
`Fails` lists the three ways to fail with what each leaves, and there are no others
(`start_error_iff`).

A source that cannot be pushed fails in the first half. `Source.logged` and `CacheAccess.logged`
keep a log of what an init asks of them, and `start_undone` says what is left then: nothing but the
source's own doing.
-/

namespace Gazetteer

open Gazetteer.Action

variable {σ τ : Type} {a : Annotator} {resolve : Path → Action σ (Source σ)}
  {cache : CacheAccess σ} {feeding : Feeding (σ × τ)} {s : σ} {t : τ}
  {previous : Option Dictionary} {fault : Fault}

/-- The feeds that a resolver gives, as sources. -/
def Resolver.sources (resolver : Resolver) (directory : Path) : Action Site (Source Site) := do
  let feed ← resolver.resolve directory
  return feed.source

namespace Annotator

/-! ## The ways to fail -/

/-- The first half of an init: a dictionary, and the source that it comes from. -/
def prepared (a : Annotator) (resolve : Path → Action σ (Source σ)) (cache : CacheAccess σ) :
    Action σ (Variant × Dictionary) := do
  let source ← resolve a.directory
  let d ← a.dictionaryOf cache source
  return (source.variant, d)

/-- **An init is its two halves.** -/
theorem start_eq (a : Annotator) (resolve : Path → Action σ (Source σ)) (cache : CacheAccess σ)
    (feeding : Feeding (σ × τ)) (s : σ) (t : τ) (previous : Option Dictionary) :
    a.start resolve cache feeding ((s, t), previous) =
      match a.prepared resolve cache s with
      | .ok (variant, d) s' => a.feedFrom feeding variant d ((s', t), previous)
      | .error fault s' => .error fault ((s', t), previous) := by
  rw [prepared]
  cases hresolve : resolve a.directory s with
  | error fault s₁ =>
    rw [bind_error hresolve, start]
    exact bind_error (onFirst_error (onFirst_error hresolve t) previous) _
  | ok source s₁ =>
    rw [bind_ok hresolve]
    cases hd : a.dictionaryOf cache source s₁ with
    | error fault s₂ =>
      rw [bind_error hd]
      exact start_error hresolve hd
    | ok d s₂ =>
      rw [bind_ok hd]
      exact start_of_dictionaryOf hresolve hd

/-- How an init fails, with the fault and what is left. -/
inductive Fails (a : Annotator) (resolve : Path → Action σ (Source σ)) (cache : CacheAccess σ)
    (feeding : Feeding (σ × τ)) (s : σ) (t : τ) (previous : Option Dictionary) :
    Fault → (σ × τ) × Option Dictionary → Prop
  /-- There is no new dictionary. The feeder has not been asked, and the old one stays. -/
  | notPrepared {fault : Fault} {s' : σ} :
      a.prepared resolve cache s = .error fault s' →
      Fails a resolve cache feeding s t previous fault ((s', t), previous)
  /-- The feeder could not be set up. The new dictionary has taken the place of the old one. -/
  | notSetUp {variant : Variant} {d : Dictionary} {s' : σ} {fault : Fault} {u : σ × τ} :
      a.prepared resolve cache s = .ok (variant, d) s' →
      feeding.setUp a.options (s', t) = .error fault u →
      Fails a resolve cache feeding s t previous fault (u, some d)
  /-- The feeder failed on the way. The new dictionary is there with what was added until then. -/
  | notFilled {variant : Variant} {d d' : Dictionary} {s' : σ} {fault : Fault} {u u' : σ × τ} :
      a.prepared resolve cache s = .ok (variant, d) s' →
      feeding.setUp a.options (s', t) = .ok () u →
      feeding.feedAll (u, d) = .error fault (u', d') →
      Fails a resolve cache feeding s t previous fault (u', some d')

/-- **There are no other ways.** -/
theorem start_eq_error_iff {u : (σ × τ) × Option Dictionary} :
    a.start resolve cache feeding ((s, t), previous) = .error fault u ↔
      a.Fails resolve cache feeding s t previous fault u := by
  rw [start_eq]
  constructor
  -- An init fails where its first step fails that does, and each step has its own way to fail.
  · intro h
    cases hprepared : a.prepared resolve cache s with
    | error fault' s' =>
      rw [hprepared] at h
      obtain ⟨rfl, rfl⟩ := EStateM.Result.error.inj h
      exact .notPrepared hprepared
    | ok x s' =>
      obtain ⟨variant, d⟩ := x
      rw [hprepared] at h
      simp only [feedFrom_eq] at h
      cases hset : feeding.setUp a.options (s', t) with
      | error fault' u' =>
        rw [hset] at h
        obtain ⟨rfl, rfl⟩ := EStateM.Result.error.inj h
        exact .notSetUp hprepared hset
      | ok x u' =>
        rw [hset] at h
        cases hfeed : feeding.feedAll (u', d) with
        | error fault' v =>
          simp only [hfeed] at h
          obtain ⟨rfl, rfl⟩ := EStateM.Result.error.inj h
          exact .notFilled hprepared hset hfeed
        | ok x v =>
          simp only [hfeed] at h
          exact absurd h (by simp)
  · intro h
    cases h with
    | notPrepared hprepared => rw [hprepared]
    | notSetUp hprepared hset => simp only [hprepared, feedFrom_eq, hset]
    | notFilled hprepared hset hfeed => simp only [hprepared, feedFrom_eq, hset, hfeed]

/-- **When an init fails**, the annotator has the dictionary it had if there is no new one, and the
new one if there is, with what the feeder has added to it. It makes no difference whether there was
a dictionary before: documents are then annotated with the new one. -/
theorem start_error_iff (a : Annotator) (resolve : Path → Action σ (Source σ))
    (cache : CacheAccess σ) (feeding : Feeding (σ × τ)) (s : σ) (t : τ)
    (previous : Option Dictionary) (fault : Fault) (u : (σ × τ) × Option Dictionary) :
    (a.start resolve cache feeding ((s, t), previous) = .error fault u ↔
      a.Fails resolve cache feeding s t previous fault u) ∧
    (a.Fails resolve cache feeding s t previous fault u →
      match a.prepared resolve cache s with
      | .error _ s' => u = ((s', t), previous)
      | .ok _ _ => ∃ d, u.2 = some d ∧ ∀ document,
          a.execute u.2 feeding document = a.annotate d feeding document) := by
  refine ⟨start_eq_error_iff, fun h => ?_⟩
  cases h with
  | notPrepared hprepared => rw [hprepared]
  | notSetUp hprepared hset =>
    rw [hprepared]
    exact ⟨_, rfl, fun _ => rfl⟩
  | notFilled hprepared hset hfeed =>
    rw [hprepared]
    exact ⟨_, rfl, fun _ => rfl⟩

/-- The kind of the fault that an action ends with, if it fails. -/
def faultKind? {α : Type} (action : Action σ α) (s : σ) : Option Kind :=
  match action s with
  | .ok _ _ => none
  | .error fault _ => some fault.kind

theorem ok_of_faultKind? {α : Type} {action : Action σ α} (h : faultKind? action s = none) :
    ∃ x s', action s = .ok x s' := by
  rw [faultKind?] at h
  split at h
  · exact ⟨_, _, ‹_›⟩
  · exact absurd h (by simp)

theorem error_of_faultKind? {α : Type} {action : Action σ α} {kind : Kind}
    (h : faultKind? action s = some kind) :
    ∃ fault s', action s = .error fault s' ∧ fault.kind = kind := by
  rw [faultKind?] at h
  split at h
  · exact absurd h (by simp)
  · exact ⟨_, _, ‹_›, Option.some.inj h⟩

/-- The directory of islands with a feeder that has no options: the first init fails, and after it
documents are annotated with the island, although no init has succeeded. -/
theorem start_error_iff_islands :
    ∃ fault s d, islands.startAt offline ((islandSite [], .label {}), none)
        = .error fault (s, some d) ∧
      fault.kind = .value ∧ d.size = 1 ∧ ∀ document,
        islands.executeAt (some d) document = islands.annotate d Feeder.feeding document := by
  obtain ⟨hfault, hprepared, hsize⟩ :
      faultKind? (islands.startAt offline) ((islandSite [], .label {}), none) = some .value ∧
      faultKind? (islands.prepared offline.sources islands.cache.access) (islandSite []) = none ∧
      (outcome (islands.startAt offline) ((islandSite [], .label {}), none)).2.2.map Dictionary.size
        = some 1 := by
    decide +kernel
  obtain ⟨fault, ⟨s, previous⟩, hrun, hkind⟩ := error_of_faultKind? hfault
  obtain ⟨⟨variant, base⟩, s', hbase⟩ := ok_of_faultKind? hprepared
  obtain ⟨hfails, hleft⟩ := start_error_iff islands offline.sources islands.cache.access
    Feeder.feeding (islandSite []) (.label {}) none fault (s, previous)
  have hnew := hleft (hfails.mp hrun)
  rw [hbase] at hnew
  obtain ⟨d, rfl, hexecute⟩ := hnew
  rw [outcome_error hrun] at hsize
  exact ⟨fault, s, d, hrun, hkind, Option.some.inj hsize, hexecute⟩

end Annotator

/-! ## Sources that cannot be pushed -/

/-- A call of an init that changes something, with what came of it. A push has the dictionary as it
was left. -/
inductive BuildCall where
  | push (result : Except Fault Unit) (d : Dictionary)
  | close (result : Except Fault Unit)
  | save (fingerprint : Int) (d : Dictionary)

/-- A source that keeps a log of the calls. -/
def Source.logged (source : Source σ) : Source (σ × List BuildCall) where
  variant := source.variant
  fingerprint := source.fingerprint
  push :=
    Action.zoom (fun ((s, log), d) => ((s, d), log)) (fun ((s, d), log) _ => ((s, log), d))
      (source.push.recorded fun _ result (_, d) => .push result d)
  close := source.close.recorded fun _ result _ => .close result

/-- A cache that keeps a log of what is saved. -/
def CacheAccess.logged (cache : CacheAccess σ) : CacheAccess (σ × List BuildCall) where
  load fingerprint := Action.onFirst (cache.load fingerprint)
  loadAny := Action.onFirst cache.loadAny
  save fingerprint d := (cache.save fingerprint d).recorded fun _ _ _ => .save fingerprint d

namespace Annotator

theorem cached_logged (a : Annotator) (cache : CacheAccess σ) (source : Source σ) :
    a.cached cache.logged source.logged = onFirst (a.cached cache source) := by
  simp only [cached, Source.logged, CacheAccess.logged]
  -- Loading is not logged, so the log passes through whichever way the cache is asked.
  cases a.useCache with
  | false => rfl
  | true =>
    cases source.fingerprint with
    | some _ => rfl
    | none =>
      by_cases h : source.variant = .unavailable <;> simp only [h, if_true, if_false] <;> rfl

section NotPushed

variable {source : Source σ} {s₁ s₂ s₃ : σ} {part : Dictionary}

/-- **An init whose source cannot be pushed** does nothing more than to close it. -/
theorem start_of_push_error (hresolve : resolve a.directory s = .ok source s₁)
    (hcached : a.cached cache source s₁ = .ok none s₂)
    (hpush : source.push (s₂, .empty) = .error fault (s₃, part)) (feeding : Feeding (σ × τ)) (t : τ)
    (previous : Option Dictionary) :
    a.start resolve cache feeding ((s, t), previous)
      = .error (a.raised fault (outcome source.close s₃).1)
        (((outcome source.close s₃).2, t), previous) := by
  have hd : a.dictionaryOf cache source s₁
      = .error (a.raised fault (outcome source.close s₃).1) (outcome source.close s₃).2 := by
    rw [dictionaryOf, bind_ok hcached]
    exact bind_error (pushed_of_push_error hpush) _
  exact start_error hresolve hd

/-- **What it calls** is the push, and then closing the source. -/
theorem calls_of_push_error (hresolve : resolve a.directory s = .ok source s₁)
    (hcached : a.cached cache source s₁ = .ok none s₂)
    (hpush : source.push (s₂, .empty) = .error fault (s₃, part))
    (feeding : Feeding ((σ × List BuildCall) × τ)) (log : List BuildCall) (t : τ)
    (previous : Option Dictionary) :
    a.start (fun directory => Source.logged <$> onFirst (resolve directory)) cache.logged feeding
        (((s, log), t), previous)
      = .error (a.raised fault (outcome source.close s₃).1)
        ((((outcome source.close s₃).2,
          log ++ [.push (.error fault) part, .close (outcome source.close s₃).1]), t),
          previous) := by
  -- The source with the log cannot be pushed either, so what is left to say is how closing it ends.
  have hcached' : a.cached cache.logged source.logged (s₁, log) = .ok none (s₂, log) := by
    rw [cached_logged]
    exact onFirst_ok hcached log
  have hpush' : source.logged.push ((s₂, log), .empty)
      = .error fault ((s₃, log ++ [.push (.error fault) part]), part) := by
    refine eq_error_of_outcome ?_
    rw [Source.logged, outcome_zoom, outcome_recorded, outcome_error hpush]
  have hclose : outcome source.logged.close (s₃, log ++ [.push (.error fault) part])
      = ((outcome source.close s₃).1, (outcome source.close s₃).2,
        log ++ [.push (.error fault) part, .close (outcome source.close s₃).1]) := by
    rw [Source.logged, outcome_recorded, List.append_assoc]
    rfl
  rw [start_of_push_error (map_ok (onFirst_ok hresolve log) _) hcached' hpush', hclose]

end NotPushed

/-- What is left of an init at a site whose source could not be pushed: the fault of the push and
the dictionary it was at, how closing the source ended, and the site after that. -/
structure Undone (a : Annotator) (resolve : Path → Action Site (Source Site))
    (source : Source Site) (site : Site) (fault : Fault) (part : Dictionary)
    (closing : Except Fault Unit) (site' : Site) : Prop where
  /-- The init fails. The annotator has the dictionary it had, and the feeder was not asked. -/
  fails {τ : Type} (feeding : Feeding (Site × τ)) (t : τ) (previous : Option Dictionary) :
    a.start resolve a.cache.access feeding ((site, t), previous)
      = .error (a.raised fault closing) ((site', t), previous)
  /-- The source was pushed once and closed once, and nothing was saved. -/
  calls {τ : Type} (feeding : Feeding ((Site × List BuildCall) × τ)) (log : List BuildCall) (t : τ)
    (previous : Option Dictionary) :
    a.start (fun directory => Source.logged <$> onFirst (resolve directory)) a.cache.access.logged
        feeding (((site, log), t), previous)
      = .error (a.raised fault closing)
        (((site', log ++ [.push (.error fault) part, .close closing]), t), previous)
  /-- A failed query is the cause of what is raised. -/
  query : closing = .ok () → fault.isQuery = true →
    a.raised fault closing = .dictionaryNotBuilt a.directory fault ∧
      (a.raised fault closing).kind = .instantiation
  /-- Any other fault is raised as it is. -/
  other : closing = .ok () → fault.isQuery = false → a.raised fault closing = fault
  /-- What the source leaves alone is as it was. -/
  keeps {γ : Type} (f : Site → γ) : Keeps f (resolve a.directory) →
    Keeps (fun s : Site × Dictionary => f s.1) source.push → Keeps f source.close → f site' = f site
  /-- A feed that a resolver gives is closed without a fault, and leaves all files alone. -/
  feed (resolver : Resolver) : resolve = resolver.sources →
    closing = .ok () ∧ site'.files = site.files

/-- **An init whose source cannot be pushed** leaves nothing behind of its own: whatever the push
had delivered until then, the cache file is as it was, the dictionary of the annotator is as it was,
and the source is closed once. -/
theorem start_undone {resolve : Path → Action Site (Source Site)} {source : Source Site}
    {site site₁ site₂ : Site} {part : Dictionary}
    (hresolve : resolve a.directory site = .ok source site₁)
    (hcached : a.cached a.cache.access source site₁ = .ok none site₁)
    (hpush : source.push (site₁, .empty) = .error fault (site₂, part)) :
    a.Undone resolve source site fault part (outcome source.close site₂).1
      (outcome source.close site₂).2 where
  fails := start_of_push_error hresolve hcached hpush
  calls := calls_of_push_error hresolve hcached hpush
  query hclosing hquery := by
    rw [hclosing, raised, pushFault, if_pos hquery]
    exact ⟨rfl, rfl⟩
  other hclosing hquery := by
    rw [hclosing, raised, pushFault, if_neg (by simp [hquery])]
  keeps f hresolves hpushes hcloses :=
    (hcloses site₂).trans ((hpushes.error hpush).trans (hresolves.ok hresolve))
  feed resolver hsources := by
    subst hsources
    obtain ⟨feed, site₀, hfeed, hsource⟩ := exists_of_bind_ok hresolve
    obtain ⟨rfl, rfl⟩ := EStateM.Result.ok.inj hsource
    have hgiven := ((feed.given_close site₂).trans ((feed.given_push).error hpush)).trans
      ((resolver.given_resolve a.directory).ok hfeed)
    obtain ⟨site₃, hclose⟩ := feed.exists_close site₂
    exact ⟨congrArg Prod.fst (outcome_ok hclose), Site.files_eq_of_given hgiven⟩

/-- An engine that finds one island, and another one of no kind. -/
def gappyEngine : Rdf.Engine :=
  { islandEngine with
    query := fun _ _ => .ok { columns := ["inst", "cls", "label"]
                              rows := [[some "malta", some "island", some "Malta"],
                                [some "gozo", none, some "Gozo"]] } }

/-- The directory of islands with that engine, and a cache file that is no JSON. -/
def gappySite : Site :=
  { islandSite [(["r", "d", Defaults.cacheFile], .file (Text.encode "old".toList))] with
    engine := gappyEngine }

/-- The first island is pushed, the second one is not, and the cache file stays. -/
theorem start_undone_gozo :
    ∃ source fault part closing site', part.size = 1 ∧ fault.isQuery = true ∧
      islands.Undone offline.sources source gappySite fault part closing site' ∧
      closing = .ok () ∧ (islands.raised fault closing).kind = .instantiation ∧
      site'.files.readBytes islands.cache.path = .ok (Text.encode "old".toList) := by
  let config := Resolver.configUrl gappySite.files ⟨0, ["d"]⟩
  let source := (Feed.files config islandQuery
    (some (Fingerprint.compute gappySite.files config islandQuery))).source
  have hresolve : offline.sources islands.directory gappySite = .ok source gappySite :=
    bind_ok (resolve_offline gappySite ⟨0, ["d"]⟩ islandQuery (by decide)
      (by decide +kernel) (by decide +kernel) (by decide +kernel)) _
  obtain ⟨hfault, hsize, hjson, hold⟩ :
      faultKind? source.push (gappySite, .empty) = some .query ∧
      (outcome source.push (gappySite, .empty)).2.2.size = 1 ∧
      (islands.cache.json? gappySite.files).isNone = true ∧
      gappySite.files.readBytes islands.cache.path = .ok (Text.encode "old".toList) := by
    decide +kernel
  have hcached : islands.cached islands.cache.access source gappySite = .ok none gappySite := by
    rw [cached_of_fingerprint rfl rfl, access_load,
      (Cache.load_of_json?_eq_none (Option.isNone_iff_eq_none.mp hjson) _).2]
    rfl
  obtain ⟨fault, ⟨site, part⟩, hpush, hkind⟩ := error_of_faultKind? hfault
  have hundone := start_undone hresolve hcached hpush
  obtain ⟨hclosing, hfiles⟩ := hundone.feed offline rfl
  have hquery : fault.isQuery = true := by rw [Fault.isQuery, hkind, Kind.isQuery]
  rw [outcome_error hpush] at hsize
  exact ⟨source, fault, part, _, _, hsize, hquery, hundone, hclosing,
    (hundone.query hclosing hquery).2, hfiles ▸ hold⟩

end Annotator

end Gazetteer
