import Gazetteer.Proofs.Feeder.FeedAll
import Gazetteer.Proofs.Repository.Backend

/-!
# Proofs/Feeder/SetUp — feeders that are set up alike

A new feeder that looks up labels takes in the repository that its options name, and its settings.
The settings do not depend on the repository or the site (`goesAlong_takeSettings`), and what a
repository that options name answers depends on what is given of the site alone. So two new feeders
that are set up with the same options have the same settings and the same answers
(`sameSettings_of_setUp`).
-/

namespace Gazetteer

open Gazetteer.Action

namespace LabelFeeder

/-- Takes over the lengths among the options, if the template is one. -/
def takeLengths (feeder : LabelFeeder) : Action (Site × LabelFeeder) Unit := do
  if placeholders feeder.template.toList ≠ 1 then throw .placeholderCount
  takeMinLength feeder
  takeMaxLexemes feeder

/-- Takes over all settings among the options but the repository. -/
def takeSettings (feeder : LabelFeeder) : Action (Site × LabelFeeder) Unit := do
  takeTemplate feeder
  let (_, feeder) ← get
  takeLengths feeder

/-- The same feeder elsewhere: at another site, and with another repository. -/
def elsewhere (site : Site) (repository : Option RepositoryId) (s : Site × LabelFeeder) :
    Site × LabelFeeder := (site, { s.2 with repository })

section Elsewhere

variable (site : Site) (repository : Option RepositoryId)

theorem goesAlong_takeTemplate (feeder : LabelFeeder) :
    GoesAlong (elsewhere site repository) feeder.takeTemplate feeder.takeTemplate := by
  unfold takeTemplate
  split
  · exact goesAlong_pure ()
  · exact (goesAlong_ofExcept _).bind fun _ => goesAlong_modify fun _ => rfl

theorem goesAlong_takeMinLength (feeder : LabelFeeder) :
    GoesAlong (elsewhere site repository) feeder.takeMinLength feeder.takeMinLength := by
  unfold takeMinLength
  split
  · exact goesAlong_pure ()
  · exact (goesAlong_ofExcept _).bind fun _ => goesAlong_modify fun _ => rfl

theorem goesAlong_takeMaxLexemes (feeder : LabelFeeder) :
    GoesAlong (elsewhere site repository) feeder.takeMaxLexemes feeder.takeMaxLexemes := by
  unfold takeMaxLexemes
  split
  · exact goesAlong_pure ()
  · exact (goesAlong_ofExcept _).bind fun _ => goesAlong_modify fun _ => rfl

theorem goesAlong_takeLengths (feeder : LabelFeeder) :
    GoesAlong (elsewhere site repository) feeder.takeLengths feeder.takeLengths := by
  have htake : GoesAlong (elsewhere site repository)
      (takeMinLength feeder >>= fun _ => takeMaxLexemes feeder)
      (takeMinLength feeder >>= fun _ => takeMaxLexemes feeder) :=
    (goesAlong_takeMinLength site repository feeder).bind fun _ =>
      goesAlong_takeMaxLexemes site repository feeder
  unfold takeLengths
  split
  · exact (goesAlong_throw _).bind fun _ => htake
  · exact htake

/-- **Settings** do not depend on the repository, or on the site. -/
theorem goesAlong_takeSettings (feeder : LabelFeeder) :
    GoesAlong (elsewhere site repository) feeder.takeSettings feeder.takeSettings := by
  refine (goesAlong_takeTemplate site repository feeder).bind fun _ s => ?_
  exact goesAlong_takeLengths site repository s.2 s

end Elsewhere

/-- **Taking over the settings** leaves all else alone. -/
theorem keeps_takeSettings {γ : Type} {f : Site × LabelFeeder → γ}
    (hf : ∀ s template minLength maxLexemes,
      f (s.1, { s.2 with template, minLength, maxLexemes }) = f s) (feeder : LabelFeeder) :
    Keeps f feeder.takeSettings := by
  refine (keeps_takeTemplate hf feeder).bind fun _ => keeps_get.bind fun ⟨_, feeder⟩ => ?_
  have hlengths : Keeps f (takeMinLength feeder >>= fun _ => takeMaxLexemes feeder) :=
    (keeps_takeMinLength hf feeder).bind fun _ => keeps_takeMaxLexemes hf feeder
  dsimp only [takeLengths]
  split
  · exact (keeps_throw _).bind fun _ => hlengths
  · exact hlengths

/-- **Setting up a new feeder** takes in the repository that the options name, and then the
settings. -/
theorem exists_of_setUp {options : List (String × Value)} {site site₁ : Site}
    {feeder : LabelFeeder} (h : setUp options (site, {}) = .ok () (site₁, feeder)) :
    ∃ repository, namedRepository { options } = .ok repository ∧
      site₁ = { site with repositories := site.repositories.push repository } ∧
      feeder.repository = some ⟨site.repositories.size⟩ ∧ feeder.sessions = [] ∧
      takeSettings { options } (site₁, { options, repository := some ⟨site.repositories.size⟩ })
        = .ok () (site₁, feeder) := by
  rw [setUp_eq, modify_bind, get_bind] at h
  obtain ⟨repository, s, hrun, h⟩ := exists_of_bind_ok h
  obtain ⟨hnamed, rfl⟩ := ofExcept_eq_ok hrun
  obtain ⟨id, s, hadd, h⟩ := exists_of_bind_ok h
  obtain ⟨rfl, rfl⟩ := EStateM.Result.ok.inj hadd
  rw [modify_bind] at h
  have htake : takeSettings { options } _ = .ok () (site₁, feeder) := h
  have hsite : site₁ = _ := (keeps_takeSettings (f := Prod.fst) (fun _ _ _ _ => rfl) _).ok htake
  subst hsite
  exact ⟨repository, hnamed, rfl,
    (keeps_takeSettings (f := fun s => s.2.repository) (fun _ _ _ _ => rfl) _).ok htake,
    (keeps_takeSettings (f := fun s => s.2.sessions) (fun _ _ _ _ => rfl) _).ok htake, htake⟩

/-- A repository that options name is a server's, or one of files not loaded yet. -/
theorem namedRepository_cases {feeder : LabelFeeder} {repository : Repository}
    (h : feeder.namedRepository = .ok repository) :
    (∃ config, repository = .files config none) ∨
      ∃ address name timeout, repository = .server address name timeout := by
  rcases hconfig : feeder.given? "config_url" with _ | config
  · rcases hserver : feeder.given? "server" with _ | server
    · simp only [namedRepository, hconfig, hserver] at h
      exact absurd h (by simp)
    · rcases hname : feeder.given? "repository_id" with _ | name
      · simp only [namedRepository, hconfig, hserver, hname] at h
        exact absurd h (by simp)
      · simp only [namedRepository, hconfig, hserver, hname] at h
        cases haddress : textOption "rstrip" server with
        | error fault =>
          rw [haddress] at h
          exact absurd h (by simp [bind, Except.bind])
        | ok address =>
          rw [haddress] at h
          have hrepository : Site.serverRepository address name.shown .null = .ok repository := h
          unfold Site.serverRepository at hrepository
          split at hrepository
          · exact absurd hrepository (by simp)
          · split at hrepository
            · exact absurd hrepository (by simp)
            · exact .inr ⟨_, _, _, (Except.ok.inj hrepository).symm⟩
  · simp only [namedRepository, hconfig] at h
    cases htext : textOption "decode" config with
    | error fault =>
      rw [htext] at h
      exact absurd h (by simp [Except.map])
    | ok text =>
      rw [htext] at h
      exact .inl ⟨.text text, (Except.ok.inj h).symm⟩

/-- **A repository that options name** answers the same wherever the same is given. -/
theorem answersOf_push {repository : Repository} {feeder : LabelFeeder} {site site' : Site}
    (hnamed : feeder.namedRepository = .ok repository) (hgiven : site'.given = site.given) :
    Site.answersOf { site' with repositories := site'.repositories.push repository }
        ⟨site'.repositories.size⟩
      = Site.answersOf { site with repositories := site.repositories.push repository }
        ⟨site.repositories.size⟩ := by
  have hfiles := Site.files_eq_of_given hgiven
  have hengine := Site.engine_eq_of_given hgiven
  have htransport := Site.transport_eq_of_given hgiven
  have hget : ∀ site : Site, (site.repositories.push repository)[site.repositories.size]?
      = some repository := fun site => by simp
  simp only [Site.answersOf, Site.backendOf, hget]
  rcases namedRepository_cases hnamed with ⟨config, rfl⟩ | ⟨address, name, timeout, rfl⟩
  · simp only [Repository.backend, hfiles, hengine]
    cases Repository.graphOf site.engine site.files config with
    | error fault => rfl
    | ok graph =>
      refine congrArg Except.ok (funext fun query => ?_)
      simp only [Site.reply]
  · refine congrArg Except.ok (funext fun query => ?_)
    simp only [Site.reply, htransport]

/-- What the connections of a feeder answer, or why there are none. -/
def answers (feeder : LabelFeeder) (site : Site) :
    Except Fault (String → Except Fault Rows) :=
  match feeder.repository with
  | none => .error .feederNotReady
  | some repository => site.answersOf repository

/-- Whether two feeders, each at a site, have the same settings, and connections with the same
answers. -/
structure SameSettings (feeder : LabelFeeder) (site : Site) (other : LabelFeeder)
    (site' : Site) : Prop where
  template : other.template = feeder.template
  minLength : other.minLength = feeder.minLength
  maxLexemes : other.maxLexemes = feeder.maxLexemes
  answers : other.answers site' = feeder.answers site

/-- **Two new feeders that are set up with the same options** have the same settings, and
connections with the same answers, and no sessions. -/
theorem sameSettings_of_setUp {options : List (String × Value)} {site site' site₁ site₁' : Site}
    {feeder fresh : LabelFeeder} (hgiven : site'.given = site.given)
    (h : setUp options (site, {}) = .ok () (site₁, feeder))
    (h' : setUp options (site', {}) = .ok () (site₁', fresh)) :
    feeder.SameSettings site₁ fresh site₁' ∧ feeder.sessions = [] ∧ fresh.sessions = [] := by
  obtain ⟨repository, hnamed, hsite, hid, hsessions, htake⟩ := exists_of_setUp h
  obtain ⟨repository', hnamed', hsite', hid', hsessions', htake'⟩ := exists_of_setUp h'
  obtain rfl := Except.ok.inj (hnamed.symm.trans hnamed')
  have halong := goesAlong_takeSettings site₁' (some ⟨site'.repositories.size⟩) { options }
    (site₁, { options, repository := some ⟨site.repositories.size⟩ })
  rw [outcome_ok htake] at halong
  have hfresh : fresh = { feeder with repository := some ⟨site'.repositories.size⟩ } :=
    congrArg (fun r => r.2.2) ((outcome_ok htake').symm.trans halong)
  refine ⟨⟨by rw [hfresh], by rw [hfresh], by rw [hfresh], ?_⟩, hsessions, hsessions'⟩
  rw [answers, answers, hid, hid', hsite, hsite']
  exact answersOf_push hnamed hgiven

end LabelFeeder
end Gazetteer
