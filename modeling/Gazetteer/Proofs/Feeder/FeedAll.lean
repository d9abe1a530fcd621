import Gazetteer.Annotator.AtSite
import Gazetteer.Proofs.Feed.Push
import Gazetteer.Proofs.Feed.Resolver

/-!
# Proofs/Feeder/FeedAll — setting feeders up, and filling dictionaries with them

Whatever kind a feeder is of, setting it up and letting it fill a dictionary keeps what is given of
a site (`given_setUp`, `given_feedAll`). A feeder does the same whoever listens
(`impartial_feedAll`) and only adds to a dictionary (`adds_feedAll`, `adds_feedAhead`), so that what
it adds is what a collector is handed.
-/

namespace Gazetteer

open Gazetteer.Action

namespace LabelFeeder

/-! ## The label feeder's settings, one by one -/

/-- Takes over the template among the options. -/
def takeTemplate (feeder : LabelFeeder) : Action (Site × LabelFeeder) Unit :=
  match feeder.option? "label_query" with
  | none => pure ()
  | some v => do
    let template ← Action.ofExcept (textOption "count" v)
    modify fun (site, feeder) => (site, { feeder with template })

/-- Takes over the least length among the options. -/
def takeMinLength (feeder : LabelFeeder) : Action (Site × LabelFeeder) Unit :=
  match feeder.option? "min_lexeme_length" with
  | none => pure ()
  | some v => do
    let minLength ← Action.ofExcept v.integer
    modify fun (site, feeder) => (site, { feeder with minLength })

/-- Takes over the greatest number of lexemes among the options. -/
def takeMaxLexemes (feeder : LabelFeeder) : Action (Site × LabelFeeder) Unit :=
  match feeder.given? "max_phrase_length" with
  | none => pure ()
  | some v => do
    let n ← Action.ofExcept v.integer
    modify fun (site, feeder) => (site, { feeder with maxLexemes := some n })

/-- **Setting up** takes over the settings one after the other. -/
theorem setUp_eq (options : List (String × Value)) : setUp options = (do
    modify fun (site, feeder) => (site, { feeder with options })
    let (_, feeder) ← get
    let repository ← Action.ofExcept feeder.namedRepository
    let id ← Action.onFirst (Site.addRepository repository)
    modify fun (site, feeder) => (site, { feeder with repository := some id })
    takeTemplate feeder
    let (_, feeder) ← get
    if placeholders feeder.template.toList ≠ 1 then throw .placeholderCount
    takeMinLength feeder
    takeMaxLexemes feeder) := by
  unfold setUp
  refine bind_congr fun _ => bind_congr fun ⟨site, feeder⟩ => bind_congr fun repository =>
    bind_congr fun id => bind_congr fun _ => ?_
  simp only [takeTemplate, takeMinLength]
  cases feeder.option? "label_query" with
  | none =>
    simp only [pure_bind]
    refine bind_congr fun ⟨site, feeder⟩ => ?_
    dsimp only
    split
    · rfl
    · cases feeder.option? "min_lexeme_length" <;> simp only [pure_bind, bind_assoc] <;> rfl
  | some v =>
    simp only [bind_assoc]
    refine bind_congr fun template => bind_congr fun _ => bind_congr fun ⟨site, feeder⟩ => ?_
    dsimp only
    split
    · rfl
    · cases feeder.option? "min_lexeme_length" <;> simp only [pure_bind, bind_assoc] <;> rfl

section Keeps

variable {γ : Type} {f : Site × LabelFeeder → γ}

section Settings

variable (hf : ∀ (s : Site × LabelFeeder) template minLength maxLexemes,
  f (s.1, { s.2 with template, minLength, maxLexemes }) = f s)

include hf

theorem keeps_takeTemplate (feeder : LabelFeeder) : Keeps f feeder.takeTemplate := by
  unfold takeTemplate
  split
  · exact keeps_pure ()
  · exact (keeps_ofExcept _).bind fun _ =>
      keeps_modify fun s => hf s _ s.2.minLength s.2.maxLexemes

theorem keeps_takeMinLength (feeder : LabelFeeder) : Keeps f feeder.takeMinLength := by
  unfold takeMinLength
  split
  · exact keeps_pure ()
  · exact (keeps_ofExcept _).bind fun _ =>
      keeps_modify fun s => hf s s.2.template _ s.2.maxLexemes

theorem keeps_takeMaxLexemes (feeder : LabelFeeder) : Keeps f feeder.takeMaxLexemes := by
  unfold takeMaxLexemes
  split
  · exact keeps_pure ()
  · exact (keeps_ofExcept _).bind fun _ =>
      keeps_modify fun s => hf s s.2.template s.2.minLength _

end Settings

/-- **Setting up** leaves all alone but the repositories, the options and the settings. -/
theorem keeps_setUp (hf : ∀ (site : Site) repositories (feeder : LabelFeeder) options repository
      template minLength maxLexemes, f ({ site with repositories },
        { feeder with options, repository, template, minLength, maxLexemes }) = f (site, feeder))
    (options : List (String × Value)) : Keeps f (setUp options) := by
  have hsettings : ∀ (s : Site × LabelFeeder) template minLength maxLexemes,
      f (s.1, { s.2 with template, minLength, maxLexemes }) = f s := fun s =>
    hf s.1 s.1.repositories s.2 s.2.options s.2.repository
  rw [setUp_eq]
  refine Keeps.bind (keeps_modify fun s => hf s.1 s.1.repositories s.2 options s.2.repository
    s.2.template s.2.minLength s.2.maxLexemes) fun _ => keeps_get.bind fun ⟨_, feeder⟩ => ?_
  refine (keeps_ofExcept _).bind fun repository => ?_
  refine Keeps.bind (fun s => hf s.1 _ s.2 s.2.options s.2.repository s.2.template s.2.minLength
    s.2.maxLexemes) fun id => ?_
  refine Keeps.bind (keeps_modify fun s => hf s.1 s.1.repositories s.2 s.2.options (some id)
    s.2.template s.2.minLength s.2.maxLexemes) fun _ => ?_
  refine (keeps_takeTemplate hsettings feeder).bind fun _ => keeps_get.bind fun ⟨_, feeder⟩ => ?_
  have hrest : Keeps f (do
      takeMinLength feeder
      takeMaxLexemes feeder) :=
    (keeps_takeMinLength hsettings feeder).bind fun _ => keeps_takeMaxLexemes hsettings feeder
  dsimp only
  split
  · exact (keeps_throw _).bind fun _ => hrest
  · exact hrest

end Keeps

end LabelFeeder

namespace Feeder

/-- **Setting a feeder up keeps what is given.** -/
theorem given_setUp (options : List (String × Value)) :
    Keeps (fun s : Site × Feeder => s.1.given) (setUp options) := by
  unfold setUp
  refine keeps_get.bind fun ⟨_, feeder⟩ => ?_
  cases feeder with
  | idle => exact keeps_pure ()
  | rehearsed _ => exact keeps_pure ()
  | vocabulary resolver directory =>
    dsimp only
    split
    · exact fun _ => rfl
    · exact fun _ => rfl
    · exact fun _ => rfl
  | label feeder =>
    exact keeps_zoom (g := fun s : Site × LabelFeeder => s.1.given)
      (LabelFeeder.keeps_setUp (fun _ _ _ _ _ _ _ _ => rfl) options) fun _ _ h => h

/-- **Filling a dictionary keeps what is given.** -/
theorem given_feedAll {ℓ : Type} (listener : Listener ℓ) :
    Keeps (fun s : (Site × Feeder) × ℓ => s.1.1.given) (feedAll listener) := by
  unfold feedAll
  refine keeps_get.bind fun ⟨⟨_, feeder⟩, _⟩ => ?_
  rcases feeder with _ | ⟨resolver, _ | directory⟩ | feeder | rehearsal
  · exact keeps_pure ()
  · exact keeps_pure ()
  · refine keeps_zoom (g := fun s : Site × ℓ => s.1.given) ?_ fun _ _ h => h
    refine (keeps_onFirst (resolver.given_resolve directory)).bind fun feed => ?_
    exact keeps_ensuring feed.given_push (keeps_onFirst feed.given_close)
  · exact keeps_pure ()
  · exact keeps_onSecond (f := fun s : Site × Feeder => s.1.given) _

/-- What a feeder does when it fills a dictionary, with the feeder as it is. -/
def fill (feeder : Feeder) (ℓ : Type) (listener : Listener ℓ) : Action (Site × ℓ) Unit :=
  match feeder with
  | .idle | .label _ | .vocabulary _ none => pure ()
  | .vocabulary resolver (some directory) => do
    let feed ← Action.onFirst (resolver.resolve directory)
    Action.ensuring (feed.push listener) (Action.onFirst feed.close)
  | .rehearsed rehearsal => Action.onSecond (handAll listener rehearsal.bulk)

theorem impartial_fill (feeder : Feeder) : Impartial feeder.fill := by
  rcases feeder with _ | ⟨resolver, _ | directory⟩ | feeder | rehearsal
  · exact impartial_pure ()
  · exact impartial_pure ()
  · exact (impartial_onFirst _).bind fun feed => feed.impartial_push.ensuring feed.close
  · exact impartial_pure ()
  · exact impartial_handAll rehearsal.bulk

theorem adds_fill (feeder : Feeder) : Adds (feeder.fill Dictionary Dictionary.listener) := by
  rcases feeder with _ | ⟨resolver, _ | directory⟩ | feeder | rehearsal
  · exact adds_of_keeps (keeps_pure ())
  · exact adds_of_keeps (keeps_pure ())
  · exact (adds_onFirst _).bind fun feed => feed.adds_push.ensuring feed.close
  · exact adds_of_keeps (keeps_pure ())
  · exact adds_handAll rehearsal.bulk

/-- **Filling a dictionary** leaves the feeder as it is. -/
theorem outcome_feedAll {ℓ : Type} (listener : Listener ℓ) (site : Site) (feeder : Feeder) (l : ℓ) :
    outcome (feedAll listener) ((site, feeder), l)
      = ((outcome (feeder.fill ℓ listener) (site, l)).1,
          ((outcome (feeder.fill ℓ listener) (site, l)).2.1, feeder),
          (outcome (feeder.fill ℓ listener) (site, l)).2.2) := by
  rcases feeder with _ | ⟨resolver, _ | directory⟩ | feeder | rehearsal
  · rfl
  · rfl
  · exact outcome_zoom (fun s : (Site × Feeder) × ℓ => (s.1.1, s.2))
      (fun s t => ((s.1, t.1.2), s.2)) (fill (.vocabulary resolver (some directory)) ℓ listener)
      ((site, .vocabulary resolver (some directory)), l)
  · rfl
  · exact (outcome_onSecond _ _ l).trans
      (by simp only [fill, outcome_onSecond])

/-- **Filling a dictionary does the same whoever listens.** -/
theorem impartial_feedAll : Impartial fun _ listener => feedAll listener := by
  rintro ℓ listener ⟨site, feeder⟩ s' l l' ⟨⟩ h
  have hrun := outcome_ok h
  rw [outcome_feedAll] at hrun
  obtain ⟨hresult, hstate⟩ := Prod.mk.inj hrun
  obtain ⟨hs, hl⟩ := Prod.mk.inj hstate
  have hfill : feeder.fill ℓ listener (site, l)
      = .ok () ((outcome (feeder.fill ℓ listener) (site, l)).2.1, l') :=
    eq_ok_of_outcome (Prod.ext hresult (Prod.ext rfl hl))
  obtain ⟨es, hes, hother⟩ := feeder.impartial_fill _ hfill
  refine ⟨es, hes, fun other m m' hm => eq_ok_of_outcome ?_⟩
  rw [outcome_feedAll, outcome_ok (hother other hm), ← hs]

/-- **Filling a dictionary only adds to it.** -/
theorem adds_feedAll : Adds (feedAll Dictionary.listener) := by
  rintro ⟨site, feeder⟩ d
  rw [outcome_feedAll]
  exact feeder.adds_fill site d

/-- **Records for a document** are all that is done to its dictionary. -/
theorem adds_feedAhead (document : Document) (ahead : List String) :
    Adds (feedAhead Dictionary.listener document ahead) :=
  (adds_onFirst _).bind fun records => adds_handAll records

end Feeder

end Gazetteer
