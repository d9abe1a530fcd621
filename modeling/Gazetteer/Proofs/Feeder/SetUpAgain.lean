import Gazetteer.Proofs.Feeder.SetUp
import Mathlib.Data.List.Induction

/-!
# Proofs/Feeder/SetUpAgain — feeders that are set up more than once

Setting up a label feeder takes over the options one by one, stops at the first that will not do,
and leaves what is not given as it is. So what the feeder works with after some calls does not come
from the last one that succeeded: each setting is the last that was taken over (`comesFrom_setUps`),
be it by a call that failed. The template is taken over before it is checked; numbers are read
first. `setUp_again` compares a call with the same call on a new feeder.
-/

namespace Gazetteer.LabelFeeder

open Gazetteer.Action

/-! ## What a call takes over -/

/-- The repository that options name, if they name one. -/
def source? (options : List (String × Value)) : Option Repository :=
  (namedRepository { options }).toOption

/-- An option that is read if it is there. -/
def readGiven {α : Type} (read : Value → Except Fault α) : Option Value → Except Fault (Option α)
  | none => .ok none
  | some v => (read v).map some

theorem eq_none_iff_of_readGiven {α : Type} {read : Value → Except Fault α} {v : Option Value}
    {x : Option α} (h : readGiven read v = .ok x) : v = none ↔ x = none := by
  cases v with
  | none =>
    obtain rfl := Except.ok.inj h
    exact iff_of_true rfl rfl
  | some v =>
    rw [readGiven] at h
    cases hv : read v with
    | error fault => exact absurd (hv ▸ h) (by simp [Except.map])
    | ok a =>
      rw [hv] at h
      obtain rfl := Except.ok.inj h
      exact iff_of_false (by simp) (by simp)

/-- The template among options, if there is one. -/
def templateIn (options : List (String × Value)) : Except Fault (Option String) :=
  readGiven (textOption "count") (option? { options } "label_query")

/-- The least length among options, if there is one. -/
def minLengthIn (options : List (String × Value)) : Except Fault (Option Int) :=
  readGiven Value.integer (option? { options } "min_lexeme_length")

/-- The greatest number of lexemes among options, if there is one. -/
def maxLexemesIn (options : List (String × Value)) : Except Fault (Option Int) :=
  readGiven Value.integer (given? { options } "max_phrase_length")

/-- The template that a call takes over: one that stands beside a repository. -/
def takenTemplate? (options : List (String × Value)) : Option String :=
  (source? options).bind fun _ => (templateIn options).toOption.join

section Outcome

variable {options : List (String × Value)} {site : Site} {feeder : LabelFeeder}

theorem outcome_takeTemplate (given : LabelFeeder) :
    outcome (takeTemplate given) (site, feeder) = match templateIn given.options with
      | .error fault => (.error fault, site, feeder)
      | .ok template =>
        (.ok (), site, { feeder with template := template.getD feeder.template }) := by
  have hoption : option? { options := given.options } "label_query" = given.option? "label_query" :=
    rfl
  rw [takeTemplate, templateIn, hoption]
  cases given.option? "label_query" with
  | none => rfl
  | some v => cases hv : textOption "count" v <;> simp [readGiven, hv] <;> rfl

theorem outcome_takeMinLength (given : LabelFeeder) :
    outcome (takeMinLength given) (site, feeder) = match minLengthIn given.options with
      | .error fault => (.error fault, site, feeder)
      | .ok minLength =>
        (.ok (), site, { feeder with minLength := minLength.getD feeder.minLength }) := by
  have hoption : option? { options := given.options } "min_lexeme_length"
      = given.option? "min_lexeme_length" := rfl
  rw [takeMinLength, minLengthIn, hoption]
  cases given.option? "min_lexeme_length" with
  | none => rfl
  | some v => cases hv : v.integer <;> simp [readGiven, hv] <;> rfl

theorem outcome_takeMaxLexemes (given : LabelFeeder) :
    outcome (takeMaxLexemes given) (site, feeder) = match maxLexemesIn given.options with
      | .error fault => (.error fault, site, feeder)
      | .ok maxLexemes =>
        (.ok (), site, { feeder with maxLexemes := maxLexemes.or feeder.maxLexemes }) := by
  have hoption : given? { options := given.options } "max_phrase_length"
      = given.given? "max_phrase_length" := rfl
  rw [takeMaxLexemes, maxLexemesIn, hoption]
  cases given.given? "max_phrase_length" with
  | none => rfl
  | some v => cases hv : v.integer <;> simp [readGiven, hv] <;> rfl

/-- The options and the repository come first, and then the settings. -/
theorem outcome_setUp (options : List (String × Value)) (site : Site) (feeder : LabelFeeder) :
    outcome (setUp options) (site, feeder) =
      match namedRepository { options } with
      | .error fault => (.error fault, site, { feeder with options })
      | .ok repository => outcome (takeSettings { options })
          ({ site with repositories := site.repositories.push repository },
            { feeder with options, repository := some ⟨site.repositories.size⟩ }) := by
  have hnamed : namedRepository { feeder with options } = namedRepository { options } := rfl
  rw [setUp_eq, outcome_modify_bind, outcome_get_bind]
  dsimp only
  rw [outcome_bind, outcome_ofExcept, hnamed]
  cases namedRepository { options } <;> rfl

end Outcome

/-! ## One call -/

/-- What a feeder works with: the options of its last call, the repository that it connects to, and
the settings of its sessions. -/
structure Configuration where
  options : List (String × Value)
  source : Option Repository
  template : String
  minLength : Int
  maxLexemes : Option Int

/-- What the feeder of a site works with. -/
def configuration (s : Site × LabelFeeder) : Configuration where
  options := s.2.options
  source := s.2.repository.bind fun id => s.1.repositories[id.index]?
  template := s.2.template
  minLength := s.2.minLength
  maxLexemes := s.2.maxLexemes

/-- What a call takes over until it ends, one constructor for each place where it can end. -/
inductive Takes (options : List (String × Value)) (c : Configuration) :
    Except Fault Unit → Configuration → Prop
  | unnamed {fault : Fault} : namedRepository { options } = .error fault →
      Takes options c (.error fault) { c with options }
  | unread {repository : Repository} {fault : Fault} :
      namedRepository { options } = .ok repository → templateIn options = .error fault →
      Takes options c (.error fault) { c with options, source := some repository }
  /-- The template is in the feeder by the time it is refused. -/
  | refused {repository : Repository} {template : Option String} :
      namedRepository { options } = .ok repository → templateIn options = .ok template →
      placeholders (template.getD c.template).toList ≠ 1 →
      Takes options c (.error .placeholderCount)
        { c with options, source := some repository, template := template.getD c.template }
  | noLength {repository : Repository} {template : Option String} {fault : Fault} :
      namedRepository { options } = .ok repository → templateIn options = .ok template →
      placeholders (template.getD c.template).toList = 1 → minLengthIn options = .error fault →
      Takes options c (.error fault)
        { c with options, source := some repository, template := template.getD c.template }
  | noCount {repository : Repository} {template : Option String} {minLength : Option Int}
      {fault : Fault} :
      namedRepository { options } = .ok repository → templateIn options = .ok template →
      placeholders (template.getD c.template).toList = 1 → minLengthIn options = .ok minLength →
      maxLexemesIn options = .error fault →
      Takes options c (.error fault)
        { c with options, source := some repository, template := template.getD c.template,
                 minLength := minLength.getD c.minLength }
  | all {repository : Repository} {template : Option String} {minLength maxLexemes : Option Int} :
      namedRepository { options } = .ok repository → templateIn options = .ok template →
      placeholders (template.getD c.template).toList = 1 → minLengthIn options = .ok minLength →
      maxLexemesIn options = .ok maxLexemes →
      Takes options c (.ok ())
        ⟨options, some repository, template.getD c.template, minLength.getD c.minLength,
          maxLexemes.or c.maxLexemes⟩

theorem takes_takeSettings {options : List (String × Value)} {c : Configuration}
    {repository : Repository} (hnamed : namedRepository { options } = .ok repository)
    {s : Site × LabelFeeder}
    (hs : configuration s = { c with options, source := some repository }) :
    Takes options c (outcome (takeSettings { options }) s).1
      (configuration (outcome (takeSettings { options }) s).2) := by
  obtain ⟨site, feeder⟩ := s
  obtain ⟨_, _, _, _, _⟩ := c
  obtain ⟨hoptions, hsource, rfl, rfl, rfl⟩ := Configuration.mk.injEq .. ▸ hs
  simp only at hoptions hsource
  rw [takeSettings, outcome_bind, outcome_takeTemplate]
  cases htemplate : templateIn options with
  | error fault =>
    simp only [configuration, hoptions, hsource]
    exact .unread hnamed htemplate
  | ok template =>
    simp only [outcome_get_bind, takeLengths]
    by_cases hcount : placeholders (template.getD feeder.template).toList = 1
    · rw [if_neg (not_not_intro hcount), outcome_bind, outcome_takeMinLength]
      simp only [hoptions]
      cases hlength : minLengthIn options with
      | error fault =>
        simp only [configuration, hsource]
        exact .noLength hnamed htemplate hcount hlength
      | ok minLength =>
        simp only [outcome_takeMaxLexemes]
        cases hmost : maxLexemesIn options with
        | error fault =>
          simp only [configuration, hsource]
          exact .noCount hnamed htemplate hcount hlength hmost
        | ok maxLexemes =>
          simp only [configuration, hsource]
          exact .all hnamed htemplate hcount hlength hmost
    · rw [if_pos hcount]
      simp only [outcome_bind, outcome_throw, configuration, hoptions, hsource]
      exact .refused hnamed htemplate hcount

/-- **Step**: a call takes over what it can. -/
theorem takes_setUp (options : List (String × Value)) (s : Site × LabelFeeder) :
    Takes options (configuration s) (outcome (setUp options) s).1
      (configuration (outcome (setUp options) s).2) := by
  obtain ⟨site, feeder⟩ := s
  rw [outcome_setUp]
  cases hnamed : namedRepository { options } with
  | error fault => exact .unnamed hnamed
  | ok repository =>
    refine takes_takeSettings hnamed ?_
    simp [configuration]

/-- Whether a call succeeds on a feeder that has a template. -/
def Accepts (options : List (String × Value)) (inForce : String) : Prop :=
  (∃ repository, namedRepository { options } = .ok repository) ∧
  (∃ template, templateIn options = .ok template ∧
    placeholders (template.getD inForce).toList = 1) ∧
  (∃ minLength, minLengthIn options = .ok minLength) ∧
  ∃ maxLexemes, maxLexemesIn options = .ok maxLexemes

namespace Takes

variable {options : List (String × Value)} {c c' : Configuration} {result : Except Fault Unit}

theorem options_eq (h : Takes options c result c') : c'.options = options := by
  cases h <;> rfl

theorem source_eq (h : Takes options c result c') : c'.source = (source? options).or c.source := by
  cases h <;> simp_all [source?, Except.toOption]

theorem template_eq (h : Takes options c result c') :
    c'.template = (takenTemplate? options).getD c.template := by
  cases h <;> simp_all [takenTemplate?, source?, Except.toOption]

theorem ok_iff (h : Takes options c result c') : result = .ok () ↔ Accepts options c.template := by
  cases h with
  | all hnamed htemplate hcount hlength hmost =>
    exact iff_of_true rfl ⟨⟨_, hnamed⟩, ⟨_, htemplate, hcount⟩, ⟨_, hlength⟩, ⟨_, hmost⟩⟩
  | _ => simp_all [Accepts]

theorem placeholders_eq_one (h : Takes options c (.ok ()) c') :
    placeholders c'.template.toList = 1 := by
  cases h
  assumption

/-- The least length is taken over behind a template that is accepted. -/
theorem minLength_eq (h : Takes options c result c') :
    c'.minLength = if (source? options).isSome ∧ (templateIn options).isOk ∧
        placeholders c'.template.toList = 1
      then (minLengthIn options).toOption.join.getD c.minLength else c.minLength := by
  cases h <;> simp_all [source?, Except.toOption, Except.isOk, Except.toBool]

/-- The greatest number of lexemes is taken over last of all. -/
theorem maxLexemes_eq (h : Takes options c result c') :
    c'.maxLexemes = if result.isOk then (maxLexemesIn options).toOption.join.or c.maxLexemes
      else c.maxLexemes := by
  cases h <;> simp_all [Except.toOption, Except.isOk, Except.toBool]

theorem minLength_cases (h : Takes options c result c') :
    c'.minLength = c.minLength ∨ minLengthIn options = .ok (some c'.minLength) := by
  rw [h.minLength_eq]
  split
  · rcases hread : minLengthIn options with fault | _ | n <;> simp [Except.toOption]
  · exact .inl rfl

theorem maxLexemes_cases (h : Takes options c result c') :
    c'.maxLexemes = c.maxLexemes ∨ maxLexemesIn options = .ok c'.maxLexemes := by
  rw [h.maxLexemes_eq]
  split
  · rcases hread : maxLexemesIn options with fault | _ | n <;> simp [Except.toOption]
  · exact .inl rfl

/-- **Two feeders that take over the same options** come to work with the same just if they worked
with the same wherever nothing is given. -/
theorem eq_iff {d d' : Configuration} (h : Takes options c (.ok ()) c')
    (h' : Takes options d (.ok ()) d') :
    c' = d' ↔ (option? { options } "label_query" = none → c.template = d.template) ∧
      (option? { options } "min_lexeme_length" = none → c.minLength = d.minLength) ∧
      (given? { options } "max_phrase_length" = none → c.maxLexemes = d.maxLexemes) := by
  cases h with
  | @all _ template minLength maxLexemes hnamed htemplate hcount hlength hmost =>
    cases h' with
    | all hnamed' htemplate' hcount' hlength' hmost' =>
      obtain rfl := Except.ok.inj (hnamed.symm.trans hnamed')
      obtain rfl := Except.ok.inj (htemplate.symm.trans htemplate')
      obtain rfl := Except.ok.inj (hlength.symm.trans hlength')
      obtain rfl := Except.ok.inj (hmost.symm.trans hmost')
      rw [eq_none_iff_of_readGiven htemplate, eq_none_iff_of_readGiven hlength,
        eq_none_iff_of_readGiven hmost, Configuration.mk.injEq]
      cases template <;> cases minLength <;> cases maxLexemes <;> simp

end Takes

/-! ## All calls -/

/-- A feeder after some calls, whatever came of each. -/
def setUps (calls : List (List (String × Value))) (s : Site × LabelFeeder) : Site × LabelFeeder :=
  calls.foldl (fun s options => (outcome (setUp options) s).2) s

theorem setUps_append_singleton (calls : List (List (String × Value)))
    (options : List (String × Value)) (s : Site × LabelFeeder) :
    setUps (calls ++ [options]) s = (outcome (setUp options) (setUps calls s)).2 := by
  rw [setUps, List.foldl_append]
  rfl

/-- Where the configuration of a new feeder comes from after some calls. -/
structure ComesFrom (calls : List (List (String × Value))) (c : Configuration) : Prop where
  /-- The options are those of the last call. -/
  options : c.options = calls.getLast?.getD []
  /-- The repository is the last one that was named. -/
  source : c.source = (calls.filterMap source?).getLast?
  /-- The template is the last one that stood beside a repository, accepted or not. -/
  template : c.template = (calls.filterMap takenTemplate?).getLast?.getD Defaults.labelQuery
  /-- The lengths have been read as numbers. -/
  minLength : c.minLength = Defaults.minPhraseLength ∨
    ∃ options ∈ calls, minLengthIn options = .ok (some c.minLength)
  maxLexemes : c.maxLexemes = none ∨ ∃ options ∈ calls, maxLexemesIn options = .ok c.maxLexemes

theorem getLast?_filterMap_append_singleton {α β : Type} (f : α → Option β) (xs : List α) (x : α) :
    ((xs ++ [x]).filterMap f).getLast? = (f x).or (xs.filterMap f).getLast? := by
  rw [List.filterMap_append, List.getLast?_append]
  cases hx : f x <;> simp [hx]

/-- **Step**: one more call. -/
theorem ComesFrom.takes {calls : List (List (String × Value))} {options : List (String × Value)}
    {c c' : Configuration} {result : Except Fault Unit} (h : ComesFrom calls c)
    (htakes : Takes options c result c') : ComesFrom (calls ++ [options]) c' where
  options := by simp [htakes.options_eq]
  source := by
    rw [htakes.source_eq, h.source, getLast?_filterMap_append_singleton]
  template := by
    rw [htakes.template_eq, h.template, getLast?_filterMap_append_singleton]
    cases takenTemplate? options <;> rfl
  minLength := by
    rcases htakes.minLength_cases with hsame | hread
    · rw [hsame]
      exact h.minLength.imp_right fun ⟨options', hmem, hread⟩ =>
        ⟨options', List.mem_append_left _ hmem, hread⟩
    · exact .inr ⟨options, by simp, hread⟩
  maxLexemes := by
    rcases htakes.maxLexemes_cases with hsame | hread
    · rw [hsame]
      exact h.maxLexemes.imp_right fun ⟨options', hmem, hread⟩ =>
        ⟨options', List.mem_append_left _ hmem, hread⟩
    · exact .inr ⟨options, by simp, hread⟩

/-- **Run**: what a new feeder works with after some calls. -/
theorem comesFrom_setUps (site : Site) (calls : List (List (String × Value))) :
    ComesFrom calls (configuration (setUps calls (site, {}))) := by
  induction calls using List.reverseRecOn with
  | nil => exact ⟨rfl, rfl, rfl, .inl rfl, .inl rfl⟩
  | append_singleton calls options ih =>
    rw [setUps_append_singleton]
    exact ih.takes (takes_setUp options _)

/-! ## Sessions -/

/-- What beginning a document comes to: without a repository there is no session, and with one the
session has the settings that the feeder has by then. -/
def Opens (s : Site × LabelFeeder) : Prop :=
  match (configuration s).source with
  | none => ∀ document, s.2.ops.openFor document = throw .feederNotReady
  | some repository => ∃ id : RepositoryId, s.1.repositories[id.index]? = some repository ∧
      ∀ document, s.2.ops.openFor document = do
        let connection ← Site.connect id
        return some (connection, ⟨(configuration s).template, (configuration s).minLength,
          (configuration s).maxLexemes, []⟩)

/-- Whether the repository of a feeder is among those of the site. -/
def IsPlaced (s : Site × LabelFeeder) : Prop :=
  ∀ id ∈ s.2.repository, id.index < s.1.repositories.size

theorem IsPlaced.setUp {s : Site × LabelFeeder} (h : IsPlaced s)
    (options : List (String × Value)) : IsPlaced (outcome (LabelFeeder.setUp options) s).2 := by
  obtain ⟨site, feeder⟩ := s
  rw [outcome_setUp]
  cases namedRepository { options } with
  | error fault => exact h
  | ok repository =>
    have hkeeps : Keeps (fun s : Site × LabelFeeder => (s.1.repositories, s.2.repository))
        (takeSettings { options }) := keeps_takeSettings (fun _ _ _ _ => rfl) _
    have hafter := hkeeps ({ site with repositories := site.repositories.push repository },
      { feeder with options, repository := some ⟨site.repositories.size⟩ })
    obtain ⟨hrepositories, hrepository⟩ := Prod.mk.inj hafter
    intro id hid
    rw [hrepository, Option.mem_def, Option.some.injEq] at hid
    rw [hrepositories, ← hid, Array.size_push]
    exact Nat.lt_succ_self _

theorem isPlaced_setUps (site : Site) (calls : List (List (String × Value))) :
    IsPlaced (setUps calls (site, {})) := by
  induction calls using List.reverseRecOn with
  | nil => exact fun id hid => absurd hid (by simp [setUps])
  | append_singleton calls options ih =>
    rw [setUps_append_singleton]
    exact ih.setUp options

theorem IsPlaced.opens {s : Site × LabelFeeder} (h : IsPlaced s) : Opens s := by
  obtain ⟨site, feeder⟩ := s
  cases hrepository : feeder.repository with
  | none =>
    simp only [Opens, configuration, hrepository, Option.bind_none]
    intro document
    rw [ops, hrepository]
  | some id =>
    have hplace : id.index < site.repositories.size := h id hrepository
    simp only [Opens, configuration, hrepository, Option.bind_some,
      Array.getElem?_eq_getElem hplace]
    refine ⟨id, Array.getElem?_eq_getElem hplace, fun document => ?_⟩
    rw [ops, hrepository]

/-! ## A call after others, and on a new feeder -/

/-- A call on a feeder that has been set up before, beside the same call on a new one. -/
structure Resumes (options : List (String × Value)) (before after fresh : Configuration)
    (result alone : Except Fault Unit) : Prop where
  /-- It succeeds just if it does so on a new feeder, and a template that it does not give is in
  order from before. -/
  isOk_iff : result = .ok () ↔ alone = .ok () ∧
    (option? { options } "label_query" = none → placeholders before.template.toList = 1)
  /-- When it succeeds, the feeder works with what a new one does just if everything that is not
  given is as in a new one. -/
  eq_iff : result = .ok () → (after = fresh ↔
    (option? { options } "label_query" = none → before.template = Defaults.labelQuery) ∧
    (option? { options } "min_lexeme_length" = none →
      before.minLength = Defaults.minPhraseLength) ∧
    (given? { options } "max_phrase_length" = none → before.maxLexemes = none))
  /-- The least length is taken over behind a template that is accepted. -/
  minLength : after.minLength = if (source? options).isSome ∧ (templateIn options).isOk ∧
      placeholders after.template.toList = 1
    then (minLengthIn options).toOption.join.getD before.minLength else before.minLength
  /-- The greatest number of lexemes is taken over by a call that succeeds. -/
  maxLexemes : after.maxLexemes = if result.isOk
    then (maxLexemesIn options).toOption.join.or before.maxLexemes else before.maxLexemes

theorem placeholders_labelQuery : placeholders Defaults.labelQuery.toList = 1 := by
  decide +kernel

theorem accepts_iff {options : List (String × Value)} {inForce : String} :
    Accepts options inForce ↔ Accepts options Defaults.labelQuery ∧
      (option? { options } "label_query" = none → placeholders inForce.toList = 1) := by
  constructor
  · rintro ⟨hnamed, ⟨template, htemplate, hcount⟩, hlengths⟩
    refine ⟨⟨hnamed, ⟨template, htemplate, ?_⟩, hlengths⟩, fun hnone => ?_⟩
    · cases template with
      | none => exact placeholders_labelQuery
      | some template => exact hcount
    · obtain rfl := (eq_none_iff_of_readGiven htemplate).mp hnone
      exact hcount
  · rintro ⟨⟨hnamed, ⟨template, htemplate, hcount⟩, hlengths⟩, hforce⟩
    refine ⟨hnamed, ⟨template, htemplate, ?_⟩, hlengths⟩
    cases template with
    | none => exact hforce ((eq_none_iff_of_readGiven htemplate).mpr rfl)
    | some template => exact hcount

/-- **A feeder that is set up again**: what it works with after any calls, failed ones among them.
Its settings are those that were taken over last, and so are the ones of the sessions that it opens;
it opens sessions as soon as one call has named a repository. A template that has been refused is in
force from then on; a length that has been refused never is. A call that succeeds leaves behind what
it leaves in a new feeder only if nothing that it does not give has been changed before. -/
theorem setUp_again (site : Site) (calls : List (List (String × Value)))
    (options : List (String × Value)) :
    ComesFrom (calls ++ [options]) (configuration (setUps (calls ++ [options]) (site, {}))) ∧
    Opens (setUps (calls ++ [options]) (site, {})) ∧
    Resumes options (configuration (setUps calls (site, {})))
      (configuration (setUps (calls ++ [options]) (site, {})))
      (configuration (setUps [options] (site, {})))
      (outcome (setUp options) (setUps calls (site, {}))).1
      (outcome (setUp options) (site, {})).1 := by
  have htakes := takes_setUp options (setUps calls (site, {}))
  have halone := takes_setUp options (site, {})
  have hiff : (outcome (setUp options) (setUps calls (site, {}))).1 = .ok () ↔
      (outcome (setUp options) (site, {})).1 = .ok () ∧
        (option? { options } "label_query" = none →
          placeholders (configuration (setUps calls (site, {}))).template.toList = 1) := by
    rw [htakes.ok_iff, halone.ok_iff]
    exact accepts_iff
  refine ⟨comesFrom_setUps site _, (isPlaced_setUps site _).opens, ?_⟩
  rw [setUps_append_singleton]
  refine ⟨hiff, fun hok => ?_, htakes.minLength_eq, htakes.maxLexemes_eq⟩
  rw [(hiff.mp hok).1] at halone
  rw [hok] at htakes
  exact htakes.eq_iff halone

/-- A template that has been refused is the one in force. -/
example (site : Site) : (configuration (setUps
    [[("config_url", .string "a.ttl"), ("label_query", .string "%s")],
      [("config_url", .string "a.ttl"), ("label_query", .string "?")]] (site, {}))).template
    = "?" := by
  rw [(comesFrom_setUps site _).template]
  decide +kernel

end Gazetteer.LabelFeeder
