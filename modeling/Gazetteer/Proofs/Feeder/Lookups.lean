import Gazetteer.Feeder.Basic
import Gazetteer.Proofs.Action
import Gazetteer.Proofs.Feed.Delivery

/-!
# Proofs/Feeder/Lookups — which phrases a checkpoint looks up, and what comes of each

A checkpoint looks up the phrases of its window that are long enough and not in the memory of the
session, each of them once (`firsts`). A lookup settles, with the records of its rows or with none
if the query fails (`Settles`), or a fault escapes from it that is no failed query (`Escapes`).
From this the whole checkpoint follows (`answers_lookUpAll`): either all lookups settle, or the
first one that does not ends it with its fault (`checkpoint_settles`).
-/

namespace Gazetteer

open Gazetteer.Action

/-! ## First occurrences -/

/-- The phrases whose lower case is not in a memory, without the later ones of the same lower
case. -/
def firsts : (memory phrases : List String) → List String
  | _, [] => []
  | memory, phrase :: rest =>
    if Text.lowerCase phrase ∈ memory then firsts memory rest
    else phrase :: firsts (memory ++ [Text.lowerCase phrase]) rest

section Firsts

variable {memory phrases rest : List String} {phrase : String}

theorem firsts_cons_of_mem (h : Text.lowerCase phrase ∈ memory) :
    firsts memory (phrase :: rest) = firsts memory rest := if_pos h

theorem firsts_cons_of_notMem (h : Text.lowerCase phrase ∉ memory) :
    firsts memory (phrase :: rest)
      = phrase :: firsts (memory ++ [Text.lowerCase phrase]) rest := if_neg h

/-- **First occurrences in two lists**: the memory of the second has those of the first. -/
theorem firsts_append (memory phrases rest : List String) : firsts memory (phrases ++ rest)
    = firsts memory phrases
      ++ firsts (memory ++ (firsts memory phrases).map Text.lowerCase) rest := by
  induction phrases generalizing memory with
  | nil => simp [firsts]
  | cons phrase phrases ih =>
    rw [List.cons_append]
    by_cases h : Text.lowerCase phrase ∈ memory
    · rw [firsts_cons_of_mem h, firsts_cons_of_mem h, ih]
    · rw [firsts_cons_of_notMem h, firsts_cons_of_notMem h, ih, List.cons_append, List.map_cons,
        List.append_assoc, List.singleton_append]

end Firsts

namespace LabelSession

variable {σ : Type} {ask : String → Action σ Rows} {template phrase : String} {s s' : σ}
  {fault : Fault}

/-- The session with more phrases in its memory. -/
def recalling (session : LabelSession) (phrases : List String) : LabelSession :=
  { session with seen := session.seen ++ phrases.map Text.lowerCase }

/-- Whether a phrase is long enough. -/
def isLong (session : LabelSession) (phrase : String) : Bool :=
  decide (session.minLength ≤ (phrase.length : Int))

/-- Whether a phrase may have a number of lexemes: the session has no limit, or none but zero, or
the number is within it. -/
def allows (session : LabelSession) (count : Nat) : Bool :=
  session.maxLexemes.all fun most => decide (most = 0 ∨ (count : Int) ≤ most)

/-- The phrases that begin a window and are long enough, the shortest first: of one lexeme, of two,
and so on up to the whole window or the limit of the session. -/
def candidates (session : LabelSession) (window : List String) : List String :=
  (((List.range' 1 window.length).filter session.allows).map fun count =>
    String.intercalate " " (window.take count)).filter session.isLong

theorem range'_filter_le (count most : Nat) :
    (List.range' 1 count).filter (fun n => decide (n ≤ most)) = List.range' 1 (min count most) := by
  induction count with
  | zero => simp
  | succ count ih =>
    rw [List.range'_1_concat, List.filter_append, ih]
    by_cases h : 1 + count ≤ most
    · have hmin : min (count + 1) most = min count most + 1 := by omega
      have hcount : min count most = count := by omega
      simp [h, hmin, hcount, List.range'_1_concat]
    · have hmin : min (count + 1) most = min count most := by omega
      simp [h, hmin]

/-- **The lengths that the limit allows** are those from one up to the longest phrase. -/
theorem filter_allows (session : LabelSession) (count : Nat) :
    (List.range' 1 count).filter session.allows
      = List.range' 1 (reach session.maxLexemes count) := by
  have hall (h : ∀ n, session.allows n = true) :
      (List.range' 1 count).filter session.allows = List.range' 1 count :=
    List.filter_eq_self.mpr fun n _ => h n
  cases hlimit : session.maxLexemes with
  | none => exact hall fun n => by rw [allows, hlimit, Option.all_none]
  | some most =>
    by_cases hzero : most = 0
    · subst hzero
      exact hall fun n => by simp [allows, hlimit]
    · have hreach : reach (some most) count = min count most.toNat := by
        simp only [reach]
        omega
      rw [hreach, ← range'_filter_le]
      refine List.filter_congr fun n hn => ?_
      have hpositive := (List.mem_range'_1.mp hn).1
      rw [allows, hlimit, Option.all_some, decide_eq_decide, or_iff_right hzero]
      omega

/-- **The phrases that are gone through** are those that begin the window, as far as the limit
allows. -/
theorem candidates_eq (session : LabelSession) (window : List String) :
    session.candidates window
      = (phrases (reach session.maxLexemes window.length) window).filter session.isLong := by
  rw [candidates, filter_allows, phrases, List.range'_eq_map_range, List.map_map]
  refine congrArg (List.filter _ ·) (List.map_congr_left fun n _ => ?_)
  rw [Function.comp_apply, Nat.add_comm]

theorem skips_eq (session : LabelSession) (phrase : String) : session.skips phrase
    = (session.seen.contains (Text.lowerCase phrase) || !session.isLong phrase) := by
  have hlong : session.isLong phrase = !decide ((phrase.length : Int) < session.minLength) := by
    simp only [isLong, ← Int.not_lt, decide_not]
  rw [skips, hlong, Bool.not_not]

/-! ## One phrase -/

/-- What is collected from rows: the records of those that carry one. -/
inductive Collects : List Row → List Entity → Prop
  | nil : Collects [] []
  | carried {row : Row} {rows : List Row} {e : Entity} {es : List Entity} (hrow : row.Carries e)
      (h : Collects rows es) : Collects (row :: rows) (e :: es)
  | bad {row : Row} {rows : List Row} {es : List Entity} (hrow : row.IsBad)
      (h : Collects rows es) : Collects (row :: rows) es

theorem collects_filterMap : ∀ rows : List Row, Collects rows (rows.filterMap Row.entity?)
  | [] => .nil
  | row :: rows => by
      rcases Row.entity?_cases row with ⟨e, hentity, hrow⟩ | ⟨hnone, hbad⟩
      · rw [List.filterMap_cons_some hentity]
        exact .carried hrow (collects_filterMap rows)
      · rw [List.filterMap_cons_none hnone]
        exact .bad hbad (collects_filterMap rows)

theorem Collects.eq_filterMap {rows : List Row} {es : List Entity} (h : Collects rows es) :
    es = rows.filterMap Row.entity? := by
  induction h with
  | nil => rfl
  | carried hrow _ ih => rw [List.filterMap_cons_some (Row.entity?_of_carries hrow), ← ih]
  | bad hrow _ ih => rw [List.filterMap_cons_none (Row.entity?_of_isBad hrow), ← ih]

/-- How a lookup settles: with the records of its rows, or with none, because the query failed at
once or after some rows. -/
inductive Settles (ask : String → Action σ Rows) (template phrase : String) (s : σ) :
    List Entity → σ → Prop
  | found {text : String} {rows : List Row} {es : List Entity} {s' : σ}
      (htext : query template phrase = .ok text)
      (hask : outcome (ask text) s = (.ok ⟨rows, none⟩, s')) (hrows : Collects rows es) :
      Settles ask template phrase s es s'
  | refused {text : String} {fault : Fault} {s' : σ}
      (htext : query template phrase = .ok text)
      (hask : outcome (ask text) s = (.error fault, s')) (hfault : fault.isQuery = true) :
      Settles ask template phrase s [] s'
  | broken {text : String} {rows : List Row} {fault : Fault} {s' : σ}
      (htext : query template phrase = .ok text)
      (hask : outcome (ask text) s = (.ok ⟨rows, some fault⟩, s'))
      (hfault : fault.isQuery = true) : Settles ask template phrase s [] s'

/-- How a fault escapes from a lookup: the template does not take the phrase, or a fault that is no
failed query comes from the query, at once or after some rows. -/
inductive Escapes (ask : String → Action σ Rows) (template phrase : String) (s : σ)
    (fault : Fault) : σ → Prop
  | template (htext : query template phrase = .error fault) :
      Escapes ask template phrase s fault s
  | refused {text : String} {s' : σ} (htext : query template phrase = .ok text)
      (hask : outcome (ask text) s = (.error fault, s')) (hfault : fault.isQuery = false) :
      Escapes ask template phrase s fault s'
  | broken {text : String} {rows : List Row} {s' : σ}
      (htext : query template phrase = .ok text)
      (hask : outcome (ask text) s = (.ok ⟨rows, some fault⟩, s'))
      (hfault : fault.isQuery = false) : Escapes ask template phrase s fault s'

theorem outcome_lookUp_eq {text : String} {answer : Except Fault Rows}
    (htext : query template phrase = .ok text) (hask : outcome (ask text) s = (answer, s')) :
    outcome (lookUp ask template phrase) s = (recordsOf answer, s') := by
  rw [lookUp, htext]
  simp only [outcome_bind, outcome_ofExcept, outcome_attempt, hask]

theorem outcome_lookUp_error (htext : query template phrase = .error fault) :
    outcome (lookUp ask template phrase) s = (.error fault, s) := by
  rw [lookUp, htext]
  rfl

theorem Settles.outcome_eq {es : List Entity} (h : Settles ask template phrase s es s') :
    outcome (lookUp ask template phrase) s = (.ok es, s') := by
  cases h with
  | found htext hask hrows =>
    rw [outcome_lookUp_eq htext hask, hrows.eq_filterMap]
    rfl
  | refused htext hask hfault =>
    rw [outcome_lookUp_eq htext hask]
    simp [recordsOf, hfault]
  | broken htext hask hfault =>
    rw [outcome_lookUp_eq htext hask]
    simp [recordsOf, Rows.all, hfault]

theorem Escapes.outcome_eq (h : Escapes ask template phrase s fault s') :
    outcome (lookUp ask template phrase) s = (.error fault, s') := by
  cases h with
  | template htext => exact outcome_lookUp_error htext
  | refused htext hask hfault =>
    rw [outcome_lookUp_eq htext hask]
    simp [recordsOf, hfault]
  | broken htext hask hfault =>
    rw [outcome_lookUp_eq htext hask]
    simp [recordsOf, Rows.all, hfault]

/-- **A lookup** settles, or a fault escapes from it. -/
theorem settles_or_escapes (ask : String → Action σ Rows) (template phrase : String) (s : σ) :
    (∃ es s', Settles ask template phrase s es s') ∨
      ∃ fault s', Escapes ask template phrase s fault s' := by
  cases htext : query template phrase with
  | error fault => exact .inr ⟨fault, s, .template htext⟩
  | ok text =>
    rcases hask : outcome (ask text) s with ⟨fault | ⟨rows, _ | fault⟩, s'⟩
    · cases hfault : fault.isQuery with
      | true => exact .inl ⟨[], s', .refused htext hask hfault⟩
      | false => exact .inr ⟨fault, s', .refused htext hask hfault⟩
    · exact .inl ⟨_, s', .found htext hask (collects_filterMap rows)⟩
    · cases hfault : fault.isQuery with
      | true => exact .inl ⟨[], s', .broken htext hask hfault⟩
      | false => exact .inr ⟨fault, s', .broken htext hask hfault⟩

theorem isQuery_template (flaw : Text.Template.Flaw) : (Fault.template flaw).isQuery = false := by
  show (if flaw.concernsArgument then Kind.type else Kind.value).isQuery = false
  split <;> rfl

/-- **What escapes** is no failed query. -/
theorem Escapes.isQuery_eq (h : Escapes ask template phrase s fault s') :
    fault.isQuery = false := by
  cases h with
  | template htext =>
    rw [query] at htext
    split at htext
    · exact absurd htext (by simp)
    · obtain rfl := Except.error.inj htext
      exact isQuery_template _
  | refused _ _ hfault | broken _ _ hfault => exact hfault

/-! ## One phrase after the other -/

theorem outcome_lookUpAll_of_skips {session : LabelSession} {rest : List String}
    (h : session.skips phrase = true) : outcome (lookUpAll ask (phrase :: rest)) (s, session)
      = outcome (lookUpAll ask rest) (s, session) := by
  simp only [lookUpAll, outcome_get_bind, h, if_true]

/-- **A phrase that is not passed over** is remembered and looked up, and if a fault escapes, the
others are not. -/
theorem outcome_lookUpAll_cons {session : LabelSession} (h : session.skips phrase = false)
    (rest : List String) (s : σ) : outcome (lookUpAll ask (phrase :: rest)) (s, session)
      = match outcome (lookUp ask session.template phrase) s with
        | (.ok es, s₁) =>
          let ending := outcome (lookUpAll ask rest) (s₁, session.remember phrase)
          (ending.1.map (es ++ ·), ending.2)
        | (.error fault, s₁) => (.error fault, s₁, session.remember phrase) := by
  simp only [lookUpAll, outcome_get_bind, h, Bool.false_eq_true, if_false]
  rw [outcome_modify_bind, outcome_bind, outcome_onFirst]
  rcases outcome (lookUp ask session.template phrase) s with ⟨fault | es, s₁⟩
  · rfl
  · exact outcome_map (es ++ ·) (lookUpAll ask rest) (s₁, session.remember phrase)

/-- How lookups settle one after the other, with the records of all. -/
inductive SettleAll (ask : String → Action σ Rows) (template : String) :
    List String → σ → List Entity → σ → Prop
  | nil {s : σ} : SettleAll ask template [] s [] s
  | cons {phrase : String} {rest : List String} {s s₁ s' : σ} {es others : List Entity}
      (h : Settles ask template phrase s es s₁) (hrest : SettleAll ask template rest s₁ others s') :
      SettleAll ask template (phrase :: rest) s (es ++ others) s'

/-- Where all lookups settle, no fault escapes from any of them. -/
theorem SettleAll.not_escapes {before after : List String} {es es₁ : List Entity} {s₁ s₂ : σ}
    (hbefore : SettleAll ask template before s es₁ s₁)
    (h : SettleAll ask template (before ++ phrase :: after) s es s') :
    ¬ Escapes ask template phrase s₁ fault s₂ := by
  intro hescape
  induction hbefore generalizing es with
  | nil =>
    cases h with
    | cons hsettles => exact absurd (hsettles.outcome_eq.symm.trans hescape.outcome_eq) (by simp)
  | cons hfirst _ ih =>
    cases h with
    | cons hfirst' hrest =>
      obtain ⟨-, rfl⟩ := Prod.mk.inj (hfirst'.outcome_eq.symm.trans hfirst.outcome_eq)
      exact ih hrest hescape

/-- How looking up phrases ends: with the records of all, or with the fault that escapes from one
of them. The phrases up to there are in the memory of the session, whatever became of them. -/
inductive Answers (ask : String → Action σ Rows) (session : LabelSession) (due : List String)
    (s : σ) : Except Fault (List Entity) × σ × LabelSession → Prop
  | all {es : List Entity} {s' : σ} (h : SettleAll ask session.template due s es s') :
      Answers ask session due s (.ok es, s', session.recalling due)
  | escaped {before after : List String} {phrase : String} {es : List Entity} {fault : Fault}
      {s₁ s' : σ} (hdue : due = before ++ phrase :: after)
      (hbefore : SettleAll ask session.template before s es s₁)
      (hescape : Escapes ask session.template phrase s₁ fault s')
      (hfault : fault.isQuery = false) :
      Answers ask session due s (.error fault, s', session.recalling (before ++ [phrase]))

theorem recalling_remember (session : LabelSession) (phrase : String) (phrases : List String) :
    (session.remember phrase).recalling phrases = session.recalling (phrase :: phrases) := by
  simp only [recalling, remember, List.append_assoc, List.map_cons, List.singleton_append]

/-- **One phrase more**: its lookup settles before those of the others. -/
theorem Answers.cons {session : LabelSession} {due : List String} {es : List Entity} {s₁ : σ}
    {ending : Except Fault (List Entity) × σ × LabelSession}
    (h : Settles ask session.template phrase s es s₁)
    (hrest : Answers ask (session.remember phrase) due s₁ ending) :
    Answers ask session (phrase :: due) s (ending.1.map (es ++ ·), ending.2) := by
  cases hrest with
  | all hall =>
    rw [recalling_remember]
    exact .all (.cons h hall)
  | @escaped before after phrase' _ _ _ _ hdue hbefore hescape hfault =>
    have hsplit : phrase :: due = (phrase :: before) ++ phrase' :: after := by rw [hdue]; rfl
    rw [recalling_remember]
    exact .escaped hsplit (.cons h hbefore) hescape hfault

/-- **Looking up phrases** is looking up the first occurrences of those that are long enough. -/
theorem answers_lookUpAll (ask : String → Action σ Rows) : ∀ (phrases : List String)
    (session : LabelSession) (s : σ),
    Answers ask session (firsts session.seen (phrases.filter session.isLong)) s
      (outcome (lookUpAll ask phrases) (s, session))
  | [], session, s => by
      have hnil : session.recalling [] = session := by simp [recalling]
      have hrun : outcome (lookUpAll ask []) (s, session)
          = (.ok [], s, session.recalling []) := by
        rw [hnil]
        rfl
      rw [hrun]
      exact .all .nil
  | phrase :: rest, session, s => by
      have hskips := skips_eq session phrase
      cases hlong : session.isLong phrase with
      | false =>
        rw [outcome_lookUpAll_of_skips (by simp [hskips, hlong]),
          List.filter_cons_of_neg (by simp [hlong])]
        exact answers_lookUpAll ask rest session s
      | true =>
        rw [List.filter_cons_of_pos hlong]
        by_cases hmem : Text.lowerCase phrase ∈ session.seen
        · rw [outcome_lookUpAll_of_skips (by simp [hskips, hmem]), firsts_cons_of_mem hmem]
          exact answers_lookUpAll ask rest session s
        · rw [outcome_lookUpAll_cons (by simp [hskips, hlong, hmem]), firsts_cons_of_notMem hmem]
          rcases settles_or_escapes ask session.template phrase s with ⟨es, s₁, hsettles⟩ |
            ⟨fault, s₁, hescape⟩
          · rw [hsettles.outcome_eq]
            exact (answers_lookUpAll ask rest (session.remember phrase) s₁).cons hsettles
          · rw [hescape.outcome_eq]
            exact .escaped (List.nil_append _).symm .nil hescape hescape.isQuery_eq

theorem answers_checkpoint (ask : String → Action σ Rows) (session : LabelSession)
    (window : List String) (s : σ) :
    Answers ask session (firsts session.seen (session.candidates window)) s
      (outcome (checkpoint ask window) (s, session)) := by
  rw [candidates_eq]
  exact answers_lookUpAll ask _ session s

/-! ## Whether a failure stays with its phrase -/

/-- Whether a fault escapes from the lookup of one of some phrases, after those before it have
settled. -/
def EscapesFrom (ask : String → Action σ Rows) (template : String) (due : List String) (s : σ) :
    Prop :=
  ∃ before phrase after es s₁ fault s', due = before ++ phrase :: after ∧
    SettleAll ask template before s es s₁ ∧ Escapes ask template phrase s₁ fault s'

/-- **A checkpoint** looks up the first occurrences of the phrases that begin its window and are
long enough. It gives the records of all whose lookup settles with some, in order, and remembers
them all — unless a fault escapes from one of them. Then it ends with this fault, which is no failed
query, and gives no records. -/
theorem checkpoint_settles (ask : String → Action σ Rows) (session : LabelSession)
    (window : List String) (s : σ) :
    let due := firsts session.seen (session.candidates window)
    Answers ask session due s (outcome (checkpoint ask window) (s, session)) ∧
      ((∃ es, (outcome (checkpoint ask window) (s, session)).1 = .ok es) ↔
        ¬ EscapesFrom ask session.template due s) := by
  have hanswers := answers_checkpoint ask session window s
  refine ⟨hanswers, ?_⟩
  generalize outcome (checkpoint ask window) (s, session) = ending at hanswers
  cases hanswers with
  | all hall =>
    refine iff_of_true ⟨_, rfl⟩ ?_
    rintro ⟨before, phrase, after, es, s₁, fault, s', hdue, hbefore, hescape⟩
    rw [hdue] at hall
    exact hbefore.not_escapes hall hescape
  | escaped hdue hbefore hescape hfault =>
    refine iff_of_false (by simp) fun hnone => hnone ?_
    exact ⟨_, _, _, _, _, _, _, hdue, hbefore, hescape⟩

-- An escaped percent sign counts as the one place for the phrase, and then takes no phrase.
example : LabelFeeder.placeholders "%%s".toList = 1 ∧ (query "%%s" "storm").isOk = false := by
  decide +kernel

end LabelSession

end Gazetteer
