import Gazetteer.Proofs.Feeder.Lookups

/-!
# Proofs/Feeder/LookedUpOnce — each phrase is looked up once in a document

A session goes from checkpoint to checkpoint through a document. If its template takes all phrases,
and nothing but failed queries comes from its connection, no fault escapes from a lookup, and all
checkpoints succeed (`checkpoints_once`): the queries of the whole document are those of the first
occurrences among all phrases that begin a window and are long enough, and each checkpoint gives the
records of its own queries.
-/

namespace Gazetteer.LabelSession

open Gazetteer.Action

variable {σ : Type} {ask : String → Action σ Rows} {template : String} {text : String → String}

/-! ## Queries on record -/

/-- Asks a query, and has it on record. -/
def noting (ask : String → Action σ Rows) (query : String) : Action (σ × List String) Rows := do
  modify fun (s, queries) => (s, queries ++ [query])
  onFirst (ask query)

theorem outcome_noting (ask : String → Action σ Rows) (query : String) (s : σ)
    (queries : List String) : outcome (noting ask query) (s, queries)
      = ((outcome (ask query) s).1, (outcome (ask query) s).2, queries ++ [query]) := by
  rw [noting, outcome_modify_bind, outcome_onFirst]

/-- Whether a template takes every phrase, and what comes of it. -/
def Formats (template : String) (text : String → String) : Prop :=
  ∀ phrase, query template phrase = .ok (text phrase)

/-- Whether all faults that come from queries, at once or after some rows, are failed queries. -/
structure OnlyFails (ask : String → Action σ Rows) : Prop where
  refused : ∀ query s fault, (outcome (ask query) s).1 = .error fault → fault.isQuery = true
  broken : ∀ query s rows fault, (outcome (ask query) s).1 = .ok rows →
    rows.failure = some fault → fault.isQuery = true

theorem OnlyFails.noting (h : OnlyFails ask) : OnlyFails (noting ask) where
  refused query s fault hfault := by
    rw [outcome_noting] at hfault
    exact h.refused query s.1 fault hfault
  broken query s rows fault hrows hfault := by
    rw [outcome_noting] at hrows
    exact h.broken query s.1 rows fault hrows hfault

/-- **No fault escapes** where there are none but failed queries. -/
theorem OnlyFails.not_escapes (h : OnlyFails ask) (htemplate : Formats template text)
    {phrase : String} {s s' : σ} {fault : Fault} : ¬ Escapes ask template phrase s fault s' := by
  intro hescape
  cases hescape with
  | template htext => exact absurd (htext.symm.trans (htemplate phrase)) (by simp)
  | refused _ hask hfault =>
    exact absurd (h.refused _ _ _ (congrArg Prod.fst hask)) (by simp [hfault])
  | broken _ hask hfault =>
    exact absurd (h.broken _ _ _ _ (congrArg Prod.fst hask) rfl) (by simp [hfault])

/-- A lookup that settles has made its query. -/
theorem Settles.queries_eq (htemplate : Formats template text) {phrase : String}
    {p p' : σ × List String} {es : List Entity} (h : Settles (noting ask) template phrase p es p') :
    p'.2 = p.2 ++ [text phrase] := by
  have hasked : ∀ {query : String} {answer : Except Fault Rows},
      LabelSession.query template phrase = .ok query →
      outcome (noting ask query) p = (answer, p') → p'.2 = p.2 ++ [text phrase] := by
    intro query answer hquery hask
    obtain rfl := Except.ok.inj (hquery.symm.trans (htemplate phrase))
    rw [outcome_noting] at hask
    exact (congrArg (·.2.2) hask).symm
  cases h with
  | found htext hask | refused htext hask | broken htext hask => exact hasked htext hask

/-- **Lookups that settle** have made one query each, in order. -/
theorem SettleAll.queries_eq (htemplate : Formats template text) {due : List String}
    {p p' : σ × List String} {es : List Entity} (h : SettleAll (noting ask) template due p es p') :
    p'.2 = p.2 ++ due.map text := by
  induction h with
  | nil => rw [List.map_nil, List.append_nil]
  | cons hsettles _ ih =>
    rw [ih, hsettles.queries_eq htemplate, List.map_cons, List.append_assoc, List.singleton_append]

/-! ## A whole document -/

/-- What the checkpoints for some windows look up and give. Each one makes the queries for the first
occurrences in its window of the phrases that are not in the memory so far, and gives the records of
these queries. -/
inductive Passes (ask : String → Action σ Rows) (text : String → String) :
    LabelSession → List (List String) → σ × List String →
      List (List Entity) → σ × List String → LabelSession → Prop
  | done {session : LabelSession} {p : σ × List String} : Passes ask text session [] p [] p session
  | checkpoint {session session' : LabelSession} {window due queries : List String} {s s₁ : σ}
      {rest : List (List String)} {es : List Entity} {others : List (List Entity)}
      {p' : σ × List String} (hdue : due = firsts session.seen (session.candidates window))
      (hsettle : SettleAll (noting ask) session.template due (s, queries) es
        (s₁, queries ++ due.map text))
      (hrest : Passes ask text (session.recalling due) rest (s₁, queries ++ due.map text) others
        p' session') :
      Passes ask text session (window :: rest) (s, queries) (es :: others) p' session'

/-- The phrases that a document looks up in its windows: the first occurrences among all that begin
a window and are long enough. -/
def due (session : LabelSession) (windows : List (List String)) : List String :=
  firsts session.seen (windows.flatMap session.candidates)

theorem recalling_nil (session : LabelSession) : session.recalling [] = session := by
  simp [recalling]

theorem recalling_append (session : LabelSession) (phrases rest : List String) :
    session.recalling (phrases ++ rest) = (session.recalling phrases).recalling rest := by
  simp only [recalling, List.map_append, List.append_assoc]

/-- What is due in a window first is not due again in the others. -/
theorem due_cons (session : LabelSession) (window : List String) (windows : List (List String)) :
    session.due (window :: windows) = firsts session.seen (session.candidates window)
      ++ (session.recalling (firsts session.seen (session.candidates window))).due windows := by
  rw [due, List.flatMap_cons, firsts_append]
  rfl

/-- **One window after the other**: every checkpoint succeeds. -/
theorem exists_passes (hask : OnlyFails ask) : ∀ (windows : List (List String))
    {session : LabelSession} (s : σ) (queries : List String), Formats session.template text →
    ∃ records s', Passes ask text session windows (s, queries) records
        (s', queries ++ (session.due windows).map text) (session.recalling (session.due windows)) ∧
      outcome (windows.mapM (checkpoint (noting ask))) ((s, queries), session)
        = (.ok records, (s', queries ++ (session.due windows).map text),
            session.recalling (session.due windows))
  | [], session, s, queries, _ => by
      have hdue : session.due [] = [] := rfl
      rw [hdue, recalling_nil, List.map_nil, List.append_nil]
      exact ⟨[], s, .done, rfl⟩
  | window :: windows, session, s, queries, htemplate => by
      rw [List.mapM_cons, outcome_bind]
      have hanswers := answers_checkpoint (noting ask) session window (s, queries)
      rcases hrun : outcome (checkpoint (noting ask) window) ((s, queries), session) with
        ⟨result, p, session'⟩
      rw [hrun] at hanswers
      cases hanswers with
      | escaped _ _ hescape => exact absurd hescape (hask.noting.not_escapes htemplate)
      | @all es _ hsettle =>
        obtain ⟨s₁, queries₁⟩ := p
        obtain rfl : queries₁ = _ := hsettle.queries_eq htemplate
        have htemplate' : Formats (session.recalling
            (firsts session.seen (session.candidates window))).template text := htemplate
        obtain ⟨records, s', hpasses, hrest⟩ := exists_passes hask windows s₁
          (queries ++ (firsts session.seen (session.candidates window)).map text) htemplate'
        rw [due_cons, recalling_append, List.map_append, ← List.append_assoc]
        refine ⟨es :: records, s', .checkpoint rfl hsettle hpasses, ?_⟩
        dsimp only
        rw [outcome_bind, hrest]
        rfl

/-- **Each phrase is looked up once in a document.** -/
theorem checkpoints_once {session : LabelSession} (hask : OnlyFails ask)
    (htemplate : Formats session.template text) (windows : List (List String)) (s : σ) :
    ∃ records s', Passes ask text session windows (s, []) records
        (s', (session.due windows).map text) (session.recalling (session.due windows)) ∧
      outcome (windows.mapM (checkpoint (noting ask))) ((s, []), session)
        = (.ok records, (s', (session.due windows).map text),
            session.recalling (session.due windows)) :=
  exists_passes hask windows s [] htemplate

/-- A session that passes over single letters and looks up two lexemes at most. -/
def ferrySession : LabelSession where
  template := "%s"
  minLength := 2
  maxLexemes := some 2

/-- A connection on which the first query fails; it counts the queries. -/
def ferryAsk (_ : String) : Action Nat Rows := fun n =>
  match n with
  | 0 => .error .connectionClosed 1
  | n + 1 => .ok ⟨[[(.string "a", .string "i"), (.string "b", .string "c"),
      (.string "d", .string "Malta")]], none⟩ (n + 2)

theorem onlyFails_ferryAsk : OnlyFails ferryAsk where
  refused _ s fault h := by
    cases s with
    | zero =>
      obtain rfl := Except.error.inj h
      rfl
    | succ n => exact absurd h (by simp [ferryAsk, outcome])
  broken _ s rows fault h hfailure := by
    cases s with
    | zero => exact absurd h (by simp [ferryAsk, outcome])
    | succ n =>
      obtain rfl := Except.ok.inj h
      exact absurd hfailure (by simp)

theorem formats_ferrySession : Formats ferrySession.template Sparql.literalOf := by
  intro phrase
  have hfill : Text.Template.fill ferrySession.template.toList (Sparql.literal phrase.toList)
      = .ok (Sparql.literal phrase.toList) := by
    have htemplate : ferrySession.template.toList = ['%', 's'] := rfl
    rw [htemplate]
    simp [Text.Template.fill, Text.Template.fillFrom, Text.Template.next, Text.Template.amongFlags,
      Text.Template.digit?, Text.Template.afterWidth, Text.Template.afterPrecision,
      Text.Template.convert, Text.Template.Directive.show, Text.Template.Directive.pad, Except.map]
  rw [query, hfill]
  rfl

theorem checkpoints_once_ferry : ∃ records s',
    outcome ([["a", "Port", "of"], ["Port"], ["port", "a"]].mapM (checkpoint (noting ferryAsk)))
        ((0, []), ferrySession)
      = (.ok records, (s', ["\"a Port\"", "\"Port\"", "\"port a\""]),
          ferrySession.recalling ["a Port", "Port", "port a"]) := by
  have hdue : ferrySession.due [["a", "Port", "of"], ["Port"], ["port", "a"]]
      = ["a Port", "Port", "port a"] := by decide +kernel
  obtain ⟨records, s', -, hrun⟩ := checkpoints_once onlyFails_ferryAsk formats_ferrySession
    [["a", "Port", "of"], ["Port"], ["port", "a"]] 0
  rw [hdue] at hrun
  exact ⟨records, s', hrun⟩

end Gazetteer.LabelSession
