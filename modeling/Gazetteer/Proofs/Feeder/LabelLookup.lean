import Gazetteer.Annotator.AtSite
import Gazetteer.Proofs.Annotator.Execution
import Gazetteer.Proofs.Feed.Listening
import Gazetteer.Proofs.Feeder.Session
import Gazetteer.Proofs.Repository.Backend

/-!
# Proofs/Feeder/LabelLookup — the feeder that looks up labels, as a machine

A label feeder has a session for a document, and the session an open connection. What it adds at a
checkpoint is said by a machine whose only state is the memory of the session: the phrases that are
not in the memory are looked up, the shortest first, and then remembered (`lookedUp`).

If the connection gives the records of every phrase, `label_follows` says that the feeder does what
the machine does; `begin_label` opens the session.
-/

namespace Gazetteer

/-! ## The machine -/

/-- The records of the phrases that have not been looked up before, and the memory afterwards. -/
def lookedUp (records : String → List Entity) : List String → List String →
    List Entity × List String
  | [], seen => ([], seen)
  | phrase :: rest, seen =>
    if Text.lowerCase phrase ∈ seen then lookedUp records rest seen
    else
      let others := lookedUp records rest (seen ++ [Text.lowerCase phrase])
      (records phrase ++ others.1, others.2)

/-- What a session answers when words lie ahead. -/
def labelAnswer (records : String → List Entity) (window : List String) (seen : List String) :
    List Entity × List String :=
  lookedUp records (LabelSession.phrases window.length window) seen

theorem mem_lookedUp {records : String → List Entity} {P : Entity → Prop}
    (h : ∀ p, ∀ e ∈ records p, P e) : ∀ phrases seen : List String,
    ∀ e ∈ (lookedUp records phrases seen).1, P e
  | [], _, e, he => absurd he (by simp [lookedUp])
  | p :: rest, seen, e, he => by
      rw [lookedUp] at he
      split at he
      · exact mem_lookedUp h rest seen e he
      · rcases List.mem_append.mp he with he | he
        · exact h p e he
        · exact mem_lookedUp h rest _ e he

theorem mem_labelAnswer {records : String → List Entity} {P : Entity → Prop}
    (h : ∀ p, ∀ e ∈ records p, P e) (window seen : List String) :
    ∀ e ∈ (labelAnswer records window seen).1, P e := mem_lookedUp h _ seen

/-- A phrase of words that can be looked up. -/
structure IsPhrase (s : String) : Prop where
  exists_words : ∃ words, words ≠ [] ∧ (∀ w ∈ words, Lexeme.IsWord w) ∧ s = Alias.phrase words

theorem intercalate_eq_phrase : ∀ ws : List String,
    String.intercalate " " ws = Alias.phrase (ws.map String.toList)
  | [] => rfl
  | [w] => by simp [Alias.phrase, Text.joinWith, String.intercalate_singleton]
  | w :: v :: rest => by
      have ih := intercalate_eq_phrase (v :: rest)
      rw [String.intercalate_cons_cons, ih]
      apply String.toList_injective
      simp [Alias.phrase, Text.joinWith]

/-- **The phrases of a window** are phrases of words. -/
theorem isPhrase_of_mem_phrases {window : List String}
    (hwords : ∀ w ∈ window, Lexeme.IsWord w.toList) {n : Nat} (hn : n ≤ window.length) :
    ∀ p ∈ LabelSession.phrases n window, IsPhrase p := by
  intro p hp
  obtain ⟨i, hi, rfl⟩ := List.mem_map.mp hp
  have hlen : i < window.length := Nat.lt_of_lt_of_le (List.mem_range.mp hi) hn
  refine ⟨(window.take (i + 1)).map String.toList, ?_, ?_, intercalate_eq_phrase _⟩
  · have hne : window ≠ [] := List.ne_nil_of_length_pos (Nat.zero_lt_of_lt hlen)
    simpa using hne
  · intro w hw
    obtain ⟨v, hv, rfl⟩ := List.mem_map.mp hw
    exact hwords v (List.mem_of_mem_take hv)

theorem IsPhrase.length_pos {p : String} (h : IsPhrase p) : 0 < p.length := by
  obtain ⟨words, hne, hwords, rfl⟩ := h.exists_words
  have hnil := Text.joinWith_ne_nil hne fun w hw => (hwords w hw).ne_nil
  rw [Alias.phrase, String.length_ofList]
  exact List.length_pos_iff.mpr hnil

/-! ## The session -/

/-- Whether queries about phrases are answered, each with the records of its phrase. -/
def AnswersPhrases (answer : String → Except Fault Rows) (template : String)
    (records : String → List Entity) : Prop :=
  ∀ p, IsPhrase p → ∃ query rows, LabelSession.query template p = .ok query ∧
    answer query = .ok ⟨rows, none⟩ ∧ rows.filterMap Row.entity? = records p

section Session

variable {answer : String → Except Fault Rows} {template : String} {minLength : Int}
variable {records : String → List Entity} {connection : ConnectionId} {site : Site}

theorem lookUp_ok (hanswer : AnswersPhrases answer template records)
    (hsite : site.Serves connection answer) {p : String} (hp : IsPhrase p) :
    ∃ site', LabelSession.lookUp (fun query => Site.evaluate connection query) template p site
        = .ok (records p) site' ∧ site'.Serves connection answer := by
  obtain ⟨query, rows, hquery, hrows, hrecords⟩ := hanswer p hp
  obtain ⟨site', hrun, hsite'⟩ := hsite.evaluate hrows
  have hrecordsOf : LabelSession.recordsOf (.ok ⟨rows, none⟩) = .ok (records p) :=
    congrArg Except.ok hrecords
  refine ⟨site', ?_, hsite'⟩
  rw [LabelSession.lookUp, hquery, Action.bind_ok (Action.ofExcept_ok query site),
    Action.bind_ok (Action.attempt_ok hrun), hrecordsOf, Action.ofExcept_ok]

theorem skips_iff (hmin : minLength ≤ 1) {p : String} (hp : IsPhrase p) (seen : List String) :
    LabelSession.skips ⟨template, minLength, none, seen⟩ p = true ↔ Text.lowerCase p ∈ seen := by
  have hpos := hp.length_pos
  have hlen : ¬ (p.length : Int) < minLength := by omega
  simp [LabelSession.skips, hlen]

/-- **Run**: phrases looked up one after the other give what the machine says. -/
theorem lookUpAll_ok (hanswer : AnswersPhrases answer template records) (hmin : minLength ≤ 1) :
    ∀ {phrases : List String}, (∀ p ∈ phrases, IsPhrase p) → ∀ (seen : List String) {site : Site},
      site.Serves connection answer →
      ∃ site', LabelSession.lookUpAll (fun query => Site.evaluate connection query) phrases
          (site, ⟨template, minLength, none, seen⟩)
          = .ok (lookedUp records phrases seen).1
            (site', ⟨template, minLength, none, (lookedUp records phrases seen).2⟩) ∧
        site'.Serves connection answer
  | [], _, seen, site, hsite => ⟨site, rfl, hsite⟩
  | p :: rest, hphrases, seen, site, hsite => by
      have hp := hphrases p List.mem_cons_self
      have hrest : ∀ q ∈ rest, IsPhrase q := fun q hq => hphrases q (List.mem_cons_of_mem p hq)
      rw [LabelSession.lookUpAll, Action.get_bind, lookedUp]
      by_cases hseen : Text.lowerCase p ∈ seen
      · simp only [if_pos ((skips_iff hmin hp seen).mpr hseen), if_pos hseen]
        exact lookUpAll_ok hanswer hmin hrest seen hsite
      · simp only [if_neg (mt (skips_iff hmin hp seen).mp hseen), if_neg hseen]
        obtain ⟨site₁, hrun₁, hsite₁⟩ := lookUp_ok hanswer hsite hp
        obtain ⟨site₂, hrun₂, hsite₂⟩ :=
          lookUpAll_ok hanswer hmin hrest (seen ++ [Text.lowerCase p]) hsite₁
        refine ⟨site₂, ?_, hsite₂⟩
        rw [Action.modify_bind]
        refine (Action.bind_ok (Action.onFirst_ok hrun₁ _) _).trans ?_
        exact (Action.bind_ok hrun₂ _).trans rfl

theorem checkpoint_ok (hanswer : AnswersPhrases answer template records) (hmin : minLength ≤ 1)
    {window : List String} (hwords : ∀ w ∈ window, Lexeme.IsWord w.toList) (seen : List String)
    (hsite : site.Serves connection answer) :
    ∃ site', LabelSession.checkpoint (fun query => Site.evaluate connection query) window
        (site, ⟨template, minLength, none, seen⟩)
        = .ok (labelAnswer records window seen).1
          (site', ⟨template, minLength, none, (labelAnswer records window seen).2⟩) ∧
      site'.Serves connection answer :=
  lookUpAll_ok hanswer hmin (isPhrase_of_mem_phrases hwords (Nat.le_refl _)) seen hsite

end Session

/-! ## The feeder -/

/-- The states of a feeder in the middle of a document, by what its session remembers. -/
structure Looking (document : Document) (connection : ConnectionId) (template : String)
    (minLength : Int) (answer : String → Except Fault Rows) (s : Site × Feeder)
    (seen : List String) : Prop where
  exists_feeder : ∃ feeder : LabelFeeder, s.2 = .label feeder ∧
    feeder.sessions.find? document = some (connection, ⟨template, minLength, none, seen⟩)
  serves : s.1.Serves connection answer

section Feeder

variable {document : Document} {connection : ConnectionId} {template : String} {minLength : Int}
variable {answer : String → Except Fault Rows} {records : String → List Entity}
variable {s : Site × Feeder} {seen : List String}

theorem onLabelSessions_ok {α : Type} {feeder : LabelFeeder} {site site' : Site} {a : α}
    {action : Action (Site × Sessions (ConnectionId × LabelSession)) α}
    {sessions : Sessions (ConnectionId × LabelSession)}
    (h : action (site, feeder.sessions) = .ok a (site', sessions)) (old : Feeder) :
    Feeder.onLabelSessions feeder action (site, old)
      = .ok a (site', .label { feeder with sessions }) :=
  Action.zoom_ok h rfl

/-- **Step**: at a checkpoint the feeder gives what the machine says. -/
theorem Looking.checkpoint (h : Looking document connection template minLength answer s seen)
    (hanswer : AnswersPhrases answer template records) (hmin : minLength ≤ 1)
    {window : List String} (hwords : ∀ w ∈ window, Lexeme.IsWord w.toList) :
    ∃ s', Feeder.checkpoint document window s = .ok (labelAnswer records window seen).1 s' ∧
      Looking document connection template minLength answer s'
        (labelAnswer records window seen).2 := by
  obtain ⟨site, feeder⟩ := s
  obtain ⟨⟨feeder, rfl, hsession⟩, hsite⟩ := h
  cases window with
  | nil => exact ⟨(site, .label feeder), rfl, ⟨feeder, rfl, hsession⟩, hsite⟩
  | cons w rest =>
    obtain ⟨site', hrun, hsite'⟩ := checkpoint_ok hanswer hmin hwords seen hsite
    obtain ⟨session, hnext⟩ : ∃ session : LabelSession,
        session = ⟨template, minLength, none, (labelAnswer records (w :: rest) seen).2⟩ := ⟨_, rfl⟩
    rw [← hnext] at hrun
    have hops : (feeder.ops.checkpoint (w :: rest))
        (site, (connection, ⟨template, minLength, none, seen⟩))
        = .ok (labelAnswer records (w :: rest) seen).1 (site', (connection, session)) := by
      simp only [LabelFeeder.ops, Action.get_bind]
      exact Action.zoom_ok hrun rfl
    have hsessions : Sessions.checkpoint feeder.ops document (w :: rest) (site, feeder.sessions)
        = .ok (labelAnswer records (w :: rest) seen).1
          (site', feeder.sessions.update document (connection, session)) := by
      simp only [Sessions.checkpoint, List.isEmpty_cons, Bool.false_eq_true, if_false,
        Action.get_bind, hsession]
      exact Action.zoom_ok hops rfl
    refine ⟨(site', .label { feeder with
      sessions := feeder.sessions.update document (connection, session) }), ?_, ?_⟩
    · exact onLabelSessions_ok hsessions (.label feeder)
    · refine ⟨⟨_, rfl, ?_⟩, hsite'⟩
      rw [← hnext]
      exact Sessions.find?_update document _ hsession

/-- **Run**: the feeder does in a document what the machine does. -/
theorem label_follows (hanswer : AnswersPhrases answer template records) (hmin : minLength ≤ 1)
    (htexts : ∀ p, ∀ e ∈ records p, e.key?.isSome) (document : Document) :
    Feeder.feeding.Follows document (labelAnswer records)
      (Looking document connection template minLength answer) where
  ahead {s seen} h window hwords d := by
    obtain ⟨s', hrun, h'⟩ := h.checkpoint hanswer hmin hwords
    obtain ⟨d', hd'⟩ := Dictionary.exists_addAll (mem_labelAnswer htexts window seen) d
    refine ⟨s', d', ?_, hd', h'⟩
    show Feeder.feedAhead Dictionary.listener document window (s, d) = _
    rw [Feeder.feedAhead, Action.bind_ok (Action.onFirst_ok hrun d)]
    exact Action.onSecond_ok (handAll_listener_iff.mpr hd') s'
  finish {s seen} h := by
    obtain ⟨site, feeder⟩ := s
    obtain ⟨⟨feeder, rfl, hsession⟩, hsite⟩ := h
    obtain ⟨site', hclose⟩ := Site.exists_closeConnection site connection
    have hsessions : Sessions.finish feeder.ops document (site, feeder.sessions)
        = .ok () (site', feeder.sessions.erase document) := by
      simp only [Sessions.finish, Action.get_bind, Action.modify_bind, hsession]
      exact Action.onFirst_ok hclose _
    exact ⟨_, onLabelSessions_ok hsessions (.label feeder)⟩

/-- **A document that begins** has a session without a memory. -/
theorem begin_label {feeder : LabelFeeder} {repository : RepositoryId} {site site₁ : Site}
    (hrepository : feeder.repository = some repository) (hmax : feeder.maxLexemes = none)
    (hconnect : Site.connect repository site = .ok connection site₁)
    (hsessions : ∀ x ∈ feeder.sessions, x.2.1.index < site.connections.size)
    (document : Document) :
    ∃ s', Feeder.begin document (site, .label feeder) = .ok true s' ∧
      Looking document connection feeder.template feeder.minLength (site₁.replyAt connection) s'
        [] := by
  obtain ⟨hnew, hserves⟩ := Site.connect_opens hconnect
  obtain ⟨session, hsession⟩ : ∃ session : LabelSession,
    session = ⟨feeder.template, feeder.minLength, none, []⟩ := ⟨_, rfl⟩
  have hopen : feeder.ops.openFor document site = .ok (some (connection, session)) site₁ := by
    simp only [LabelFeeder.ops, hrepository]
    rw [Action.bind_ok hconnect, hmax, hsession]
    rfl
  obtain ⟨site₂, hbegin, hserves₂⟩ : ∃ site₂,
      Sessions.begin feeder.ops document (site, feeder.sessions)
        = .ok true (site₂, feeder.sessions.erase document ++ [(document.key,
          (connection, session))]) ∧ site₂.Serves connection (site₁.replyAt connection) := by
    rw [Sessions.begin, Action.bind_ok (Action.onFirst_ok hopen feeder.sessions)]
    simp only [Action.get_bind, Action.modify_bind]
    cases hprevious : feeder.sessions.find? document with
    | none => exact ⟨site₁, rfl, hserves⟩
    | some previous =>
      have hold := hsessions _ (Sessions.mem_of_find? hprevious)
      have hne : previous.1.index ≠ connection.index :=
        Nat.ne_of_lt (Nat.lt_of_lt_of_le hold hnew)
      obtain ⟨site₂, hclose, hserves₂⟩ := hserves.closeConnection_of_ne hne
      exact ⟨site₂, (Action.bind_ok (Action.onFirst_ok hclose _) _).trans rfl, hserves₂⟩
  refine ⟨_, onLabelSessions_ok hbegin (.label feeder), ⟨_, rfl, ?_⟩, hserves₂⟩
  rw [← hsession]
  exact Sessions.find?_erase_append _ _ _

end Feeder

end Gazetteer
