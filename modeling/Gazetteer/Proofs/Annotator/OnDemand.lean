import Gazetteer.Proofs.Feeder.LabelLookup
import Gazetteer.Proofs.Text.Template

/-!
# Proofs/Annotator/OnDemand — records that are looked up when their labels lie ahead

A dictionary can be filled with all records before any document is read, or stay empty while a label
feeder looks up what may come next. Where the feeder sees as many lexemes ahead as the longest label
has, both find the same: what the feeder has added so far holds, of every key that was looked up,
all the records, once and in order (`Stocked`), and at each lexeme every key that may match there
has been looked up (`key_mem_answered`).
-/

namespace Gazetteer

/-- An annotation without its id. -/
def Annotation.content (m : Annotation) : String × Int × Int × List (String × Value) :=
  (m.type, m.start, m.stop, m.features)

/-- A record with nothing left out, whose label is a phrase of at most so many words. -/
structure Entity.HasPhrase (e : Entity) (limit : Int) : Prop where
  inst_ne_null : e.inst ≠ .null
  cls_ne_null : e.cls ≠ .null
  exists_words : ∃ words, words ≠ [] ∧ (∀ w ∈ words, Lexeme.IsWord w) ∧
    (words.length : Int) ≤ limit ∧ e.label = .string (Alias.phrase words)

theorem Entity.HasPhrase.exists_key? {e : Entity} {limit : Int} (h : e.HasPhrase limit) :
    ∃ key, e.key? = some key ∧ (Alias.keySize key : Int) ≤ limit := by
  obtain ⟨words, hne, hwords, hlimit, hlabel⟩ := h.exists_words
  refine ⟨Alias.keyOfWords words, ?_, ?_⟩
  · rw [Entity.key?_of_label hlabel, Alias.key_phrase hwords]
  · rwa [Alias.keySize_keyOfWords hne hwords]

/-- The label of a record in lower case, if it is a text. -/
def Entity.lowerLabel? (e : Entity) : Option String :=
  match e.label with
  | .string label => some (Text.lowerCase label)
  | _ => none

/-- The three columns of a record. -/
def Entity.columns (e : Entity) : List Value := [e.inst, e.cls, e.label]

theorem Entity.HasPhrase.lowerLabel?_eq {e : Entity} {limit : Int} (h : e.HasPhrase limit) :
    e.lowerLabel? = e.key? := by
  obtain ⟨words, -, hwords, -, hlabel⟩ := h.exists_words
  rw [lowerLabel?, hlabel, key?_of_label hlabel]
  exact congrArg some ((Alias.lowerCase_phrase words).trans (Alias.key_phrase hwords).symm)

theorem Entity.HasPhrase.label_ne_null {e : Entity} {limit : Int} (h : e.HasPhrase limit) :
    e.label ≠ .null := by
  obtain ⟨words, -, -, -, hlabel⟩ := h.exists_words
  simp [hlabel]

theorem Row.entity?_of_columns {row : Row} {e : Entity} {limit : Int} (h : e.HasPhrase limit)
    (hrow : row.values = e.columns) : row.entity? = some e := by
  have hinst := h.inst_ne_null
  have hcls := h.cls_ne_null
  have hlabel := h.label_ne_null
  obtain ⟨inst, cls, label⟩ := e
  rw [entity?, hrow]
  simp only [Entity.columns, List.take_succ_cons, List.take_zero]

/-- **Three-column rows stand for the records they were made from.** -/
theorem Row.filterMap_entity? {limit : Int} : ∀ {rows : List Row} {es : List Entity},
    rows.map Row.values = es.map Entity.columns → (∀ e ∈ es, e.HasPhrase limit) →
      rows.filterMap Row.entity? = es
  | [], [], _, _ => rfl
  | row :: rows, e :: es, h, hes => by
      obtain ⟨hrow, hrows⟩ := List.cons.inj h
      rw [List.filterMap_cons_some (entity?_of_columns (hes e List.mem_cons_self) hrow),
        filterMap_entity? hrows fun f hf => hes f (List.mem_cons_of_mem e hf)]

/-- The records that a phrase stands for. -/
def recordsWith (R : List Entity) (phrase : String) : List Entity :=
  R.filter fun e => e.key? == some (Text.lowerCase phrase)

/-- What has been added holds the records of every key looked up, and no others. -/
def Stocked (R received : List Entity) (seen : List String) : Prop :=
  ∀ key, received.filter (fun e => e.key? == some key)
    = if key ∈ seen then R.filter (fun e => e.key? == some key) else []

theorem stocked_nil (R : List Entity) : Stocked R [] [] := fun _ => by simp

/-- **Step**: a phrase that is looked up brings the records of its key. -/
theorem Stocked.remember {R received : List Entity} {seen : List String}
    (h : Stocked R received seen) {phrase : String} (hnew : Text.lowerCase phrase ∉ seen) :
    Stocked R (received ++ recordsWith R phrase) (seen ++ [Text.lowerCase phrase]) := by
  intro key
  rw [List.filter_append, h key, recordsWith, List.filter_filter]
  by_cases hkey : key = Text.lowerCase phrase
  · subst hkey
    rw [if_neg hnew, if_pos (by simp), List.nil_append]
    exact List.filter_congr fun e _ => Bool.and_self _
  · have hnone : R.filter (fun e => e.key? == some key && e.key? == some (Text.lowerCase phrase))
        = [] := by
      refine List.filter_eq_nil_iff.mpr fun e _ hboth => ?_
      rw [Bool.and_eq_true, beq_iff_eq, beq_iff_eq] at hboth
      exact hkey (Option.some.inj (hboth.1.symm.trans hboth.2))
    rw [hnone, List.append_nil]
    simp [hkey]

/-- **Run**: phrases that are looked up one after the other. -/
theorem Stocked.lookedUp {R : List Entity} : ∀ (phrases : List String) {received : List Entity}
    {seen : List String}, Stocked R received seen →
      Stocked R (received ++ (lookedUp (recordsWith R) phrases seen).1)
        (lookedUp (recordsWith R) phrases seen).2
  | [], received, seen, h => by simpa [Gazetteer.lookedUp] using h
  | p :: rest, received, seen, h => by
      rw [Gazetteer.lookedUp]
      by_cases hseen : Text.lowerCase p ∈ seen
      · rw [if_pos hseen]
        exact h.lookedUp rest
      · rw [if_neg hseen]
        have ih := (h.remember hseen).lookedUp rest
        rwa [List.append_assoc] at ih

theorem Stocked.answered {R received : List Entity} {seen : List String}
    (h : Stocked R received seen) (window : List String) :
    Stocked R (received ++ (labelAnswer (recordsWith R) window seen).1)
      (labelAnswer (recordsWith R) window seen).2 := h.lookedUp _

theorem mem_seen_of_mem {records : String → List Entity} {key : String} :
    ∀ (phrases seen : List String), key ∈ seen → key ∈ (lookedUp records phrases seen).2
  | [], _, h => h
  | p :: rest, seen, h => by
      rw [lookedUp]
      split
      · exact mem_seen_of_mem rest seen h
      · exact mem_seen_of_mem rest _ (List.mem_append_left _ h)

/-- **Every phrase that is asked for has been looked up** afterwards. -/
theorem lowerCase_mem_seen {records : String → List Entity} {p : String} :
    ∀ (phrases seen : List String), p ∈ phrases →
      Text.lowerCase p ∈ (lookedUp records phrases seen).2
  | q :: rest, seen, h => by
      rw [lookedUp]
      rcases List.mem_cons.mp h with rfl | h
      · split
        · rename_i hseen
          exact mem_seen_of_mem rest seen hseen
        · exact mem_seen_of_mem rest _ (by simp)
      · split
        · exact lowerCase_mem_seen rest seen h
        · exact lowerCase_mem_seen rest _ h

namespace Annotator

theorem windowOf_eq {total : Nat} {lookahead : Int} {rest : List Lexeme} (h0 : 0 ≤ lookahead)
    (hlen : rest.length ≤ total) :
    windowOf total lookahead rest
      = (rest.take lookahead.toNat).map fun l => String.ofList l.text := by
  have hstop : ¬ (total : Int) - rest.length + lookahead < 0 := by omega
  have htake : ((total : Int) - rest.length + lookahead - (total - rest.length)).toNat
      = lookahead.toNat := by omega
  rw [windowOf]
  simp only [if_neg hstop, htake]

theorem reach_congr {content : List Char} {xs ys : List Entity} {lexemes : List Lexeme}
    (h : ∀ n, n ≠ 0 → n ≤ lexemes.length →
      namedBy xs (covered content lexemes n) = namedBy ys (covered content lexemes n)) :
    reach content xs lexemes = reach content ys lexemes := by
  have hiff : ∀ n, n ≠ 0 → n ≤ lexemes.length →
      ((∃ e ∈ xs, e.key? = some (Alias.key (covered content lexemes n))) ↔
        ∃ e ∈ ys, e.key? = some (Alias.key (covered content lexemes n))) := by
    intro n h0 hn
    rw [← namedBy_ne_nil_iff, ← namedBy_ne_nil_iff, h n h0 hn]
  obtain ⟨hle, hhit, hmiss⟩ := Nat.findGreatest_eq_iff.mp (rfl : reach content ys lexemes = _)
  refine Nat.findGreatest_eq_iff.mpr ⟨hle, fun h0 => (hiff _ h0 hle).mpr (hhit h0), ?_⟩
  intro n hn hlen hex
  exact hmiss hn hlen ((hiff n (Nat.ne_of_gt (Nat.zero_lt_of_lt hn)) hlen).mp hex)

section Stretch

variable {content : List Char} {R received : List Entity} {seen : List String} {lookahead : Int}
variable {l : Lexeme} {ls : List Lexeme} {n : Nat}

/-- No record stands for a stretch that is longer than the feeder sees. -/
theorem namedBy_eq_nil (hR : ∀ e ∈ R, e.HasPhrase lookahead) (h : l :: ls <:+ Lexeme.scan content)
    (hn : n < (l :: ls).length) (hlong : lookahead < (n : Int) + 1) :
    namedBy R (covered content (l :: ls) (n + 1)) = [] := by
  refine List.filter_eq_nil_iff.mpr fun e he hkey => ?_
  rw [key_covered h hn, beq_iff_eq] at hkey
  obtain ⟨key, hkey', hsize⟩ := (hR e he).exists_key?
  have hlen : Alias.keySize key = n + 1 := by
    rw [Option.some.inj (hkey'.symm.trans hkey),
      Alias.keySize_keyOf (by simp) (isWord_of_suffix h), List.length_take]
    omega
  omega

/-- **The key of a stretch that the feeder sees** has been looked up. -/
theorem key_mem_answered {records : String → List Entity} {total : Nat}
    (h : l :: ls <:+ Lexeme.scan content) (htotal : (l :: ls).length ≤ total)
    (hn : n < (l :: ls).length) (hsees : (n : Int) + 1 ≤ lookahead) :
    Alias.key (covered content (l :: ls) (n + 1))
      ∈ (labelAnswer records (windowOf total lookahead (l :: ls)) seen).2 := by
  have hwindow := windowOf_eq (by omega : 0 ≤ lookahead) htotal
  have hlength : n < (windowOf total lookahead (l :: ls)).length := by
    rw [hwindow, List.length_map, List.length_take]
    omega
  have htake : (windowOf total lookahead (l :: ls)).take (n + 1)
      = ((l :: ls).take (n + 1)).map fun l => String.ofList l.text := by
    rw [hwindow, ← List.map_take, List.take_take, Nat.min_eq_left (by omega)]
  have hkey : Alias.key (covered content (l :: ls) (n + 1)) = Text.lowerCase
      (String.intercalate " " ((windowOf total lookahead (l :: ls)).take (n + 1))) := by
    rw [key_covered h hn, intercalate_eq_phrase, Alias.lowerCase_phrase,
      Alias.keyOf_eq_keyOfWords, htake, List.map_map]
    congr 1
    exact List.map_congr_left fun m _ => String.toList_ofList.symm
  rw [hkey]
  refine lowerCase_mem_seen _ seen (List.mem_map.mpr ⟨n, List.mem_range.mpr hlength, rfl⟩)

/-- **At a place, both ways know the same records** for every stretch that begins there. -/
theorem namedBy_answered (hR : ∀ e ∈ R, e.HasPhrase lookahead) {total : Nat}
    (hstock : Stocked R received seen) (h : l :: ls <:+ Lexeme.scan content)
    (htotal : (l :: ls).length ≤ total) (hn : n ≠ 0) (hlen : n ≤ (l :: ls).length) :
    namedBy (received ++ (labelAnswer (recordsWith R) (windowOf total lookahead (l :: ls)) seen).1)
        (covered content (l :: ls) n)
      = namedBy R (covered content (l :: ls) n) := by
  obtain ⟨n, rfl⟩ := Nat.exists_eq_succ_of_ne_zero hn
  have hstock' := hstock.answered (windowOf total lookahead (l :: ls))
    (Alias.key (covered content (l :: ls) (n + 1)))
  refine hstock'.trans ?_
  by_cases hsees : (n : Int) + 1 ≤ lookahead
  · rw [if_pos (key_mem_answered h htotal hlen hsees)]
    rfl
  · have hnil := namedBy_eq_nil hR h hlen (by omega)
    rw [namedBy] at hnil
    rw [hnil, ite_self, ← hnil]
    rfl

end Stretch

/-- **Run**: with the records looked up on the way, the search finds what it finds with all of them
from the beginning. -/
theorem findings_onDemand {content : List Char} {total : Nat} {R : List Entity}
    {lookahead lookahead' : Int} (hR : ∀ e ∈ R, e.HasPhrase lookahead) :
    ∀ (lexemes : List Lexeme) (received : List Entity) (seen : List String),
      lexemes <:+ Lexeme.scan content → lexemes.length ≤ total → Stocked R received seen →
      findings lookahead content total (labelAnswer (recordsWith R)) received seen lexemes
        = findings lookahead' content total silent R () lexemes
  | [], _, _, _, _, _ => by
      rw [findings, findings]
  | l :: ls, received, seen, hsuffix, htotal, hstock => by
      obtain ⟨⟨news, seen'⟩, hask⟩ : ∃ answer, labelAnswer (recordsWith R)
        (windowOf total lookahead (l :: ls)) seen = answer := ⟨_, rfl⟩
      have hnamed : ∀ n, n ≠ 0 → n ≤ (l :: ls).length →
          namedBy (received ++ news) (covered content (l :: ls) n)
            = namedBy R (covered content (l :: ls) n) := by
        intro n h0 hlen
        have h := namedBy_answered hR hstock hsuffix htotal h0 hlen
        rwa [hask] at h
      have hstock' : Stocked R (received ++ news) seen' := by
        have h := hstock.answered (windowOf total lookahead (l :: ls))
        rwa [hask] at h
      obtain ⟨n, hn⟩ : ∃ n, reach content R (l :: ls) = n := ⟨_, rfl⟩
      have hn' : reach content (received ++ news) (l :: ls) = n := (reach_congr hnamed).trans hn
      have hsilent : reach content (R ++ []) (l :: ls) = n := by rw [List.append_nil, hn]
      have htail : ls <:+ Lexeme.scan content := (List.suffix_cons l ls).trans hsuffix
      have hlength : ls.length ≤ total := Nat.le_trans (Nat.le_succ _) htotal
      by_cases h0 : n = 0
      · subst h0
        rw [findings_cons_of_zero hask hn', findings_cons_of_zero rfl hsilent, List.append_nil]
        exact findings_onDemand hR ls _ _ htail hlength hstock'
      · have hle : n ≤ (l :: ls).length := hn ▸ Nat.findGreatest_le _
        rw [findings_cons_of_ne_zero hask hn' h0, findings_cons_of_ne_zero rfl hsilent h0,
          List.append_nil, hnamed n h0 hle]
        refine congrArg _ (findings_onDemand hR (ls.drop (n - 1)) _ _
          ((List.drop_suffix _ ls).trans htail) ?_ hstock')
        rw [List.length_drop]
        omega
termination_by lexemes => lexemes.length
decreasing_by
  · simp
  · simp only [List.length_drop, List.length_cons]; omega

/-! ## Whole documents -/

/-- What a feeder that does nothing does in a document. -/
theorem begin_idle (document : Document) (site : Site) :
    Feeder.feeding.begin document (site, .idle) = .ok false (site, .idle) := rfl

theorem map_content_marks (a : Annotator) : ∀ (id : Int) (fs : List Finding),
    (a.marks id fs).map Annotation.content
      = fs.map fun f => (a.type, (f.start : Int), (f.stop : Int), featuresOf f.entity)
  | _, [] => rfl
  | id, _ :: fs => congrArg _ (map_content_marks a (id + 1) fs)

theorem found_onDemand {R : List Entity} {lookahead : Int} (hR : ∀ e ∈ R, e.HasPhrase lookahead)
    (lookahead' : Int) (content : String) :
    found lookahead content (labelAnswer (recordsWith R)) (some []) []
      = found lookahead' content silent none R :=
  findings_onDemand hR _ [] [] List.suffix_rfl (Nat.le_refl _) (stocked_nil R)

/-- The replies that a query about a phrase has to have. -/
def RepliesWith (R : List Entity) (template : String) (reply : String → Except Fault Rows) : Prop :=
  ∀ p, IsPhrase p → ∃ query rows, LabelSession.query template p = .ok query ∧
    reply query = .ok ⟨rows, none⟩ ∧ rows.map Row.values
      = (R.filter fun e => e.lowerLabel? == some (Text.lowerCase p)).map Entity.columns

theorem RepliesWith.answersPhrases {R : List Entity} {template : String} {limit : Int}
    {reply : String → Except Fault Rows} (hR : ∀ e ∈ R, e.HasPhrase limit)
    (h : RepliesWith R template reply) : AnswersPhrases reply template (recordsWith R) := by
  intro p hp
  obtain ⟨query, rows, hquery, hreply, hrows⟩ := h p hp
  refine ⟨query, rows, hquery, hreply, ?_⟩
  have hfilter : (R.filter fun e => e.lowerLabel? == some (Text.lowerCase p))
      = recordsWith R p :=
    List.filter_congr fun e he => by rw [(hR e he).lowerLabel?_eq]
  rw [hfilter] at hrows
  exact Row.filterMap_entity? hrows fun e he => hR e (List.mem_filter.mp he).1

/-- **Looking labels up on the way finds what loading all records finds.** The records have phrases
for labels, none longer than the feeder sees ahead, and the repository answers a query about a
phrase with the records of this label. Then a document is annotated to its end, with an empty
dictionary and the label feeder as well as with all records and no feeder, and the annotations are
the same in type, span, features and order. -/
theorem execute_onDemand {R : List Entity} {a b : Annotator}
    (hR : ∀ e ∈ R, e.HasPhrase a.lookahead) (htype : b.type = a.type) {feeder : LabelFeeder}
    {repository : RepositoryId} (hrepository : feeder.repository = some repository)
    (hmin : feeder.minLength ≤ 1) (hmax : feeder.maxLexemes = none) {site site' : Site}
    (hsessions : ∀ x ∈ feeder.sessions, x.2.1.index < site.connections.size)
    {connection : ConnectionId} (hconnect : Site.connect repository site = .ok connection site')
    (hreplies : RepliesWith R feeder.template (site'.replyAt connection)) (document : Document)
    (other : Site) (c d : Corpus) :
    ∃ globals, Dictionary.empty.addAll R = .ok globals ∧
      ∃ refs s' c' refs' t' d',
        a.executeAt (some .empty) document ((site, .label feeder), c) = .ok refs (s', c') ∧
        b.executeAt (some globals) document ((other, .idle), d) = .ok refs' (t', d') ∧
        refs.map (fun ref => (c'.markAt ref).content)
          = refs'.map fun ref => (d'.markAt ref).content := by
  have htexts : ∀ e ∈ R, e.key?.isSome := by
    intro e he
    obtain ⟨key, hkey, -⟩ := (hR e he).exists_key?
    rw [hkey]
    rfl
  obtain ⟨globals, hglobals⟩ := Dictionary.exists_addAll htexts .empty
  have hanswer := hreplies.answersPhrases hR
  have hfollows : Feeder.feeding.Follows document (labelAnswer (recordsWith R))
      (Looking document connection feeder.template feeder.minLength (site'.replyAt connection)) :=
    label_follows hanswer hmin (fun p e he => htexts e (List.mem_filter.mp he).1) document
  obtain ⟨s₁, hbegin, hlooking⟩ := begin_label hrepository hmax hconnect hsessions document
  obtain ⟨refs, s', c', hrun, hgrown⟩ :=
    annotate_fed hfollows hbegin hlooking (Dictionary.addAll_nil .empty) a c
  obtain ⟨refs', d', hrun', hgrown'⟩ := annotate_unfed (begin_idle document other) hglobals b d
  refine ⟨globals, hglobals, refs, s', c', refs', _, d', hrun, hrun', ?_⟩
  have hcontents := congrArg (List.map Annotation.content) hgrown.map_markAt
  have hcontents' := congrArg (List.map Annotation.content) hgrown'.map_markAt
  rw [List.map_map, map_content_marks, found_onDemand hR b.lookahead] at hcontents
  rw [List.map_map, map_content_marks, htype] at hcontents'
  exact hcontents.trans hcontents'.symm

/-! ## A repository that replies so -/

theorem isWord_ne_escaped {c : Char} (h : Text.isWord c = true) :
    c ≠ '\\' ∧ c ≠ '"' ∧ c ≠ '\n' ∧ c ≠ '\r' := by
  refine ⟨?_, ?_, ?_, ?_⟩ <;> rintro rfl <;> exact absurd h (by decide +kernel)

theorem mem_joinWith {words : List (List Char)} {c : Char} : c ∈ Text.joinWith [' '] words →
    c = ' ' ∨ ∃ w ∈ words, c ∈ w := by
  induction words with
  | nil => intro h; simp [Text.joinWith] at h
  | cons w rest ih =>
    intro h
    cases rest with
    | nil => exact .inr ⟨w, List.mem_cons_self, by simpa [Text.joinWith] using h⟩
    | cons v rest =>
      simp only [Text.joinWith, List.mem_append, List.mem_singleton] at h
      rcases h with (h | h) | h
      · exact .inr ⟨w, List.mem_cons_self, h⟩
      · exact .inl h
      · rcases ih h with h | ⟨u, hu, hc⟩
        · exact .inl h
        · exact .inr ⟨u, List.mem_cons_of_mem w hu, hc⟩

theorem flatMap_literalChar : ∀ {cs : List Char}, (∀ c ∈ cs, Sparql.literalChar c = [c]) →
    cs.flatMap Sparql.literalChar = cs
  | [], _ => rfl
  | c :: cs, h => by
      rw [List.flatMap_cons, h c List.mem_cons_self,
        flatMap_literalChar fun d hd => h d (List.mem_cons_of_mem c hd), List.singleton_append]

theorem ne_escaped_of_mem_phrase {p : String} (h : IsPhrase p) :
    ∀ c ∈ p.toList, c ≠ '\\' ∧ c ≠ '"' ∧ c ≠ '\n' ∧ c ≠ '\r' := by
  obtain ⟨words, -, hwords, rfl⟩ := h.exists_words
  intro c hc
  rw [Alias.phrase, String.toList_ofList] at hc
  rcases mem_joinWith hc with rfl | ⟨w, hw, hcw⟩
  · decide
  · exact isWord_ne_escaped ((hwords w hw).all c hcw)

/-- **A phrase needs no escapes.** -/
theorem literal_of_isPhrase {p : String} (h : IsPhrase p) :
    Sparql.literal p.toList = '"' :: p.toList ++ ['"'] := by
  have hchar : ∀ c ∈ p.toList, Sparql.literalChar c = [c] := by
    intro c hc
    simp [Sparql.literalChar, ne_escaped_of_mem_phrase h c hc]
  rw [Sparql.literal_eq_flatMap, flatMap_literalChar hchar]

/-- The text of the first literal in a query, if it has no escapes. -/
def quotedIn (query : String) : String :=
  String.ofList (((query.toList.dropWhile (· ≠ '"')).drop 1).takeWhile (· ≠ '"'))

theorem quotedIn_ofList {before cs after : List Char} (hbefore : '"' ∉ before) (hcs : '"' ∉ cs) :
    quotedIn (String.ofList (before ++ ('"' :: cs ++ ['"']) ++ after)) = String.ofList cs := by
  have hdrop : (before ++ ('"' :: cs ++ ['"']) ++ after).dropWhile (· ≠ '"')
      = '"' :: (cs ++ '"' :: after) := by
    rw [List.append_assoc, List.dropWhile_append_of_pos (by
      intro c hc
      simpa using fun heq : c = '"' => hbefore (heq ▸ hc))]
    simp
  have htake : (cs ++ '"' :: after).takeWhile (· ≠ '"') = cs := by
    rw [List.takeWhile_append_of_pos (by
      intro c hc
      simpa using fun heq : c = '"' => hcs (heq ▸ hc))]
    simp
  rw [quotedIn, String.toList_ofList, hdrop, List.drop_one, List.tail_cons, htake]

/-- Two cities: what they are called by, their class and their names. -/
def cityNames : List (String × String × String) :=
  [("n", "city", "New York"), ("y", "city", "York")]

/-- The records of the cities. -/
def cities : List Entity := cityNames.map fun (inst, cls, label) => .ofStrings inst cls label

/-- An engine that answers a query about a label with the cities of this name, in any case. -/
def cityEngine : Rdf.Engine where
  guessFormat _ := none
  parse _ graph _ _ _ := .ok graph
  query _ query := .ok {
    columns := ["inst", "cls", "label"]
    rows := (cityNames.filter fun (_, _, label) =>
      Text.lowerCase label == Text.lowerCase (quotedIn query)).map fun (inst, cls, label) =>
        [some inst, some cls, some label] }

/-- A site with a repository that is loaded, over the engine of the cities. -/
def citySite : Site :=
  { Site.bare with
    engine := cityEngine
    repositories := #[.files (.text "cities.ttl") (some ⟨0, {}⟩)] }

/-- A feeder that asks there about labels of any length. -/
def cityFeeder : LabelFeeder := { repository := some ⟨0⟩, minLength := 1 }

/-- The query about labels up to the label, and after it. -/
def labelQueryParts : List Char × List Char :=
  let cs := Defaults.labelQuery.toList
  (cs.takeWhile (· ≠ '%'), (cs.dropWhile (· ≠ '%')).drop 2)

theorem query_of_isPhrase {p : String} (h : IsPhrase p) :
    LabelSession.query Defaults.labelQuery p = .ok (String.ofList
      (labelQueryParts.1 ++ ('"' :: p.toList ++ ['"']) ++ labelQueryParts.2)) := by
  have hparts : Defaults.labelQuery.toList
      = labelQueryParts.1 ++ '%' :: 's' :: labelQueryParts.2 := by decide +kernel
  have hbefore : '%' ∉ labelQueryParts.1 := by decide +kernel
  have hafter : '%' ∉ labelQueryParts.2 := by decide +kernel
  rw [LabelSession.query, literal_of_isPhrase h, hparts,
    Text.Template.fill_of_notMem hbefore hafter]

theorem rowsOf_cities : ∀ names : List (String × String × String),
    Rdf.Answer.rowsOf ["inst", "cls", "label"] none
        (names.map fun (inst, cls, label) => [some inst, some cls, some label])
      = ⟨names.map fun (inst, cls, label) => [(.string "inst", .string inst),
          (.string "cls", .string cls), (.string "label", .string label)], none⟩
  | [] => rfl
  | (inst, cls, label) :: rest => by
      have hrow : Rdf.Answer.rowOf (Rdf.Answer.cellsOf ["inst", "cls", "label"]
          [some inst, some cls, some label]) [] ["inst", "cls", "label"]
          = .ok [(.string "inst", .string inst), (.string "cls", .string cls),
            (.string "label", .string label)] := by
        with_unfolding_all rfl
      rw [List.map_cons, Rdf.Answer.rowsOf]
      simp only [hrow, rowsOf_cities rest, List.map_cons]

theorem repliesWith_cities {site : Site} (h : site.engine = cityEngine)
    (hconnections : site.connections = #[{ backend := .graph {} }]) :
    RepliesWith cities Defaults.labelQuery (site.replyAt ⟨0⟩) := by
  have hreply : ∀ query, site.replyAt ⟨0⟩ query = .ok (Rdf.Answer.rowsOf ["inst", "cls", "label"]
      none ((cityNames.filter fun (_, _, label) =>
        Text.lowerCase label == Text.lowerCase (quotedIn query)).map
          fun (inst, cls, label) => [some inst, some cls, some label])) := by
    intro query
    simp [Site.replyAt, hconnections, Site.reply, h, Rdf.Engine.rows, cityEngine,
      Rdf.Answer.toRows]
  intro p hp
  refine ⟨_, _, query_of_isPhrase hp, (hreply _).trans (congrArg _ (rowsOf_cities _)), ?_⟩
  have hbefore : '"' ∉ labelQueryParts.1 := by decide +kernel
  have hphrase : '"' ∉ p.toList := fun hmem => (ne_escaped_of_mem_phrase hp _ hmem).2.1 rfl
  rw [quotedIn_ofList hbefore hphrase, String.ofList_toList]
  simp [cities, List.filter_map, Function.comp_def, Entity.lowerLabel?, Entity.ofStrings,
    Entity.columns, Row.values]

theorem hasPhrase_cities : ∀ e ∈ cities, e.HasPhrase 5 := by
  have hwords : ∀ w ∈ ["New".toList, "York".toList], Lexeme.IsWord w := by
    intro w hw
    simp only [List.mem_cons, List.not_mem_nil, or_false] at hw
    rcases hw with rfl | rfl
    · exact ⟨by decide, List.all_eq_true.mp (by decide +kernel)⟩
    · exact ⟨by decide, List.all_eq_true.mp (by decide +kernel)⟩
  intro e he
  simp only [cities, cityNames, List.map_cons, List.map_nil, List.mem_cons, List.not_mem_nil,
    or_false] at he
  rcases he with rfl | rfl
  · exact ⟨by simp [Entity.ofStrings], by simp [Entity.ofStrings],
      ["New".toList, "York".toList], by simp, hwords, by decide, rfl⟩
  · exact ⟨by simp [Entity.ofStrings], by simp [Entity.ofStrings],
      ["York".toList], by simp, fun w hw => hwords w (List.mem_cons_of_mem _ hw), by decide, rfl⟩

/-- The cities are found in a document one way and the other. -/
theorem execute_onDemand_cities :
    ∃ globals, Dictionary.empty.addAll cities = .ok globals ∧
      ∃ refs s' c' refs' t' d',
        executeAt { directory := default } (some .empty) ⟨0, 0, "a", "from york to New  York"⟩
          ((citySite, .label cityFeeder), {})
          = .ok refs (s', c') ∧
        executeAt { directory := default } (some globals) ⟨0, 0, "a", "from york to New  York"⟩
          ((citySite, .idle), {}) = .ok refs' (t', d') ∧
        refs.map (fun ref => (c'.markAt ref).content)
          = refs'.map fun ref => (d'.markAt ref).content := by
  have hconnect : Site.connect ⟨0⟩ citySite
      = .ok ⟨0⟩ { citySite with connections := #[{ backend := .graph {} }] } := rfl
  have hrepository : cityFeeder.repository = some ⟨0⟩ := rfl
  exact execute_onDemand hasPhrase_cities rfl hrepository (Int.le_refl 1) rfl
    (fun x hx => absurd hx List.not_mem_nil) hconnect (repliesWith_cities rfl rfl) _ citySite {} {}

end Annotator

end Gazetteer
