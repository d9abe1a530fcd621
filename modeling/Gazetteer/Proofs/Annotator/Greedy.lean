import Gazetteer.Annotator.Basic
import Gazetteer.Proofs.Dictionary.Indexed
import Mathlib.Data.Nat.Find

/-!
# Proofs/Annotator/Greedy — the search for aliases, without keys, buckets and bounds

What annotating a document finds is said here over lists of records alone. At a lexeme, `reach` is
the length of the longest stretch whose text is an alias of some candidate, whatever lengths aliases
have; `findings` takes all candidates that the stretch is an alias of, goes on after it, and asks
for further candidates at each place.

`matchAt_eq` is where the two dictionaries, each with its bound, meet this: their search tries no
stretch longer than their longest alias, and passes none over by it.
-/

namespace Gazetteer

namespace Dictionary

variable {d : Dictionary} {es : List Entity} {key : String}

/-- **The bucket of a key** holds the records with this key that were added, in order. -/
theorem lookupKey_of_addAll (h : empty.addAll es = .ok d) (hkey : key ≠ "") :
    d.lookupKey key = es.filter fun e => e.key? == some key := by
  have hrecords : d.records = es.filter Entity.isKept := records_addAll h
  rw [(indexed_empty.addAll h).bucket, hrecords, List.filter_filter]
  refine List.filter_congr fun e _ => ?_
  by_cases he : e.key? = some key
  · simp [he, Entity.isKept_iff.mpr ⟨key, he, hkey⟩]
  · simp [he]

/-- **No key is longer than a dictionary says.** -/
theorem keySize_le_longest (h : empty.addAll es = .ok d) (hkey : d.lookupKey key ≠ []) :
    Alias.keySize key ≤ d.longest := by
  have hd := indexed_empty.addAll h
  obtain ⟨e, he⟩ := List.exists_mem_of_ne_nil _ hkey
  rw [hd.bucket, List.mem_filter, beq_iff_eq] at he
  exact hd.bounded e he.1 key he.2

end Dictionary

namespace Annotator

/-! ## The longest stretch -/

/-- The text from the beginning of the first of some lexemes to the end of the `n`-th. -/
def covered (content : List Char) : List Lexeme → Nat → String
  | [], _ => ""
  | l :: ls, n => String.ofList (content.extract l.start (stopOf (l :: ls) n))

/-- The candidates that a text is an alias of. -/
def namedBy (candidates : List Entity) (text : String) : List Entity :=
  candidates.filter fun e => e.key? == some (Alias.key text)

/-- How many lexemes the longest stretch has that is an alias of a candidate; zero for none. -/
def reach (content : List Char) (candidates : List Entity) (lexemes : List Lexeme) : Nat :=
  Nat.findGreatest
    (fun n => ∃ e ∈ candidates, e.key? = some (Alias.key (covered content lexemes n)))
    lexemes.length

theorem namedBy_append (xs ys : List Entity) (text : String) :
    namedBy (xs ++ ys) text = namedBy xs text ++ namedBy ys text := List.filter_append ..

theorem namedBy_ne_nil_iff {candidates : List Entity} {text : String} :
    namedBy candidates text ≠ [] ↔ ∃ e ∈ candidates, e.key? = some (Alias.key text) := by
  rw [namedBy, Ne, List.filter_eq_nil_iff]
  simp

/-- **A search that is given a bound** finds the longest stretch within it. -/
theorem findMatch_eq (records : String → List Entity) (lexemes : List Lexeme) {n : Nat} :
    ∀ {bound : Nat}, n ≤ bound → (n ≠ 0 → records (Alias.keyOf (lexemes.take n)) ≠ []) →
      (∀ m, n < m → m ≤ bound → records (Alias.keyOf (lexemes.take m)) = []) →
      findMatch records lexemes bound
        = if n = 0 then none else some (n, records (Alias.keyOf (lexemes.take n)))
  | 0, hn, _, _ => by
      obtain rfl := Nat.le_zero.mp hn
      rfl
  | bound + 1, hn, hhit, hmiss => by
      rw [findMatch]
      rcases Nat.lt_or_eq_of_le hn with hlt | rfl
      · have hempty := hmiss (bound + 1) hlt (Nat.le_refl _)
        have ih := findMatch_eq records lexemes (Nat.le_of_lt_succ hlt) hhit
          fun m hm hb => hmiss m hm (Nat.le_succ_of_le hb)
        rw [if_pos (by simp [hempty]), ih]
      · have hne := hhit (Nat.succ_ne_zero _)
        rw [if_neg (by simpa using hne), if_neg (Nat.succ_ne_zero _)]

section Stretch

variable {content : List Char} {calls received : List Entity} {globals locals : Dictionary}
variable {l : Lexeme} {ls : List Lexeme} {n : Nat}

theorem key_covered (h : l :: ls <:+ Lexeme.scan content) (hn : n < (l :: ls).length) :
    Alias.key (covered content (l :: ls) (n + 1)) = Alias.keyOf ((l :: ls).take (n + 1)) :=
  Alias.key_extract h hn

theorem isWord_of_suffix (h : l :: ls <:+ Lexeme.scan content) :
    ∀ m ∈ (l :: ls).take (n + 1), Lexeme.IsWord m.text := fun m hm =>
  Lexeme.isWord_of_mem_scanFrom 0 content m (h.subset (List.mem_of_mem_take hm))

/-- A feeder is asked with words. -/
theorem isWord_of_mem_windowOf (h : l :: ls <:+ Lexeme.scan content) {total : Nat}
    {lookahead : Int} : ∀ w ∈ windowOf total lookahead (l :: ls), Lexeme.IsWord w.toList := by
  intro w hw
  obtain ⟨m, hm, rfl⟩ := List.mem_map.mp hw
  rw [String.toList_ofList]
  exact Lexeme.isWord_of_mem_scanFrom 0 content m (h.subset (List.mem_of_mem_take hm))

theorem keyOf_ne_empty (h : l :: ls <:+ Lexeme.scan content) :
    Alias.keyOf ((l :: ls).take (n + 1)) ≠ "" := by
  rw [Alias.keyOf_eq_keyOfWords]
  refine Alias.keyOfWords_ne_empty (by simp) fun w hw => ?_
  obtain ⟨m, hm, rfl⟩ := List.mem_map.mp hw
  exact isWord_of_suffix h m hm

/-- The two dictionaries know a stretch by the records that its text is an alias of. -/
theorem lookupKey_keyOf (hg : Dictionary.empty.addAll calls = .ok globals)
    (hl : Dictionary.empty.addAll received = .ok locals) (h : l :: ls <:+ Lexeme.scan content)
    (hn : n < (l :: ls).length) :
    globals.lookupKey (Alias.keyOf ((l :: ls).take (n + 1)))
        ++ locals.lookupKey (Alias.keyOf ((l :: ls).take (n + 1)))
      = namedBy (calls ++ received) (covered content (l :: ls) (n + 1)) := by
  rw [Dictionary.lookupKey_of_addAll hg (keyOf_ne_empty h),
    Dictionary.lookupKey_of_addAll hl (keyOf_ne_empty h), ← key_covered h hn, namedBy_append,
    namedBy, namedBy]

theorem le_longest (hg : Dictionary.empty.addAll calls = .ok globals)
    (hl : Dictionary.empty.addAll received = .ok locals) (h : l :: ls <:+ Lexeme.scan content)
    (hn : n < (l :: ls).length)
    (hfound : namedBy (calls ++ received) (covered content (l :: ls) (n + 1)) ≠ []) :
    n + 1 ≤ max globals.longest locals.longest := by
  have hsize : Alias.keySize (Alias.keyOf ((l :: ls).take (n + 1))) = n + 1 := by
    rw [Alias.keySize_keyOf (by simp) (isWord_of_suffix h), List.length_take]
    omega
  rw [← lookupKey_keyOf hg hl h hn] at hfound
  rcases not_and_or.mp (mt List.append_eq_nil_iff.mpr hfound) with hne | hne
  · have := Dictionary.keySize_le_longest hg hne
    omega
  · have := Dictionary.keySize_le_longest hl hne
    omega

/-- **The bounded search finds the longest alias of all.** -/
theorem matchAt_eq (hg : Dictionary.empty.addAll calls = .ok globals)
    (hl : Dictionary.empty.addAll received = .ok locals) (h : l :: ls <:+ Lexeme.scan content) :
    matchAt globals locals (l :: ls) =
      if reach content (calls ++ received) (l :: ls) = 0 then none
      else some (reach content (calls ++ received) (l :: ls), namedBy (calls ++ received)
        (covered content (l :: ls) (reach content (calls ++ received) (l :: ls)))) := by
  obtain ⟨n, hreach⟩ : ∃ n, reach content (calls ++ received) (l :: ls) = n := ⟨_, rfl⟩
  rw [hreach]
  obtain ⟨hle, hhit, hmiss⟩ := Nat.findGreatest_eq_iff.mp hreach
  have hfound : n ≠ 0 → namedBy (calls ++ received) (covered content (l :: ls) n) ≠ [] :=
    fun h0 => namedBy_ne_nil_iff.mpr (hhit h0)
  have hlookup : ∀ m, m ≠ 0 → m ≤ (l :: ls).length →
      globals.lookupKey (Alias.keyOf ((l :: ls).take m))
          ++ locals.lookupKey (Alias.keyOf ((l :: ls).take m))
        = namedBy (calls ++ received) (covered content (l :: ls) m) := by
    intro m h0 hm
    obtain ⟨m, rfl⟩ := Nat.exists_eq_succ_of_ne_zero h0
    exact lookupKey_keyOf hg hl h hm
  have hbound : n ≤ min (max globals.longest locals.longest) (l :: ls).length := by
    rcases Nat.eq_zero_or_pos n with rfl | hpos
    · exact Nat.zero_le _
    · obtain ⟨m, rfl⟩ := Nat.exists_eq_succ_of_ne_zero (Nat.ne_of_gt hpos)
      exact Nat.le_min.mpr ⟨le_longest hg hl h hle (hfound (Nat.succ_ne_zero m)), hle⟩
  rw [matchAt, findMatch_eq _ _ hbound]
  · split
    · rfl
    · rename_i h0
      rw [hlookup n h0 hle]
  · intro h0
    rw [hlookup n h0 hle]
    exact hfound h0
  · intro m hm hb
    have hlen : m ≤ (l :: ls).length := Nat.le_trans hb (Nat.min_le_right _ _)
    rw [hlookup m (Nat.ne_of_gt (Nat.zero_lt_of_lt hm)) hlen]
    exact Decidable.byContradiction fun hne => hmiss hm hlen (namedBy_ne_nil_iff.mp hne)

end Stretch

/-! ## All stretches of a document -/

/-- A span of a document, and a record that the span is an alias of. -/
structure Finding where
  start : Nat
  stop : Nat
  entity : Entity

/-- What is found in a document from a place on. Candidates are the given records and, at each
place, what the answers so far have added to them. -/
def findings {τ : Type} (lookahead : Int) (content : List Char) (total : Nat)
    (ask : List String → τ → List Entity × τ) (candidates : List Entity) (t : τ) :
    List Lexeme → List Finding
  | [] => []
  | l :: ls =>
    let (news, t) := ask (windowOf total lookahead (l :: ls)) t
    let candidates := candidates ++ news
    let n := reach content candidates (l :: ls)
    if n = 0 then findings lookahead content total ask candidates t ls
    else
      (namedBy candidates (covered content (l :: ls) n)).map
          (Finding.mk l.start (stopOf (l :: ls) n))
        ++ findings lookahead content total ask candidates t (ls.drop (n - 1))
termination_by lexemes => lexemes.length
decreasing_by
  · simp
  · simp only [List.length_drop, List.length_cons]; omega

section Findings

variable {τ : Type} {lookahead : Int} {content : List Char} {total n : Nat}
variable {ask : List String → τ → List Entity × τ} {candidates news : List Entity} {t t' : τ}
variable {l : Lexeme} {ls : List Lexeme}

theorem findings_cons_of_zero (hask : ask (windowOf total lookahead (l :: ls)) t = (news, t'))
    (hn : reach content (candidates ++ news) (l :: ls) = 0) :
    findings lookahead content total ask candidates t (l :: ls)
      = findings lookahead content total ask (candidates ++ news) t' ls := by
  rw [findings, hask]
  exact if_pos hn

theorem findings_cons_of_ne_zero
    (hask : ask (windowOf total lookahead (l :: ls)) t = (news, t'))
    (hn : reach content (candidates ++ news) (l :: ls) = n) (h0 : n ≠ 0) :
    findings lookahead content total ask candidates t (l :: ls)
      = (namedBy (candidates ++ news) (covered content (l :: ls) n)).map
            (Finding.mk l.start (stopOf (l :: ls) n))
          ++ findings lookahead content total ask (candidates ++ news) t' (ls.drop (n - 1)) := by
  subst hn
  rw [findings, hask]
  exact if_neg h0

end Findings

/-- The machine that has no answers. -/
def silent : List String → Unit → List Entity × Unit := fun _ _ => ([], ())

/-- What is found in a document, with the answers of a machine if it has a state to start in. -/
def found {τ : Type} (lookahead : Int) (content : String) (ask : List String → τ → List Entity × τ)
    (start : Option τ) (candidates : List Entity) : List Finding :=
  let lexemes := Lexeme.scan content.toList
  match start with
  | some t => findings lookahead content.toList lexemes.length ask candidates t lexemes
  | none => findings lookahead content.toList lexemes.length silent candidates () lexemes

/-- The annotations of what is found, with ids from a number on. The features of each are the
individual, the class and the alias of its record. -/
def marks (a : Annotator) : Int → List Finding → List Annotation
  | _, [] => []
  | id, f :: fs =>
    ⟨id, a.type, f.start, f.stop,
        [("inst", f.entity.inst), ("class", f.entity.cls), ("alias", f.entity.label)]⟩
      :: a.marks (id + 1) fs

end Annotator

end Gazetteer
