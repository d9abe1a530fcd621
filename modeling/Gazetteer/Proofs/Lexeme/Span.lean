import Gazetteer.Annotator.Basic

/-!
# Proofs/Lexeme/Span — the text that a stretch of lexemes covers

A text is a gap character and a text, or a word and a text that does not go on with it; scanning
follows this shape (`scan_induction`). `words` are the texts of the lexemes, without their places.

The lexemes of a text from a place on are those of the text that is left there
(`scanFrom_of_suffix`), and the first few of them are those of the text up to where the last of
these ends (`words_take_stopOf`). So the text between the beginning of one lexeme and the end of a
later one holds exactly the lexemes from the one to the other (`words_extract`).
-/

namespace Gazetteer.Lexeme

/-- Whether a text is a run of word characters that is not empty. -/
structure IsWord (w : List Char) : Prop where
  ne_nil : w ≠ []
  all : ∀ c ∈ w, Text.isWord c = true

/-- Whether a text does not begin with a word character. -/
def StartsGap (cs : List Char) : Prop := ∀ c ∈ cs.head?, Text.isWord c = false

@[simp] theorem startsGap_nil : StartsGap [] := fun _ h => absurd h (by simp)

theorem startsGap_cons {c : Char} (h : Text.isWord c = false) (cs : List Char) :
    StartsGap (c :: cs) := by
  intro d hd
  obtain rfl : c = d := by simpa using hd
  exact h

theorem startsGap_dropWhile (cs : List Char) : StartsGap (cs.dropWhile Text.isWord) := by
  intro c hc
  have h := List.head?_dropWhile_not Text.isWord cs
  rw [Option.mem_def.mp hc] at h
  simpa using h

theorem StartsGap.take {cs : List Char} (h : StartsGap cs) (n : Nat) : StartsGap (cs.take n) := by
  cases n with
  | zero => simp
  | succ n =>
    cases cs with
    | nil => simp
    | cons d rest => exact startsGap_cons (h d rfl) _

theorem isWord_takeWhile {c : Char} (h : Text.isWord c = true) (cs : List Char) :
    IsWord (c :: cs.takeWhile Text.isWord) where
  ne_nil := List.cons_ne_nil _ _
  all d hd := by
    rcases List.mem_cons.mp hd with rfl | hd
    · exact h
    · exact List.all_eq_true.mp List.all_takeWhile d hd

/-! ## Scanning follows the words -/

/-- **Scanning a word**: it is the first lexeme, if the text does not go on with it. -/
theorem scanFrom_append {w cs : List Char} (hw : IsWord w) (hcs : StartsGap cs) (p : Nat) :
    scanFrom p (w ++ cs) = ⟨w, p, p + w.length⟩ :: scanFrom (p + w.length) cs := by
  obtain ⟨c, w, rfl⟩ := List.exists_cons_of_ne_nil hw.ne_nil
  have htail : ∀ d ∈ w, Text.isWord d = true := fun d hd => hw.all d (List.mem_cons_of_mem c hd)
  have htake : (w ++ cs).takeWhile Text.isWord = w := by
    rw [List.takeWhile_append_of_pos htail]
    cases cs with
    | nil => simp
    | cons d rest => simp [hcs d rfl]
  have hdrop : (w ++ cs).dropWhile Text.isWord = cs := by
    rw [List.dropWhile_append_of_pos htail]
    cases cs with
    | nil => rfl
    | cons d rest => simp [hcs d rfl]
  rw [List.cons_append, scanFrom_cons (hw.all c List.mem_cons_self), htake, hdrop]

/-- **Induction along the scan** of a text: over the characters of the gaps, and over whole words.
-/
@[elab_as_elim]
theorem scan_induction {motive : Nat → List Char → Prop} (nil : ∀ p, motive p [])
    (gap : ∀ p c cs, Text.isWord c = false → motive (p + 1) cs → motive p (c :: cs))
    (word : ∀ p w cs, IsWord w → StartsGap cs → motive (p + w.length) cs → motive p (w ++ cs))
    (p : Nat) (cs : List Char) : motive p cs := by
  induction p, cs using scanFrom.induct with
  | case1 p => exact nil p
  | case2 p c rest hc w ih =>
    have hsplit : c :: rest = w ++ rest.dropWhile Text.isWord := by
      rw [List.cons_append, List.takeWhile_append_dropWhile]
    rw [hsplit]
    exact word p w _ (isWord_takeWhile hc rest) (startsGap_dropWhile rest) ih
  | case3 p c rest hc ih => exact gap p c rest (by simpa using hc) ih

/-- **A lexeme is a word.** -/
theorem isWord_of_mem_scanFrom (p : Nat) (cs : List Char) :
    ∀ l ∈ scanFrom p cs, IsWord l.text := by
  induction p, cs using scan_induction with
  | nil p => intro l hl; simp at hl
  | gap p c cs hc ih => rwa [scanFrom_cons_of_not hc]
  | word p w cs hw hcs ih =>
    intro l hl
    rw [scanFrom_append hw hcs, List.mem_cons] at hl
    rcases hl with rfl | hl
    · exact hw
    · exact ih l hl

/-! ## Words do not depend on where they stand -/

/-- The texts of the lexemes of a text. -/
def words (cs : List Char) : List (List Char) := (scan cs).map text

theorem map_text_scanFrom (p q : Nat) (cs : List Char) :
    (scanFrom p cs).map text = (scanFrom q cs).map text := by
  induction p, cs using scan_induction generalizing q with
  | nil p => simp
  | gap p c cs hc ih => rw [scanFrom_cons_of_not hc, scanFrom_cons_of_not hc, ih]
  | word p w cs hw hcs ih =>
    rw [scanFrom_append hw hcs, scanFrom_append hw hcs, List.map_cons, List.map_cons, ih]

theorem map_text_eq_words (p : Nat) (cs : List Char) : (scanFrom p cs).map text = words cs :=
  map_text_scanFrom p 0 cs

@[simp] theorem words_nil : words [] = [] := by simp [words, scan]

theorem words_cons_of_not {c : Char} (h : Text.isWord c = false) (cs : List Char) :
    words (c :: cs) = words cs := by
  rw [words, scan, scanFrom_cons_of_not h, map_text_eq_words]

theorem words_append {w cs : List Char} (hw : IsWord w) (hcs : StartsGap cs) :
    words (w ++ cs) = w :: words cs := by
  rw [words, scan, scanFrom_append hw hcs, List.map_cons, map_text_eq_words]

theorem isWord_of_mem_words {cs w : List Char} (h : w ∈ words cs) : IsWord w := by
  obtain ⟨l, hl, rfl⟩ := List.mem_map.mp h
  exact isWord_of_mem_scanFrom 0 cs l hl

/-! ## Stretches of lexemes -/

/-- **From a lexeme on, the lexemes are those of the text that begins there.** -/
theorem scanFrom_of_suffix {l : Lexeme} {ls : List Lexeme} (p : Nat) (cs : List Char)
    (h : l :: ls <:+ scanFrom p cs) :
    p ≤ l.start ∧ scanFrom l.start (cs.drop (l.start - p)) = l :: ls := by
  induction p, cs using scan_induction with
  | nil p => simp at h
  | gap p c cs hc ih =>
    obtain ⟨hp, hscan⟩ := ih (scanFrom_cons_of_not hc p cs ▸ h)
    have hdrop : l.start - p = (l.start - (p + 1)) + 1 := by omega
    rw [hdrop, List.drop_succ_cons]
    exact ⟨by omega, hscan⟩
  | word p w cs hw hcs ih =>
    rcases List.suffix_cons_iff.mp (scanFrom_append hw hcs p ▸ h) with heq | h
    · obtain rfl := (List.cons.inj heq).1
      rw [Nat.sub_self, List.drop_zero, scanFrom_append hw hcs, heq]
      exact ⟨Nat.le_refl p, rfl⟩
    · obtain ⟨hp, hscan⟩ := ih h
      have hdrop : l.start - p = w.length + (l.start - (p + w.length)) := by omega
      rw [hdrop, ← List.drop_drop, List.drop_left]
      exact ⟨by omega, hscan⟩

theorem stopOf_one (l : Lexeme) (ls : List Lexeme) : Annotator.stopOf (l :: ls) 1 = l.stop := rfl

theorem stopOf_succ (l : Lexeme) {ls : List Lexeme} {n : Nat} (h : n < ls.length) :
    Annotator.stopOf (l :: ls) (n + 2) = Annotator.stopOf ls (n + 1) := by
  cases ls with
  | nil => simp at h
  | cons m ls => simp [Annotator.stopOf, List.getLast?_cons]

theorem stopOf_eq_getElem {ls : List Lexeme} {n : Nat} (h : n < ls.length) :
    Annotator.stopOf ls (n + 1) = ls[n].stop := by
  have hlength : (ls.take (n + 1)).length = n + 1 := List.length_take_of_le h
  rw [Annotator.stopOf, List.getLast?_eq_getElem?, hlength, Nat.add_sub_cancel,
    List.getElem?_take_of_lt (Nat.lt_succ_self n), List.getElem?_eq_getElem h]
  rfl

/-- **The first few lexemes are those of the text up to where the last of them ends.** -/
theorem words_take_stopOf (p : Nat) (cs : List Char) {n : Nat} (h : n < (scanFrom p cs).length) :
    p ≤ Annotator.stopOf (scanFrom p cs) (n + 1) ∧
      words (cs.take (Annotator.stopOf (scanFrom p cs) (n + 1) - p))
        = ((scanFrom p cs).take (n + 1)).map text := by
  induction p, cs using scan_induction generalizing n with
  | nil p => simp at h
  | gap p c cs hc ih =>
    rw [scanFrom_cons_of_not hc] at h ⊢
    obtain ⟨hp, hwords⟩ := ih h
    have htake : ∀ k, p + 1 ≤ k → (c :: cs).take (k - p) = c :: cs.take (k - (p + 1)) := by
      intro k hk
      rw [show k - p = (k - (p + 1)) + 1 by omega, List.take_succ_cons]
    rw [htake _ hp, words_cons_of_not hc]
    exact ⟨by omega, hwords⟩
  | word p w cs hw hcs ih =>
    rw [scanFrom_append hw hcs] at h ⊢
    cases n with
    | zero =>
      have htake : (w ++ cs).take (p + w.length - p) = w ++ [] := by
        rw [Nat.add_sub_cancel_left, List.take_left, List.append_nil]
      rw [stopOf_one, htake, words_append hw startsGap_nil, words_nil]
      exact ⟨Nat.le_add_right _ _, rfl⟩
    | succ n =>
      have hn : n < (scanFrom (p + w.length) cs).length := Nat.lt_of_succ_lt_succ h
      obtain ⟨hp, hwords⟩ := ih hn
      have htake : ∀ k, p + w.length ≤ k →
          (w ++ cs).take (k - p) = w ++ cs.take (k - (p + w.length)) := by
        intro k hk
        rw [show k - p = w.length + (k - (p + w.length)) by omega, List.take_length_add_append]
      rw [stopOf_succ _ hn, htake _ hp, words_append hw (hcs.take _), hwords]
      exact ⟨by omega, rfl⟩

/-- **Between the beginning of a lexeme and the end of a later one stand exactly the lexemes from
the one to the other.** -/
theorem words_extract {cs : List Char} {l : Lexeme} {ls : List Lexeme} (h : l :: ls <:+ scan cs)
    {n : Nat} (hn : n < (l :: ls).length) :
    words (cs.extract l.start (Annotator.stopOf (l :: ls) (n + 1)))
      = ((l :: ls).take (n + 1)).map text := by
  obtain ⟨-, hscan⟩ := scanFrom_of_suffix 0 cs h
  rw [Nat.sub_zero] at hscan
  have hwords := (words_take_stopOf l.start (cs.drop l.start) (n := n) (by rwa [hscan])).2
  rw [hscan] at hwords
  exact hwords

end Gazetteer.Lexeme
