import Gazetteer.Dictionary.Basic
import Gazetteer.Proofs.Lexeme.Span
import Gazetteer.Proofs.Text.LowerCase

/-!
# Proofs/Lexeme/Key — the two ways to a key agree

The key of an alias is made from its whole text (`Alias.key`), the key that a document is searched
by from lexemes one by one (`Alias.keyOf`). Both are `keyOfWords` of the words: the key of a stretch
of lexemes is the key of the text that the stretch covers (`key_extract`, and by the numbers of the
lexemes `keyOf_slice`). A key holds as many lexemes as its spaces say (`keySize_keyOfWords`).
-/

namespace Gazetteer

namespace Text

theorem count_joinWith : ∀ {words : List (List Char)}, words ≠ [] → (∀ w ∈ words, ' ' ∉ w) →
    (joinWith [' '] words).count ' ' + 1 = words.length
  | [], h, _ => absurd rfl h
  | [w], _, h => by
      have hw : w.count ' ' = 0 := List.count_eq_zero.mpr (h w List.mem_cons_self)
      simp [joinWith, hw]
  | w :: v :: rest, _, h => by
      have hw : w.count ' ' = 0 := List.count_eq_zero.mpr (h w List.mem_cons_self)
      have ih : (joinWith [' '] (v :: rest)).count ' ' + 1 = (v :: rest).length :=
        count_joinWith (List.cons_ne_nil v rest) fun u hu => h u (List.mem_cons_of_mem w hu)
      simp only [joinWith, List.count_append, hw, List.count_singleton_self, List.length_cons]
        at ih ⊢
      omega

theorem joinWith_ne_nil : ∀ {words : List (List Char)}, words ≠ [] → (∀ w ∈ words, w ≠ []) →
    joinWith [' '] words ≠ []
  | [], h, _ => absurd rfl h
  | [w], _, h => h w List.mem_cons_self
  | w :: v :: rest, _, _ => by simp [joinWith]

end Text

namespace Lexeme

theorem space_notMem_lower {w : List Char} (hw : IsWord w) : ' ' ∉ Text.lower w := by
  intro h
  have hspace := hw.all ' ' (Text.space_mem_of_mem_lower h)
  rw [Text.isWord_space] at hspace
  exact Bool.false_ne_true hspace

end Lexeme

namespace Alias

/-- The key of words: each in lower case, one space between every two. -/
def keyOfWords (words : List (List Char)) : String :=
  String.ofList (Text.joinWith [' '] (words.map Text.lower))

theorem key_eq_keyOfWords (label : String) : key label = keyOfWords (Lexeme.words label.toList) :=
  congrArg String.ofList (Text.lower_joinWith _)

theorem keyOf_eq_keyOfWords (lexemes : List Lexeme) :
    keyOf lexemes = keyOfWords (lexemes.map Lexeme.text) := by
  rw [keyOf, keyOfWords, List.map_map]
  rfl

/-- **The key of a stretch of lexemes is the key of the text that it covers.** -/
theorem key_extract {cs : List Char} {l : Lexeme} {ls : List Lexeme}
    (h : l :: ls <:+ Lexeme.scan cs) {n : Nat} (hn : n < (l :: ls).length) :
    key (String.ofList (cs.extract l.start (Annotator.stopOf (l :: ls) (n + 1))))
      = keyOf ((l :: ls).take (n + 1)) := by
  rw [key_eq_keyOfWords, String.toList_ofList, Lexeme.words_extract h hn, keyOf_eq_keyOfWords]

/-! ## Phrases -/

/-- The text of words with one space between every two. -/
def phrase (words : List (List Char)) : String := String.ofList (Text.joinWith [' '] words)

theorem words_joinWith : ∀ {words : List (List Char)}, (∀ w ∈ words, Lexeme.IsWord w) →
    Lexeme.words (Text.joinWith [' '] words) = words
  | [], _ => Lexeme.words_nil
  | [w], h => by
      have hw := Lexeme.words_append (h w List.mem_cons_self) Lexeme.startsGap_nil
      rwa [List.append_nil, Lexeme.words_nil] at hw
  | w :: v :: rest, h => by
      have ih := words_joinWith fun u hu => h u (List.mem_cons_of_mem w hu)
      have hjoin : Text.joinWith [' '] (w :: v :: rest)
          = w ++ ' ' :: Text.joinWith [' '] (v :: rest) := by
        simp [Text.joinWith]
      rw [hjoin,
        Lexeme.words_append (h w List.mem_cons_self) (Lexeme.startsGap_cons Text.isWord_space _),
        Lexeme.words_cons_of_not Text.isWord_space, ih]

theorem key_phrase {words : List (List Char)} (h : ∀ w ∈ words, Lexeme.IsWord w) :
    key (phrase words) = keyOfWords words := by
  rw [key_eq_keyOfWords, phrase, String.toList_ofList, words_joinWith h]

/-- **Of a phrase, the key is the lower case.** -/
theorem lowerCase_phrase (words : List (List Char)) :
    Text.lowerCase (phrase words) = keyOfWords words := by
  rw [Text.lowerCase, phrase, String.toList_ofList, Text.lower_joinWith, keyOfWords]

/-! ## The size of a key -/

/-- **A key holds as many lexemes as its spaces say.** -/
theorem keySize_keyOfWords {words : List (List Char)} (hne : words ≠ [])
    (hwords : ∀ w ∈ words, Lexeme.IsWord w) : keySize (keyOfWords words) = words.length := by
  have hspaces : ∀ w ∈ words.map Text.lower, ' ' ∉ w := by
    intro w hw
    obtain ⟨v, hv, rfl⟩ := List.mem_map.mp hw
    exact Lexeme.space_notMem_lower (hwords v hv)
  rw [keySize, keyOfWords, String.toList_ofList,
    Text.count_joinWith (by simpa using hne) hspaces, List.length_map]

theorem keyOfWords_ne_empty {words : List (List Char)} (hne : words ≠ [])
    (hwords : ∀ w ∈ words, Lexeme.IsWord w) : keyOfWords words ≠ "" := by
  have hlower : ∀ w ∈ words.map Text.lower, w ≠ [] := by
    intro w hw
    obtain ⟨v, hv, rfl⟩ := List.mem_map.mp hw
    exact Text.lower_ne_nil (hwords v hv).ne_nil
  intro h
  have hnil : (keyOfWords words).toList = [] := by rw [h]; rfl
  rw [keyOfWords, String.toList_ofList] at hnil
  exact Text.joinWith_ne_nil (by simpa using hne) hlower hnil

/-- **Only an alias without lexemes has the empty key.** -/
theorem key_eq_empty_iff (label : String) : key label = "" ↔ Lexeme.words label.toList = [] := by
  rw [key_eq_keyOfWords]
  constructor
  · intro h
    refine Decidable.byContradiction fun hne => ?_
    exact keyOfWords_ne_empty hne (fun _ => Lexeme.isWord_of_mem_words) h
  · intro h
    rw [h]
    rfl

/-- How many lexemes an alias has. -/
def size (label : String) : Nat := (Lexeme.scan label.toList).length

theorem size_eq_length_words (label : String) :
    size label = (Lexeme.words label.toList).length := by
  rw [size, Lexeme.words, List.length_map]

theorem key_eq_empty_iff_size (label : String) : key label = "" ↔ size label = 0 := by
  rw [key_eq_empty_iff, size_eq_length_words, List.length_eq_zero_iff]

/-- **A key has the size of its alias**: lower case brings no space in. -/
theorem keySize_key {label : String} (h : 0 < size label) : keySize (key label) = size label := by
  rw [size_eq_length_words] at h ⊢
  rw [key_eq_keyOfWords,
    keySize_keyOfWords (List.ne_nil_of_length_pos h) fun _ => Lexeme.isWord_of_mem_words]

theorem keySize_keyOf {lexemes : List Lexeme} (hne : lexemes ≠ [])
    (h : ∀ l ∈ lexemes, Lexeme.IsWord l.text) : keySize (keyOf lexemes) = lexemes.length := by
  rw [keyOf_eq_keyOfWords, keySize_keyOfWords (by simpa using hne) (by simpa using h),
    List.length_map]

/-! ## Slices of the lexemes of a text -/

/-- From one lexeme up to a later one, by their numbers. -/
theorem key_extract_getElem {cs : List Char} {i n : Nat} (h : i + n < (Lexeme.scan cs).length) :
    key (String.ofList (cs.extract (Lexeme.scan cs)[i].start (Lexeme.scan cs)[i + n].stop))
      = keyOf (((Lexeme.scan cs).drop i).take (n + 1)) := by
  have hdrop : (Lexeme.scan cs).drop i = (Lexeme.scan cs)[i] :: (Lexeme.scan cs).drop (i + 1) :=
    List.drop_eq_getElem_cons (by omega)
  have hlength : n < ((Lexeme.scan cs).drop i).length := by
    rw [List.length_drop]
    omega
  have hkey := key_extract (hdrop ▸ List.drop_suffix i _) (hdrop ▸ hlength)
  rwa [← hdrop, Lexeme.stopOf_eq_getElem hlength, List.getElem_drop] at hkey

theorem keySize_keyOf_slice {cs : List Char} {i n : Nat} (hn : 0 < n)
    (h : i + n ≤ (Lexeme.scan cs).length) :
    keySize (keyOf (((Lexeme.scan cs).drop i).take n)) = n := by
  have hlength : (((Lexeme.scan cs).drop i).take n).length = n := by
    rw [List.length_take, List.length_drop]
    omega
  rw [keySize_keyOf (List.ne_nil_of_length_pos (hlength.symm ▸ hn)), hlength]
  exact fun l hl =>
    Lexeme.isWord_of_mem_scanFrom 0 cs l (List.mem_of_mem_drop (List.mem_of_mem_take hl))

/-- **The key that a text is searched by is the key of the text itself.** Of some lexemes of a text
that follow each other, the key made lexeme by lexeme is the one of the alias that stands between
the beginning of the first and the end of the last, and its spaces say how many there are. -/
theorem keyOf_slice (text : String) {i n : Nat} (hn : 0 < n)
    (h : i + n ≤ (Lexeme.scan text.toList).length) :
    keyOf (((Lexeme.scan text.toList).drop i).take n)
      = key (String.ofList (text.toList.extract (Lexeme.scan text.toList)[i].start
          (Lexeme.scan text.toList)[i + n - 1].stop)) ∧
    (keyOf (((Lexeme.scan text.toList).drop i).take n)).toList.count ' ' + 1 = n := by
  refine ⟨?_, keySize_keyOf_slice hn h⟩
  cases n with
  | zero => exact absurd hn (Nat.lt_irrefl 0)
  | succ n => exact (key_extract_getElem h).symm

/-- The capital sigma ends the first lexeme of this text, and so the key has the final form for it,
which it would not have in the text in lower case. -/
theorem keyOf_slice_sigma :
    0 + 2 ≤ (Lexeme.scan "ΑΣ.Β km".toList).length ∧
    keyOf (((Lexeme.scan "ΑΣ.Β km".toList).drop 0).take 2) = key "ΑΣ.Β" ∧
    (keyOf (((Lexeme.scan "ΑΣ.Β km".toList).drop 0).take 2)).toList.count ' ' + 1 = 2 := by
  have hlength : 0 + 2 ≤ (Lexeme.scan "ΑΣ.Β km".toList).length := by decide +kernel
  obtain ⟨hkey, hcount⟩ := keyOf_slice "ΑΣ.Β km" (by decide) hlength
  have hscan : Lexeme.scan "ΑΣ.Β km".toList = [⟨"ΑΣ".toList, 0, 2⟩, ⟨"Β".toList, 3, 4⟩,
      ⟨"km".toList, 5, 7⟩] := by
    decide +kernel
  have htext : String.ofList ("ΑΣ.Β km".toList.extract 0 4) = "ΑΣ.Β" := by decide +kernel
  simp only [hscan, List.getElem_cons_zero, List.getElem_cons_succ, htext] at hkey
  exact ⟨hlength, hscan ▸ hkey, hcount⟩

end Alias

end Gazetteer
