import Gazetteer.Location.Path

/-!
# Proofs/Location/Path — paths are read back from their text

A path that is read from a text has plain names: none of them is empty or a single dot, and none has
a slash in it (`isProper_ofString`). Such paths stay proper when they are joined, and the text of a
proper path stands for this path again (`ofString_text`).
-/

namespace Gazetteer

/-! ## Pieces of a text -/

namespace Text

theorem splitOnChar_append (c : Char) (ys : List Char) : ∀ xs : List Char,
    splitOnChar c (xs ++ c :: ys) = splitOnChar c xs ++ splitOnChar c ys
  | [] => by
      rw [List.nil_append, splitOnChar.eq_2, if_pos rfl]
      rfl
  | d :: xs => by
      have ih := splitOnChar_append c ys xs
      obtain ⟨piece, pieces, hs⟩ := List.exists_cons_of_ne_nil (splitOnChar_ne_nil c xs)
      rw [List.cons_append, splitOnChar, splitOnChar, ih, hs]
      split <;> simp

theorem joinWith_cons_cons (between piece next : List Char) (pieces : List (List Char)) :
    joinWith between (piece :: next :: pieces)
      = piece ++ between ++ joinWith between (next :: pieces) := rfl

theorem joinWith_append_singleton (between last : List Char) :
    ∀ {pieces : List (List Char)}, pieces ≠ [] →
      joinWith between (pieces ++ [last]) = joinWith between pieces ++ between ++ last
  | [], h => absurd rfl h
  | [piece], _ => by simp [joinWith]
  | piece :: next :: pieces, _ => by
      have ih := joinWith_append_singleton between last (List.cons_ne_nil next pieces)
      rw [joinWith_cons_cons, List.append_assoc, List.append_assoc, List.cons_append,
        List.cons_append, joinWith_cons_cons, ← List.cons_append, ih]
      simp only [List.append_assoc]

variable {c : Char}

theorem splitOnChar_of_notMem : ∀ {cs : List Char}, c ∉ cs → splitOnChar c cs = [cs]
  | [], _ => rfl
  | d :: cs, h => by
      rw [List.mem_cons, not_or] at h
      rw [splitOnChar, if_neg (Ne.symm h.1), splitOnChar_of_notMem h.2]

theorem notMem_of_mem_splitOnChar : ∀ {cs piece : List Char}, piece ∈ splitOnChar c cs → c ∉ piece
  | [], piece, h => by
      rw [List.mem_singleton.mp h]
      exact List.not_mem_nil
  | d :: cs, piece, h => by
      rw [splitOnChar] at h
      split at h
      · rcases List.mem_cons.mp h with rfl | h
        · exact List.not_mem_nil
        · exact notMem_of_mem_splitOnChar h
      · rename_i hne
        obtain ⟨first, others, hs⟩ := List.exists_cons_of_ne_nil (splitOnChar_ne_nil c cs)
        have hpieces : ∀ p ∈ first :: others, c ∉ p := fun p hp =>
          notMem_of_mem_splitOnChar (hs ▸ hp)
        rw [hs] at h
        rcases List.mem_cons.mp h with rfl | h
        · rw [List.mem_cons, not_or]
          exact ⟨Ne.symm hne, hpieces first List.mem_cons_self⟩
        · exact hpieces piece (List.mem_cons_of_mem first h)

/-- **Pieces that are joined** are found again. -/
theorem splitOnChar_joinWith : ∀ {pieces : List (List Char)}, pieces ≠ [] →
    (∀ piece ∈ pieces, c ∉ piece) → splitOnChar c (joinWith [c] pieces) = pieces
  | [], hne, _ => absurd rfl hne
  | [piece], _, h => splitOnChar_of_notMem (h piece List.mem_cons_self)
  | piece :: next :: pieces, _, h => by
      have ih := splitOnChar_joinWith (List.cons_ne_nil next pieces)
        fun p hp => h p (List.mem_cons_of_mem piece hp)
      rw [joinWith_cons_cons, List.append_assoc, List.singleton_append, splitOnChar_append,
        splitOnChar_of_notMem (h piece List.mem_cons_self), ih, List.singleton_append]

theorem splitOnChar_replicate (k : Nat) (cs : List Char) :
    splitOnChar c (List.replicate k c ++ cs) = List.replicate k [] ++ splitOnChar c cs := by
  induction k with
  | zero => rfl
  | succ k ih => rw [List.replicate_succ, List.cons_append, splitOnChar, if_pos rfl, ih]; rfl

end Text

namespace Path

/-- Whether a text is a name in a path. -/
def IsName (name : String) : Prop :=
  '/' ∉ name.toList ∧ name.toList ≠ [] ∧ name.toList ≠ ['.']

instance (name : String) : Decidable (IsName name) := inferInstanceAs (Decidable (_ ∧ _ ∧ _))

/-- Whether a path is one that a text stands for. -/
structure IsProper (p : Path) : Prop where
  slashes : p.slashes ≤ 2
  names : ∀ name ∈ p.names, IsName name

theorem isProper_ofString (s : String) : (ofString s).IsProper where
  slashes := by
    rw [ofString, slashesOf]
    dsimp only
    split <;> omega
  names name hname := by
    obtain ⟨piece, hpiece, rfl⟩ := List.mem_map.mp hname
    obtain ⟨hmem, hkept⟩ := List.mem_filter.mp hpiece
    rw [IsName, String.toList_ofList]
    exact ⟨Text.notMem_of_mem_splitOnChar hmem, by simpa using hkept⟩

variable {p q : Path}

theorem IsProper.join (hp : p.IsProper) (hq : q.IsProper) : (p.join q).IsProper := by
  rw [Path.join]
  split
  · exact hq
  · refine ⟨hp.slashes, fun name hname => ?_⟩
    rcases List.mem_append.mp hname with hname | hname
    · exact hp.names name hname
    · exact hq.names name hname

theorem IsProper.child (hp : p.IsProper) (name : String) : (p.child name).IsProper :=
  hp.join (isProper_ofString name)

/-- Only the text of the empty relative path is something else than its slashes and its names. -/
theorem toList_text (h : p.slashes ≠ 0 ∨ p.names ≠ []) : p.text.toList
    = List.replicate p.slashes '/' ++ Text.joinWith ['/'] (p.names.map String.toList) := by
  have hnot : ¬ (p.slashes = 0 && p.names.isEmpty) = true := by
    rcases h with h | h <;> simp [h]
  rw [text, if_neg hnot, String.toList_ofList]

theorem text_of_isAbsolute (h : p.isAbsolute = true) : p.text.toList
    = List.replicate p.slashes '/' ++ Text.joinWith ['/'] (p.names.map String.toList) :=
  toList_text (.inl (by simpa [isAbsolute] using h))

/-- The text of names does not begin with a slash. -/
theorem takeWhile_slash_joinWith {names : List String} (hne : names ≠ [])
    (h : ∀ name ∈ names, IsName name) :
    (Text.joinWith ['/'] (names.map String.toList)).takeWhile (· = '/') = [] := by
  obtain ⟨first, others, rfl⟩ := List.exists_cons_of_ne_nil hne
  obtain ⟨hslash, hfirst, -⟩ := h first List.mem_cons_self
  obtain ⟨c, cs, hcs⟩ := List.exists_cons_of_ne_nil hfirst
  have hc : c ≠ '/' := fun heq => hslash (by rw [hcs, heq]; exact List.mem_cons_self)
  cases others <;> simp [Text.joinWith, hcs, hc]

/-- **The text of a path** stands for this path. -/
theorem ofString_text (h : p.IsProper) : ofString p.text = p := by
  obtain ⟨k, names⟩ := p
  obtain ⟨hk, hnames⟩ := h
  -- Without names there are but three paths; with names, the slashes in front end at the first one.
  by_cases hne : names = []
  · subst hne
    have hall : ∀ k : Fin 3, ofString (Path.mk k []).text = ⟨k, []⟩ := by decide +kernel
    exact hall ⟨k, by simpa [Nat.lt_succ_iff] using hk⟩
  · have htext : (Path.mk k names).text.toList
        = List.replicate k '/' ++ Text.joinWith ['/'] (names.map String.toList) :=
      toList_text (.inr hne)
    have hpieces : Text.splitOnChar '/' (Text.joinWith ['/'] (names.map String.toList))
        = names.map String.toList :=
      Text.splitOnChar_joinWith (by simpa using hne)
        (by simpa using fun name h => (hnames name h).1)
    have hkept : (names.map String.toList).filter (fun p => p ≠ [] && p ≠ ['.'])
        = names.map String.toList := by
      rw [List.filter_eq_self]
      intro piece hpiece
      obtain ⟨name, hname, rfl⟩ := List.mem_map.mp hpiece
      simpa using (hnames name hname).2
    have hslashes : slashesOf (Path.mk k names).text.toList = k := by
      have hbound : k ≤ 2 := hk
      rw [slashesOf, htext, List.takeWhile_append_of_pos (by simp),
        takeWhile_slash_joinWith hne hnames]
      simp only [List.append_nil, List.length_replicate]
      split <;> omega
    rw [ofString, hslashes, htext, Text.splitOnChar_replicate, hpieces, List.filter_append, hkept]
    simp [Function.comp_def]

end Path

end Gazetteer
