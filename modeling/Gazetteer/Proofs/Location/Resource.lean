import Gazetteer.Proofs.Location.Escape
import Gazetteer.Proofs.Location.Path

/-!
# Proofs/Location/Resource — the three names of a file

A file is named by its path, by the text of the path and by its URL. The path always names the file.
The text does unless it looks like a URL with a host part that is none: two slashes in front, tabs
and line breaks not counted, are enough for a host part (`hostPart`). The URL names some file in any
case, but it is this one just when no name in the path has an escape (`toPath_toUrl_eq_iff`), for
the escapes in a URL are replaced once too often.
-/

namespace Gazetteer

open Location

/-! ## The text of a path -/

namespace Location

/-- What is taken for the host part of a text that begins with a slash. -/
def hostPart (cs : List Char) : List Char :=
  match meantChars cs with
  | '/' :: '/' :: rest => rest.takeWhile fun c => !(c = '/' || c = '?' || c = '#')
  | _ => []

theorem meantChars_cons_slash (cs : List Char) : ∃ rest, meantChars ('/' :: cs) = '/' :: rest := by
  refine ⟨cs.filter fun c => c ≠ '\t' && c ≠ '\r' && c ≠ '\n', ?_⟩
  rw [meantChars, List.dropWhile_cons_of_neg (by decide), List.filter_cons_of_pos (by decide)]

theorem splitScheme_cons_slash (cs : List Char) : splitScheme ('/' :: cs) = ([], '/' :: cs) := by
  have hletter : isLetter '/' = false := by decide
  have hhead : (Text.beforeFirst ':' ('/' :: cs)).head?.any isLetter = false := by
    rw [Text.beforeFirst, List.takeWhile_cons_of_pos (by decide), List.head?_cons, Option.any_some,
      hletter]
  rw [splitScheme]
  simp only [hhead, Bool.and_false, Bool.false_and, Bool.false_eq_true, if_false]

/-- **A text that begins with a slash** has no scheme, and is refused for its host part only. -/
theorem parse_cons_slash (cs : List Char) : ∃ path, Url.parse ('/' :: cs) =
    match hostFlaw (hostPart ('/' :: cs)) with
    | some flaw => .error flaw
    | none => .ok ⟨[], hostPart ('/' :: cs), path⟩ := by
  obtain ⟨rest, hmeant⟩ := meantChars_cons_slash cs
  rw [Url.parse, hostPart, hmeant, splitScheme_cons_slash]
  cases rest with
  | nil => exact ⟨_, rfl⟩
  | cons c rest =>
    by_cases hc : c = '/'
    · subst hc
      exact ⟨_, rfl⟩
    · have hnone : hostFlaw [] = none := by decide
      exact ⟨Text.beforeFirst '?' (Text.beforeFirst '#' ('/' :: c :: rest)), by simp [hc, hnone]⟩

end Location

theorem Resource.toPath_text_cons_slash {s : String} {cs : List Char} (h : s.toList = '/' :: cs) :
    (Resource.text s).toPath =
      match hostFlaw (hostPart s.toList) with
      | some flaw => .error (.host flaw)
      | none => .ok (Path.ofString s) := by
  obtain ⟨path, hparse⟩ := parse_cons_slash cs
  rw [toPath, h, hparse]
  cases hostFlaw (hostPart ('/' :: cs)) <;> rfl

/-! ## The URL of a path -/

namespace Text

variable {between : List Char}

theorem length_joinWith_le_cons (piece : List Char) : ∀ pieces : List (List Char),
    (joinWith between pieces).length ≤ (joinWith between (piece :: pieces)).length
  | [] => Nat.zero_le _
  | next :: pieces => by
      rw [joinWith_cons_cons, List.length_append]
      exact Nat.le_add_left _ _

theorem length_joinWith_le {xs ys : List (List Char)} (h : xs.Sublist ys) :
    (joinWith between xs).length ≤ (joinWith between ys).length := by
  induction h with
  | slnil => exact Nat.le_refl _
  | cons piece h ih => exact ih.trans (length_joinWith_le_cons piece _)
  | @cons_cons xs ys piece h ih =>
    match xs, ys with
    | [], [] => exact Nat.le_refl _
    | [], next :: ys =>
      rw [joinWith_cons_cons, joinWith, List.length_append, List.length_append]
      omega
    | _ :: _, [] => exact absurd h (by simp)
    | x :: xs, y :: ys =>
      simp only [joinWith_cons_cons, List.length_append]
      omega

end Text

namespace Path

/-- A text is the slashes in front of it, as many as count or more, and the rest. -/
theorem exists_replicate_slash (cs : List Char) : ∃ n v, cs = List.replicate n '/' ++ v ∧
    slashesOf cs ≤ n := by
  have hslashes : cs.takeWhile (· = '/') = List.replicate (cs.takeWhile (· = '/')).length '/' :=
    List.eq_replicate_of_mem fun c hc => by simpa using List.mem_takeWhile_imp hc
  refine ⟨(cs.takeWhile (· = '/')).length, cs.dropWhile (· = '/'), ?_, ?_⟩
  · rw [← hslashes, List.takeWhile_append_dropWhile]
  · rw [slashesOf]
    split <;> omega

theorem slashesOf_cons_slash (cs : List Char) : slashesOf ('/' :: cs) ≠ 0 := by
  rw [slashesOf, List.takeWhile_cons_of_pos (by decide), List.length_cons]
  split <;> omega

theorem text_ofString_cons_slash (cs : List Char) :
    (ofString (String.ofList ('/' :: cs))).text.toList
      = List.replicate (slashesOf ('/' :: cs)) '/' ++ Text.joinWith ['/']
          ((Text.splitOnChar '/' ('/' :: cs)).filter fun p => p ≠ [] && p ≠ ['.']) := by
  rw [toList_text (.inl (by simp [ofString, slashesOf_cons_slash]))]
  simp [ofString, Function.comp_def]

/-- The text of a path that is read from a text is no longer than this text. -/
theorem length_text_ofString_le (cs : List Char) :
    (ofString (String.ofList ('/' :: cs))).text.toList.length ≤ ('/' :: cs).length := by
  obtain ⟨n, v, hcs, hle⟩ := exists_replicate_slash ('/' :: cs)
  rw [text_ofString_cons_slash, List.length_append, List.length_replicate]
  rw [hcs] at hle ⊢
  have hkept : ((Text.splitOnChar '/' (List.replicate n '/' ++ v)).filter
      fun p => p ≠ [] && p ≠ ['.']).Sublist (Text.splitOnChar '/' v) := by
    rw [Text.splitOnChar_replicate, List.filter_append]
    simp
  calc
    _ ≤ n + (Text.joinWith ['/'] (Text.splitOnChar '/' v)).length :=
      Nat.add_le_add hle (Text.length_joinWith_le hkept)
    _ = (List.replicate n '/' ++ v).length := by
      rw [Text.joinWith_splitOnChar, List.length_append, List.length_replicate]

/-- A slash is in no escape. -/
theorem hasEscape_joinWith : ∀ pieces : List (List Char),
    hasEscape (Text.joinWith ['/'] pieces) = pieces.any hasEscape
  | [] => rfl
  | [piece] => by simp [Text.joinWith]
  | piece :: next :: pieces => by
      rw [Text.joinWith_cons_cons, List.append_assoc, List.singleton_append,
        hasEscape_append_cons (by decide) (by decide), hasEscape_joinWith (next :: pieces),
        List.any_cons, List.any_cons, List.any_cons]

theorem hasEscape_replicate_slash (k : Nat) (cs : List Char) :
    hasEscape (List.replicate k '/' ++ cs) = hasEscape cs := by
  induction k with
  | zero => rfl
  | succ k ih =>
    rw [List.replicate_succ, List.cons_append, hasEscape_cons_of_ne (by decide), ih]

variable {here p : Path}

theorem hasEscape_text_eq_false_iff (h : p.isAbsolute = true) :
    hasEscape p.text.toList = false ↔ ∀ name ∈ p.names, hasEscape name.toList = false := by
  rw [text_of_isAbsolute h, hasEscape_replicate_slash, hasEscape_joinWith]
  simp

/-- **The URL of a path names this path** just when no name in it has an escape. -/
theorem toPath_toUrl_eq_iff (hp : p.IsProper) (h : p.isAbsolute = true) :
    (Resource.text (toUrl here p)).toPath = .ok p ↔
      ∀ name ∈ p.names, hasEscape name.toList = false := by
  have hjoin := join_of_isAbsolute h here
  have htoPath := Resource.toPath_toUrl (by rwa [hjoin])
  rw [hjoin] at htoPath
  rw [htoPath, ← hasEscape_text_eq_false_iff h]
  constructor
  · intro hread
    refine Bool.eq_false_iff.mpr fun hescape => ?_
    -- The text has become shorter, and reading a path from it does not make it longer again.
    obtain ⟨cs, hcs⟩ := exists_text h
    have hslash : unescape ('/' :: cs) = '/' :: unescape cs := by
      have hempty : unescape [] = [] := unescape_of_not_hasEscape rfl
      simpa only [hempty, List.nil_append] using unescape_append_slash [] cs
    have hlt := length_unescape_lt hescape
    have hle := length_text_ofString_le (unescape cs)
    rw [hcs, hslash] at hlt hread
    rw [Except.ok.inj hread, hcs] at hle
    exact absurd hlt (Nat.not_lt.mpr hle)
  · intro hescape
    rw [unescape_of_not_hasEscape hescape, String.ofList_toList, ofString_text hp]

/-- One slash is no host part, unless a tab or a line break hides a second one. -/
theorem hostPart_text_of_slashes_eq_one (hp : p.IsProper) (h : p.slashes = 1)
    (hplain : ∀ c ∈ p.text.toList, c ≠ '\t' ∧ c ≠ '\r' ∧ c ≠ '\n') :
    hostPart p.text.toList = [] := by
  have habsolute : p.isAbsolute = true := by simp [isAbsolute, h]
  have htext := text_of_isAbsolute habsolute
  rw [h, List.replicate_one, List.singleton_append] at htext
  have hmeant : meantChars p.text.toList = p.text.toList := by
    have hkept : p.text.toList.filter (fun c => c ≠ '\t' && c ≠ '\r' && c ≠ '\n')
        = p.text.toList := List.filter_eq_self.mpr fun c hc => by simp [hplain c hc]
    have hfront : p.text.toList.dropWhile (fun c => c.toNat ≤ 0x20) = p.text.toList := by
      rw [htext, List.dropWhile_cons_of_neg (by decide)]
    rw [meantChars, hfront, hkept]
  rw [hostPart, hmeant, htext]
  split
  · rename_i rest heq
    -- A second slash would be the first character of a name.
    have hnames : p.names ≠ [] := fun hnil => by simp [hnil, Text.joinWith] at heq
    have hslash := takeWhile_slash_joinWith hnames hp.names
    rw [(List.cons.inj heq).2, List.takeWhile_cons_of_pos (by decide)] at hslash
    exact absurd hslash (List.cons_ne_nil _ _)
  · rfl

/-! ## The three names -/

/-- What the names of a file stand for: its path, the text of the path, and the URL of the path. -/
structure Named (here p : Path) : Prop where
  path : (Resource.path p).toPath = .ok p
  /-- The text stands for the path unless its host part is refused. -/
  text : (Resource.text p.text).toPath =
    match hostFlaw (hostPart p.text.toList) with
    | some flaw => .error (.host flaw)
    | none => .ok p
  /-- The text of a path with one slash in front, and without tabs or line breaks, stands for it. -/
  plain : p.slashes = 1 → (∀ c ∈ p.text.toList, c ≠ '\t' ∧ c ≠ '\r' ∧ c ≠ '\n') →
    (Resource.text p.text).toPath = .ok p
  /-- The URL stands for some path. -/
  url : ∃ q, (Resource.text (toUrl here p)).toPath = .ok q
  /-- The URL stands for the path just when no name in it has an escape. -/
  url_iff : (Resource.text (toUrl here p)).toPath = .ok p ↔
    ∀ name ∈ p.names, hasEscape name.toList = false

/-- **The three names of a file**, for every absolute path. -/
theorem named_of_isAbsolute (hp : p.IsProper) (h : p.isAbsolute = true) (here : Path) :
    Named here p := by
  obtain ⟨cs, hcs⟩ := exists_text h
  have htext := Resource.toPath_text_cons_slash hcs
  rw [ofString_text hp] at htext
  exact {
    path := rfl
    text := htext
    plain := fun hone hplain => by
      have hnone : hostFlaw [] = none := by decide
      rw [htext, hostPart_text_of_slashes_eq_one hp hone hplain, hnone]
    url := ⟨_, Resource.toPath_toUrl (by rwa [join_of_isAbsolute h here])⟩
    url_iff := toPath_toUrl_eq_iff hp h }

/-- **Two paths that lose a name**: an escape in a name is replaced in the URL, and a bracket behind
two slashes is taken for the beginning of an address. -/
theorem named_percent :
    Named ⟨1, ["r"]⟩ ⟨1, ["50%25"]⟩ ∧ Named ⟨1, ["r"]⟩ ⟨2, ["[x"]⟩ ∧
    (Resource.text (toUrl ⟨1, ["r"]⟩ ⟨1, ["50%25"]⟩)).toPath ≠ .ok ⟨1, ["50%25"]⟩ ∧
    (Resource.text (Path.text ⟨2, ["[x"]⟩)).toPath = .error (.host .unbalanced) := by
  have hproper : ∀ p ∈ [(⟨1, ["50%25"]⟩ : Path), ⟨2, ["[x"]⟩], p.slashes ≤ 2 ∧
      ∀ name ∈ p.names, IsName name := by decide
  have hpercent := hproper ⟨1, ["50%25"]⟩ (by decide)
  have hbracket := hproper ⟨2, ["[x"]⟩ (by decide)
  have hnamed : Named ⟨1, ["r"]⟩ ⟨1, ["50%25"]⟩ :=
    named_of_isAbsolute ⟨hpercent.1, hpercent.2⟩ rfl ⟨1, ["r"]⟩
  have hnamed' : Named ⟨1, ["r"]⟩ ⟨2, ["[x"]⟩ :=
    named_of_isAbsolute ⟨hbracket.1, hbracket.2⟩ rfl ⟨1, ["r"]⟩
  refine ⟨hnamed, hnamed', ?_, ?_⟩
  · rw [Ne, hnamed.url_iff]
    decide +kernel
  · rw [hnamed'.text]
    decide +kernel

end Path

end Gazetteer
