import Gazetteer.Location.Resource
import Gazetteer.Proofs.Location.Path
import Gazetteer.Proofs.Text.Utf8
import Mathlib.Data.List.TakeWhile

/-!
# Proofs/Location/Url — `file:` URLs are read back

Every byte of a text that is escaped becomes a few plain characters of ASCII
(`isEscaped_of_mem_escape`) which stand for this byte again, so that a text is read back from its
escaped form (`unescape_escape`). A `file:` URL is therefore read as the escaped text behind it
(`parse_fileUrl`), and since a resource has its escapes replaced twice over, the path of a URL is
that of the text with escapes replaced once more (`toPath_toUrl`).

A slash is never part of an escape or of the bytes of another character, so that replacing escapes
goes name by name (`unescape_append_slash`), and the last name of a path is found again
(`exists_names_toUrl`).
-/

namespace Gazetteer.Location

/-! ## One byte -/

/-- What is written for one byte. -/
def escapeByte (b : UInt8) : List Char :=
  if isPlainByte b then [Char.ofNat b.toNat]
  else ['%', upperHex (b.toNat / 16), upperHex (b.toNat % 16)]

theorem escape_eq (cs : List Char) : escape cs = (Text.encode cs).flatMap escapeByte := rfl

/-- Whether a character can stand in an escaped text. -/
def isEscaped (c : Char) : Bool :=
  0x20 < c.toNat && c.toNat < 0x80 && c ≠ '#' && c ≠ '?'

theorem forall_byte {p : UInt8 → Bool}
    (h : ((List.range 256).all fun n => p (UInt8.ofNat n)) = true) (b : UInt8) : p b = true := by
  have hb := List.all_eq_true.mp h b.toNat (List.mem_range.mpr b.toNat_lt)
  rwa [UInt8.ofNat_toNat] at hb

theorem isEscaped_escapeByte (b : UInt8) : (escapeByte b).all isEscaped = true :=
  forall_byte (p := fun b => (escapeByte b).all isEscaped) (by decide +kernel) b

theorem plainByte_spec (b : UInt8) :
    (!isPlainByte b || (Char.ofNat b.toNat != '%' && UInt8.ofNat (Char.ofNat b.toNat).toNat == b))
      = true :=
  forall_byte (p := fun b =>
    !isPlainByte b || (Char.ofNat b.toNat != '%' && UInt8.ofNat (Char.ofNat b.toNat).toNat == b))
    (by decide +kernel) b

theorem escapedByte_spec (b : UInt8) :
    (isHex (upperHex (b.toNat / 16)) && isHex (upperHex (b.toNat % 16))
      && UInt8.ofNat (16 * hexValue (upperHex (b.toNat / 16)) + hexValue (upperHex (b.toNat % 16)))
        == b) = true :=
  forall_byte (p := fun b =>
    isHex (upperHex (b.toNat / 16)) && isHex (upperHex (b.toNat % 16))
      && UInt8.ofNat (16 * hexValue (upperHex (b.toNat / 16)) + hexValue (upperHex (b.toNat % 16)))
        == b) (by decide +kernel) b

theorem unescapeBytes_cons {c : Char} (h : c ≠ '%') (rest : List Char) :
    unescapeBytes (c :: rest) = UInt8.ofNat c.toNat :: unescapeBytes rest := by
  rw [unescapeBytes]
  rintro _ _ _ rfl
  exact absurd rfl h

/-- **What is written for a byte** stands for this byte, whatever follows. -/
theorem unescapeBytes_escapeByte (b : UInt8) (rest : List Char) :
    unescapeBytes (escapeByte b ++ rest) = b :: unescapeBytes rest := by
  rw [escapeByte]
  by_cases h : isPlainByte b = true
  · have hb := plainByte_spec b
    simp only [h, Bool.not_true, Bool.false_or, Bool.and_eq_true, bne_iff_ne, beq_iff_eq] at hb
    rw [if_pos h, List.singleton_append, unescapeBytes_cons hb.1, hb.2]
  · have hb := escapedByte_spec b
    simp only [Bool.and_eq_true, beq_iff_eq] at hb
    obtain ⟨⟨hhigh, hlow⟩, hvalue⟩ := hb
    rw [if_neg h, List.cons_append, List.cons_append, List.cons_append, List.nil_append,
      unescapeBytes, hhigh, hlow, Bool.and_self, if_pos rfl, hvalue]

/-! ## Whole texts -/

theorem isEscaped_of_mem_escape {cs : List Char} : ∀ c ∈ escape cs, isEscaped c = true := by
  intro c hc
  rw [escape_eq] at hc
  obtain ⟨b, -, hb⟩ := List.mem_flatMap.mp hc
  exact List.all_eq_true.mp (isEscaped_escapeByte b) c hb

theorem unescapeBytes_escape (cs : List Char) : unescapeBytes (escape cs) = Text.encode cs := by
  rw [escape_eq]
  induction Text.encode cs with
  | nil => rfl
  | cons b bytes ih => rw [List.flatMap_cons, unescapeBytes_escapeByte, ih]

/-- A text of ASCII is one stretch. -/
theorem unescapePieces_of_ascii : ∀ {cs : List Char} (taken : List Char),
    (∀ c ∈ cs, c.toNat < 0x80) →
      unescapePieces taken cs = Text.decodeLossy (unescapeBytes (taken.reverse ++ cs))
  | [], taken, _ => by rw [unescapePieces, List.append_nil]
  | c :: cs, taken, h => by
      rw [unescapePieces, if_pos (h c List.mem_cons_self),
        unescapePieces_of_ascii (c :: taken) fun d hd => h d (List.mem_cons_of_mem c hd),
        List.reverse_cons, List.append_assoc, List.singleton_append]

/-- **A text is read back from its escaped form.** -/
theorem unescape_escape (cs : List Char) : unescape (escape cs) = cs := by
  have hascii : ∀ c ∈ escape cs, c.toNat < 0x80 := by
    intro c hc
    have := isEscaped_of_mem_escape c hc
    simp only [isEscaped, Bool.and_eq_true, decide_eq_true_eq] at this
    exact this.1.1.2
  rw [unescape, unescapePieces_of_ascii [] hascii, List.reverse_nil, List.nil_append,
    unescapeBytes_escape, Text.decodeLossy_encode]

/-! ## Reading a `file:` URL -/

theorem meantChars_of_all {cs : List Char} (h : ∀ c ∈ cs, 0x20 < c.toNat) : meantChars cs = cs := by
  have hdrop : cs.dropWhile (fun c => c.toNat ≤ 0x20) = cs := by
    cases cs with
    | nil => rfl
    | cons c cs =>
      have hc := h c List.mem_cons_self
      rw [List.dropWhile_cons_of_neg (by simpa using hc)]
  rw [meantChars, hdrop, List.filter_eq_self]
  intro c hc
  have := h c hc
  have hne : ∀ d : Char, d.toNat ≤ 0x20 → c ≠ d := by
    rintro d hd rfl
    omega
  simp [hne '\t' (by decide), hne '\r' (by decide), hne '\n' (by decide)]

theorem beforeFirst_of_notMem {c : Char} {cs : List Char} (h : c ∉ cs) :
    Text.beforeFirst c cs = cs := by
  rw [Text.beforeFirst, List.takeWhile_eq_self_iff]
  intro d hd
  have hne : d ≠ c := fun heq => h (heq ▸ hd)
  simpa using hne

/-- **A `file:` URL with an absolute path** is read as the path in its escaped form. -/
theorem parse_fileUrl (cs : List Char) :
    Url.parse ("file://".toList ++ escape ('/' :: cs))
      = .ok ⟨['f', 'i', 'l', 'e'], [], escape ('/' :: cs)⟩ := by
  have hescaped : ∀ c ∈ escape ('/' :: cs), isEscaped c = true := isEscaped_of_mem_escape
  have hmeant : meantChars ("file://".toList ++ escape ('/' :: cs))
      = "file://".toList ++ escape ('/' :: cs) := by
    refine meantChars_of_all fun c hc => ?_
    rcases List.mem_append.mp hc with hc | hc
    · have hfront : ∀ c ∈ "file://".toList, 0x20 < c.toNat := by simp
      exact hfront c hc
    · have := hescaped c hc
      simp only [isEscaped, Bool.and_eq_true, decide_eq_true_eq] at this
      exact this.1.1.1
  have hnot : ∀ d : Char, isEscaped d = false → d ∉ escape ('/' :: cs) := by
    intro d hd hmem
    rw [hescaped d hmem] at hd
    exact absurd hd (by simp)
  obtain ⟨rest, hrest⟩ : ∃ rest, escape ('/' :: cs) = '/' :: rest :=
    ⟨escape cs, by simp [escape_eq, Text.encode, Text.encodeChar]; rfl⟩
  have hpath : Text.beforeFirst '?' (Text.beforeFirst '#' (escape ('/' :: cs)))
      = escape ('/' :: cs) := by
    rw [beforeFirst_of_notMem (hnot '#' (by decide)), beforeFirst_of_notMem (hnot '?' (by decide))]
  rw [hrest] at hpath hmeant ⊢
  have hscheme : splitScheme ("file://".toList ++ '/' :: rest)
      = (['f', 'i', 'l', 'e'], '/' :: '/' :: '/' :: rest) := by
    rfl
  have hhost : hostFlaw [] = none := by decide
  simp only [Url.parse, hmeant, hscheme, List.takeWhile_cons, List.dropWhile_cons]
  simp [hhost, hpath]

end Gazetteer.Location

namespace Gazetteer

open Location

theorem Path.exists_text {p : Path} (h : p.isAbsolute = true) :
    ∃ cs, p.text.toList = '/' :: cs := by
  have hslashes : p.slashes ≠ 0 := by simpa [isAbsolute] using h
  obtain ⟨n, hn⟩ := Nat.exists_eq_succ_of_ne_zero hslashes
  rw [text_of_isAbsolute h, hn, List.replicate_succ]
  exact ⟨_, rfl⟩

/-- **The path of a `file:` URL** is that of the text it was made from, with escapes replaced. -/
theorem Resource.toPath_toUrl {here p : Path} (h : (here.join p).isAbsolute = true) :
    (Resource.text (Path.toUrl here p)).toPath
      = .ok (Path.ofString (String.ofList (unescape (here.join p).text.toList))) := by
  obtain ⟨cs, hcs⟩ := Path.exists_text h
  have hurl : (Path.toUrl here p).toList = "file://".toList ++ escape ('/' :: cs) := by
    simp only [Path.toUrl, String.toList_append, String.toList_ofList, hcs]
  rw [toPath, hurl, parse_fileUrl]
  simp only [if_true, unescape_escape, hcs]

/-! ## Escapes name by name -/

namespace Location

/-- Whether two hexadecimal digits come next. -/
def beginsHex : List Char → Bool
  | a :: b :: _ => isHex a && isHex b
  | _ => false

theorem unescapeBytes_percent {rest : List Char} (h : beginsHex rest = false) :
    unescapeBytes ('%' :: rest) = 0x25 :: unescapeBytes rest := by
  match rest, h with
  | [], _ => rfl
  | [a], _ => rfl
  | a :: b :: rest, h =>
    rw [beginsHex] at h
    rw [unescapeBytes, h, if_neg (by simp)]

/-- A character that is no digit ends an escape that is not complete. -/
theorem beginsHex_append_cons {c : Char} (h : isHex c = false) (xs ys : List Char) :
    beginsHex (xs ++ c :: ys) = beginsHex xs := by
  match xs with
  | [] => cases ys <;> simp [beginsHex, h]
  | [a] => simp [beginsHex, h]
  | a :: b :: xs => rfl

theorem unescapeBytes_append_slash : ∀ xs ys : List Char,
    unescapeBytes (xs ++ '/' :: ys) = unescapeBytes xs ++ 0x2f :: unescapeBytes ys
  | [], ys => unescapeBytes_cons (by decide) ys
  | c :: xs, ys => by
      by_cases hc : c = '%'
      · subst hc
        cases hhex : beginsHex xs with
        | false =>
          have hhex' : beginsHex (xs ++ '/' :: ys) = false :=
            (beginsHex_append_cons (by decide) xs ys).trans hhex
          rw [List.cons_append, unescapeBytes_percent hhex', unescapeBytes_percent hhex,
            unescapeBytes_append_slash xs ys, List.cons_append]
        | true =>
          match xs, hhex with
          | a :: b :: xs, hhex =>
            rw [beginsHex] at hhex
            simp only [List.cons_append, unescapeBytes, hhex, if_true,
              unescapeBytes_append_slash xs ys]
      · rw [List.cons_append, unescapeBytes_cons hc, unescapeBytes_cons hc,
          unescapeBytes_append_slash xs ys, List.cons_append]

/-- A slash ends a stretch, whatever has been taken since. -/
theorem unescapePieces_after_slash (taken : List Char) : ∀ (ys more : List Char),
    unescapePieces (more ++ '/' :: taken) ys
      = Text.decodeLossy (unescapeBytes taken.reverse) ++ '/' :: unescapePieces more ys
  | [], more => by
      rw [unescapePieces, unescapePieces, List.reverse_append, List.reverse_cons, List.append_assoc,
        List.singleton_append, unescapeBytes_append_slash, Text.decodeLossy_append_slash]
  | c :: ys, more => by
      rw [unescapePieces, unescapePieces]
      split
      · exact unescapePieces_after_slash taken ys (c :: more)
      · rw [List.reverse_append, List.reverse_cons, List.append_assoc, List.singleton_append,
          unescapeBytes_append_slash, Text.decodeLossy_append_slash, List.append_assoc,
          List.cons_append]

theorem unescapePieces_append_slash (ys : List Char) : ∀ (xs taken : List Char),
    unescapePieces taken (xs ++ '/' :: ys) = unescapePieces taken xs ++ '/' :: unescape ys
  | [], taken => by
      have hslash : unescapePieces taken ('/' :: ys) = unescapePieces ('/' :: taken) ys := by
        rw [unescapePieces, if_pos (by decide)]
      rw [List.nil_append, hslash, unescapePieces.eq_1]
      exact unescapePieces_after_slash taken ys []
  | c :: xs, taken => by
      rw [List.cons_append, unescapePieces, unescapePieces]
      split
      · exact unescapePieces_append_slash ys xs (c :: taken)
      · rw [unescapePieces_append_slash ys xs [], List.append_assoc, List.cons_append]

/-- **Escapes are replaced name by name.** -/
theorem unescape_append_slash (xs ys : List Char) :
    unescape (xs ++ '/' :: ys) = unescape xs ++ '/' :: unescape ys :=
  unescapePieces_append_slash ys xs []

end Location

/-! ## The last name of a path -/

namespace Path

variable {p : Path} {names : List String} {last : String}

/-- The text of an absolute path ends in its last name. -/
theorem exists_text_append (h : p.isAbsolute = true) (hp : p.names = names ++ [last]) :
    ∃ front, p.text.toList = front ++ '/' :: last.toList := by
  have hslashes : p.slashes ≠ 0 := by simpa [isAbsolute] using h
  rw [text_of_isAbsolute h, hp, List.map_append, List.map_singleton]
  by_cases hnames : names = []
  · obtain ⟨n, hn⟩ := Nat.exists_eq_succ_of_ne_zero hslashes
    refine ⟨List.replicate n '/', ?_⟩
    rw [hn, hnames, List.replicate_succ', List.append_assoc]
    rfl
  · refine ⟨List.replicate p.slashes '/' ++ Text.joinWith ['/'] (names.map String.toList), ?_⟩
    rw [Text.joinWith_append_singleton _ _ (by simpa using hnames)]
    simp

/-- Whether a text is a name that stays itself when a path or a URL is read. -/
def IsPlainName (name : String) : Prop :=
  Text.splitOnChar '/' name.toList = [name.toList] ∧ name.toList ≠ [] ∧ name.toList ≠ ['.'] ∧
    unescape name.toList = name.toList

instance (name : String) : Decidable (IsPlainName name) :=
  inferInstanceAs (Decidable (_ ∧ _ ∧ _ ∧ _))

/-- A text that ends in a plain name has it as its last name. -/
theorem exists_names_ofString (front : List Char) (h : IsPlainName last) :
    ∃ names, (ofString (String.ofList (front ++ '/' :: last.toList))).names = names ++ [last] := by
  obtain ⟨hsplit, hne, hdot, -⟩ := h
  refine ⟨((Text.splitOnChar '/' front).filter fun p => p ≠ [] && p ≠ ['.']).map String.ofList, ?_⟩
  have hkept : ([last.toList].filter fun p => p ≠ [] && p ≠ ['.']) = [last.toList] := by
    simp [hne, hdot]
  rw [ofString, String.toList_ofList, Text.splitOnChar_append, hsplit]
  simp only [List.filter_append, List.map_append, hkept, List.map_cons, List.map_nil,
    String.ofList_toList]

/-- **The last name of a path** is the last name of what its URL names. -/
theorem exists_names_toUrl {here : Path} (h : (here.join p).isAbsolute = true)
    (hp : (here.join p).names = names ++ [last]) (hlast : IsPlainName last) :
    ∃ q names', (Resource.text (toUrl here p)).toPath = .ok q ∧ q.names = names' ++ [last] := by
  obtain ⟨front, hfront⟩ := exists_text_append h hp
  have htoPath := Resource.toPath_toUrl h
  rw [hfront, unescape_append_slash, hlast.2.2.2] at htoPath
  obtain ⟨names', hnames'⟩ := exists_names_ofString (unescape front) hlast
  exact ⟨_, names', htoPath, hnames'⟩

end Path

end Gazetteer
