import Gazetteer.Fingerprint
import Gazetteer.Proofs.Text.Utf8

/-!
# Proofs/Text/Symbols — stray bytes are kept, and blanks can be collapsed beside them

Bytes that are read as symbols are restored by writing the symbols (`encodeSymbols_decodeSymbols`).
The other way round this is not so: stray bytes that happen to stand side by side may be the bytes
of a character. Symbols that are read back from their bytes are `IsFaithful`; those that bytes are
read as are. A character stands between what is before and after it (`isFaithful_append_char_iff`),
so that runs of blanks can be collapsed without harm (`IsFaithful.collapseSymbols`), and two
configurations whose symbols differ after that differ in their bytes too.
-/

namespace Gazetteer.Text

/-! ## Bytes that are read are written again

Only the shortest form of a character is read as this character, so its bytes are those that are
written for it. -/

theorem toNat_ofNat_of_valid {n : Nat} (h : n < 0xd800 ∨ 0xe000 ≤ n ∧ n < 0x110000) :
    (Char.ofNat n).toNat = n := by
  have hvalid : n.isValidChar := by
    rcases h with h | h
    · exact .inl h
    · exact .inr ⟨by omega, h.2⟩
  rw [Char.ofNat, dif_pos hvalid]
  rfl

theorem encodeChar_ofNat {n : Nat} (h : n < 0xd800 ∨ 0xe000 ≤ n ∧ n < 0x110000) :
    encodeChar (Char.ofNat n) =
      if n < 0x80 then [UInt8.ofNat n]
      else if n < 0x800 then [UInt8.ofNat (0xc0 + n / 0x40), UInt8.ofNat (0x80 + n % 0x40)]
      else if n < 0x10000 then
        [UInt8.ofNat (0xe0 + n / 0x1000), UInt8.ofNat (0x80 + n / 0x40 % 0x40),
          UInt8.ofNat (0x80 + n % 0x40)]
      else
        [UInt8.ofNat (0xf0 + n / 0x40000), UInt8.ofNat (0x80 + n / 0x1000 % 0x40),
          UInt8.ofNat (0x80 + n / 0x40 % 0x40), UInt8.ofNat (0x80 + n % 0x40)] := by
  simp only [encodeChar, toNat_ofNat_of_valid h]

theorem ofNat_eq_byte {n : Nat} {b : UInt8} (h : n = b.toNat) : UInt8.ofNat n = b := by
  rw [h, UInt8.ofNat_toNat]

theorem bounds_of_byteIn {lo hi : Nat} {b : UInt8} (h : byteIn lo hi b = true) :
    lo ≤ b.toNat ∧ b.toNat ≤ hi := by
  simpa [byteIn] using h

section

variable {lo hi lead k : Nat} {b : UInt8} {rest : List UInt8} {c : Char}

theorem encodeChar_of_headOfTwo (hb : 0xc2 ≤ b.toNat) (hb' : b.toNat < 0xe0)
    (h : headOfTwo b.toNat rest = (some c, k)) : encodeChar c = b :: rest.take k := by
  match rest with
  | [] => simp [headOfTwo] at h
  | c1 :: rest =>
    by_cases hc1 : byteIn 0x80 0xbf c1 = true
    · simp only [headOfTwo, hc1, if_true, Prod.mk.injEq, Option.some.injEq] at h
      unfold continuation at h
      have h1 := bounds_of_byteIn hc1
      rw [← h.1, ← h.2, encodeChar_ofNat (by omega), if_neg (by omega), if_pos (by omega),
        ofNat_eq_byte (b := b) (by omega), ofNat_eq_byte (b := c1) (by omega), List.take_succ_cons,
        List.take_zero]
    · simp [headOfTwo, hc1] at h

/-- Lead bytes differ in how they keep out longer forms and surrogates. -/
theorem encodeChar_of_headOfThree (hb : b.toNat = 0xe0 + lead) (hlead : lead < 0x10)
    (hlo : 0x80 ≤ lo) (hhi : hi ≤ 0xbf) (hshort : 0xa0 ≤ lo ∨ 1 ≤ lead)
    (hsurrogate : hi ≤ 0x9f ∨ lead ≠ 0xd) (h : headOfThree lo hi lead rest = (some c, k)) :
    encodeChar c = b :: rest.take k := by
  match rest with
  | [] => simp [headOfThree] at h
  | [c1] => simp [headOfThree] at h
  | c1 :: c2 :: rest =>
    by_cases hc1 : byteIn lo hi c1 = true
    · by_cases hc2 : byteIn 0x80 0xbf c2 = true
      · simp only [headOfThree, hc1, hc2, if_true, Prod.mk.injEq, Option.some.injEq] at h
        unfold continuation at h
        have h1 := bounds_of_byteIn hc1
        have h2 := bounds_of_byteIn hc2
        rw [← h.1, ← h.2, encodeChar_ofNat (by omega), if_neg (by omega), if_neg (by omega),
          if_pos (by omega), ofNat_eq_byte (b := b) (by omega), ofNat_eq_byte (b := c1) (by omega),
          ofNat_eq_byte (b := c2) (by omega), List.take_succ_cons, List.take_succ_cons,
          List.take_zero]
      · simp [headOfThree, hc1, hc2] at h
    · simp [headOfThree, hc1] at h

theorem encodeChar_of_headOfFour (hb : b.toNat = 0xf0 + lead) (hlead : lead ≤ 4)
    (hlo : 0x80 ≤ lo) (hhi : hi ≤ 0xbf) (hshort : 0x90 ≤ lo ∨ 1 ≤ lead)
    (hlast : hi ≤ 0x8f ∨ lead ≠ 4) (h : headOfFour lo hi lead rest = (some c, k)) :
    encodeChar c = b :: rest.take k := by
  match rest with
  | [] => simp [headOfFour] at h
  | [c1] => simp [headOfFour] at h
  | [c1, c2] => simp [headOfFour] at h
  | c1 :: c2 :: c3 :: rest =>
    by_cases hc1 : byteIn lo hi c1 = true
    · by_cases hc2 : byteIn 0x80 0xbf c2 = true
      · by_cases hc3 : byteIn 0x80 0xbf c3 = true
        · simp only [headOfFour, hc1, hc2, hc3, if_true, Prod.mk.injEq, Option.some.injEq] at h
          unfold continuation at h
          have h1 := bounds_of_byteIn hc1
          have h2 := bounds_of_byteIn hc2
          have h3 := bounds_of_byteIn hc3
          rw [← h.1, ← h.2, encodeChar_ofNat (by omega), if_neg (by omega), if_neg (by omega),
            if_neg (by omega), ofNat_eq_byte (b := b) (by omega),
            ofNat_eq_byte (b := c1) (by omega), ofNat_eq_byte (b := c2) (by omega),
            ofNat_eq_byte (b := c3) (by omega), List.take_succ_cons, List.take_succ_cons,
            List.take_succ_cons, List.take_zero]
        · simp [headOfFour, hc1, hc2, hc3] at h
      · simp [headOfFour, hc1, hc2] at h
    · simp [headOfFour, hc1] at h

/-- **The bytes that a character is read from** are its own. -/
theorem encodeChar_of_decodeHead (h : decodeHead b rest = (some c, k)) :
    encodeChar c = b :: rest.take k := by
  rw [decodeHead_eq] at h
  split at h
  · -- a character of ASCII
    rename_i hb
    obtain ⟨hc, hk⟩ := Prod.mk.inj h
    rw [← Option.some.inj hc, ← hk, encodeChar_ofNat (by omega), if_pos hb, UInt8.ofNat_toNat,
      List.take_zero]
  split at h
  · exact absurd h (by simp)
  split at h
  · exact encodeChar_of_headOfTwo (by omega) (by omega) h
  split at h
  · exact encodeChar_of_headOfThree (by omega) (by omega) (by omega) (by omega) (by omega)
      (by omega) h
  split at h
  · exact encodeChar_of_headOfThree (by omega) (by omega) (by omega) (by omega) (by omega)
      (by omega) h
  split at h
  · exact encodeChar_of_headOfThree (by omega) (by omega) (by omega) (by omega) (by omega)
      (by omega) h
  split at h
  · exact encodeChar_of_headOfFour (by omega) (by omega) (by omega) (by omega) (by omega)
      (by omega) h
  split at h
  · exact encodeChar_of_headOfFour (by omega) (by omega) (by omega) (by omega) (by omega)
      (by omega) h
  split at h
  · exact encodeChar_of_headOfFour (by omega) (by omega) (by omega) (by omega) (by omega)
      (by omega) h
  · exact absurd h (by simp)

end

theorem not_isTrail_of_decodeHead {b : UInt8} {rest : List UInt8} {c : Char} {k : Nat}
    (h : decodeHead b rest = (some c, k)) : isTrail b = false := by
  rw [Bool.eq_false_iff]
  intro htrail
  have hb := bounds_of_byteIn htrail
  rw [decodeHead_eq, if_neg (by omega), if_pos (by omega)] at h
  exact absurd h (by simp)

/-! ## Bytes as symbols -/

@[simp] theorem encodeSymbols_nil : encodeSymbols [] = [] := rfl

@[simp] theorem encodeSymbols_cons_char (c : Char) (s : List Symbol) :
    encodeSymbols (.char c :: s) = encodeChar c ++ encodeSymbols s := rfl

@[simp] theorem encodeSymbols_cons_stray (b : UInt8) (s : List Symbol) :
    encodeSymbols (.stray b :: s) = b :: encodeSymbols s := rfl

@[simp] theorem encodeSymbols_append (s t : List Symbol) :
    encodeSymbols (s ++ t) = encodeSymbols s ++ encodeSymbols t := List.flatMap_append

theorem encodeSymbols_map_char (cs : List Char) : encodeSymbols (cs.map .char) = encode cs := by
  rw [encodeSymbols, List.flatMap_map]
  rfl

theorem encodeSymbols_map_stray (stretch : List UInt8) :
    encodeSymbols (stretch.map .stray) = stretch := by
  rw [encodeSymbols, List.flatMap_map]
  exact List.flatMap_singleton' stretch

theorem encodeSymbols_eq_nil {s : List Symbol} (h : encodeSymbols s = []) : s = [] := by
  match s with
  | [] => rfl
  | .char c :: s =>
    obtain ⟨b, tail, hbytes, -⟩ := decodeHead_encodeChar c []
    rw [encodeSymbols_cons_char, hbytes] at h
    exact absurd h (List.cons_ne_nil b _)
  | .stray b :: s => exact absurd h (List.cons_ne_nil b _)

@[simp] theorem decodeSymbols_nil : decodeSymbols [] = [] := by
  rw [decodeSymbols, decodePieces]
  rfl

theorem decodeSymbols_cons (b : UInt8) (rest : List UInt8) : decodeSymbols (b :: rest) =
    (match (decodeHead b rest).1 with
      | some c => [.char c]
      | none => (b :: rest.take (decodeHead b rest).2).map .stray)
      ++ decodeSymbols (rest.drop (decodeHead b rest).2) := by
  rw [decodeSymbols, decodePieces, List.flatMap_cons]
  cases (decodeHead b rest).1 <;> rfl

/-- **Bytes are restored** by writing the symbols that they are read as. -/
theorem encodeSymbols_decodeSymbols (bytes : List UInt8) :
    encodeSymbols (decodeSymbols bytes) = bytes := by
  match bytes with
  | [] => rw [decodeSymbols_nil, encodeSymbols_nil]
  | b :: rest =>
    have ih := encodeSymbols_decodeSymbols (rest.drop (decodeHead b rest).2)
    rw [decodeSymbols_cons, encodeSymbols_append, ih]
    rcases hhead : decodeHead b rest with ⟨_ | c, k⟩
    · simp only [encodeSymbols_map_stray, List.cons_append, List.take_append_drop]
    · simp only [encodeSymbols_cons_char, encodeSymbols_nil, List.append_nil,
        encodeChar_of_decodeHead hhead, List.cons_append, List.take_append_drop]
termination_by bytes.length
decreasing_by simp only [List.length_cons, List.length_drop]; omega

/-- **A character is a cut**: what stands before it and what stands after it are read apart. -/
theorem decodeSymbols_append_encodeChar (bytes more : List UInt8) (c : Char) :
    decodeSymbols (bytes ++ (encodeChar c ++ more))
      = decodeSymbols bytes ++ .char c :: decodeSymbols more := by
  obtain ⟨b, tail, hbytes, hhead⟩ := decodeHead_encodeChar c more
  have hcut := decodePieces_append (not_isTrail_of_decodeHead hhead) bytes (tail ++ more)
  have hchar := decodePieces_encodeChar_append c more
  rw [hbytes, List.cons_append] at hchar ⊢
  rw [decodeSymbols, hcut, hchar, List.flatMap_append, List.flatMap_cons]
  rfl

/-! ## Symbols that are read back -/

/-- Whether symbols are read back from their bytes. -/
def IsFaithful (s : List Symbol) : Prop := decodeSymbols (encodeSymbols s) = s

theorem isFaithful_nil : IsFaithful [] := decodeSymbols_nil

theorem isFaithful_decodeSymbols (bytes : List UInt8) : IsFaithful (decodeSymbols bytes) := by
  rw [IsFaithful, encodeSymbols_decodeSymbols]

/-- **Symbols that are read back** are known by their bytes. -/
theorem IsFaithful.eq_of_encodeSymbols {s t : List Symbol} (hs : IsFaithful s) (ht : IsFaithful t)
    (h : encodeSymbols s = encodeSymbols t) : s = t :=
  calc
    s = decodeSymbols (encodeSymbols s) := hs.symm
    _ = decodeSymbols (encodeSymbols t) := by rw [h]
    _ = t := ht

/-- The parts before a place can be compared by their bytes. -/
theorem eq_of_append_eq {s t x y : List Symbol} (h : s ++ x = t ++ y)
    (hbytes : encodeSymbols s = encodeSymbols t) : s = t := by
  have hempty : ∀ {u v w : List Symbol}, v = u ++ w → encodeSymbols u = encodeSymbols v →
      u = v := by
    rintro u v w rfl hbytes
    rw [encodeSymbols_append] at hbytes
    rw [encodeSymbols_eq_nil (List.self_eq_append_right.mp hbytes), List.append_nil]
  rcases List.append_eq_append_iff.mp h with ⟨w, hw, -⟩ | ⟨w, hw, -⟩
  · exact hempty hw hbytes
  · exact (hempty hw hbytes.symm).symm

theorem isFaithful_append_char_iff {s t : List Symbol} {c : Char} :
    IsFaithful (s ++ .char c :: t) ↔ IsFaithful s ∧ IsFaithful t := by
  have hread : decodeSymbols (encodeSymbols (s ++ .char c :: t))
      = decodeSymbols (encodeSymbols s) ++ .char c :: decodeSymbols (encodeSymbols t) := by
    rw [encodeSymbols_append, encodeSymbols_cons_char, decodeSymbols_append_encodeChar]
  constructor
  · intro h
    rw [IsFaithful, hread] at h
    have hs : decodeSymbols (encodeSymbols s) = s :=
      eq_of_append_eq h (encodeSymbols_decodeSymbols _)
    rw [hs] at h
    exact ⟨hs, (List.cons.inj (List.append_cancel_left h)).2⟩
  · rintro ⟨hs, ht⟩
    rw [IsFaithful, hread, hs, ht]

theorem isFaithful_map_char_append (cs : List Char) {s : List Symbol} (h : IsFaithful s) :
    IsFaithful (cs.map .char ++ s) := by
  induction cs with
  | nil => exact h
  | cons c cs ih => exact isFaithful_append_char_iff.mpr ⟨isFaithful_nil, ih⟩

/-! ## Blanks between symbols -/

theorem Symbol.exists_of_isBlank {s : Symbol} (h : s.isBlank = true) : ∃ c, s = .char c := by
  cases s with
  | char c => exact ⟨c, rfl⟩
  | stray b => exact absurd h (by simp [Symbol.isBlank])

theorem collapseSymbols_cons_of_not {t : Symbol} (h : t.isBlank = false) (s : List Symbol) :
    collapseSymbols (t :: s) = t :: collapseSymbols s := by
  cases s <;> simp [collapseSymbols, h]

theorem collapseSymbols_cons_cons {t : Symbol} (h : t.isBlank = true) (u : Symbol)
    (s : List Symbol) : collapseSymbols (t :: u :: s) =
      if u.isBlank then collapseSymbols (u :: s) else .char ' ' :: collapseSymbols (u :: s) := by
  rw [collapseSymbols, if_pos h]

/-- The induction is on the symbols that are left to do; what stands before them is done. -/
theorem isFaithful_append_collapseSymbols {p s : List Symbol} (h : IsFaithful (p ++ s)) :
    IsFaithful (p ++ collapseSymbols s) := by
  induction s generalizing p with
  | nil => exact h
  | cons t s ih =>
    cases ht : t.isBlank with
    | false =>
      rw [List.append_cons] at h
      rw [collapseSymbols_cons_of_not ht, List.append_cons]
      exact ih h
    | true =>
      obtain ⟨c, rfl⟩ := Symbol.exists_of_isBlank ht
      obtain ⟨hp, hs⟩ := isFaithful_append_char_iff.mp h
      match s with
      | [] =>
        have hspace : collapseSymbols [.char c] = [.char ' '] := by simp [collapseSymbols, ht]
        rw [hspace]
        exact isFaithful_append_char_iff.mpr ⟨hp, isFaithful_nil⟩
      | u :: s =>
        rw [collapseSymbols_cons_cons ht]
        cases hu : u.isBlank with
        | false => exact isFaithful_append_char_iff.mpr ⟨hp, ih (p := []) hs⟩
        | true =>
          -- The run goes on: the blank in front is dropped.
          obtain ⟨d, rfl⟩ := Symbol.exists_of_isBlank hu
          have hrest : IsFaithful s := ((isFaithful_append_char_iff (s := [])).mp hs).2
          exact ih (isFaithful_append_char_iff.mpr ⟨hp, hrest⟩)

/-- **Runs of blanks can be collapsed** in symbols that are read back. -/
theorem IsFaithful.collapseSymbols {s : List Symbol} (h : IsFaithful s) :
    IsFaithful (collapseSymbols s) :=
  isFaithful_append_collapseSymbols (p := []) h

end Gazetteer.Text
