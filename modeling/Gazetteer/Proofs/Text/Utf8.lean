import Gazetteer.Text.Utf8

/-!
# Proofs/Text/Utf8 — bytes that are written are read back

The bytes of a character are taken off the front of a byte sequence as this character, whatever
follows (`decodeHead_encodeChar`); so the bytes of a text are cut into its characters, and are
UTF-8. Nor is anything before such a byte read together with it, since only a trail byte continues
what stands before it (`decodePieces_append`).
-/

namespace Gazetteer.Text

theorem toNat_byte {n : Nat} (h : n < 256) : (UInt8.ofNat n).toNat = n :=
  UInt8.toNat_ofNat_of_lt' h

theorem byteIn_ofNat {lo hi n : Nat} (h : n < 256) (hlo : lo ≤ n) (hhi : n ≤ hi) :
    byteIn lo hi (UInt8.ofNat n) = true := by
  rw [byteIn, toNat_byte h, decide_eq_true hlo, decide_eq_true hhi, Bool.and_self]

theorem continuation_ofNat {n : Nat} (h : n < 0x40) :
    continuation (UInt8.ofNat (0x80 + n)) = n := by
  have hbyte := toNat_byte (by omega : 0x80 + n < 256)
  unfold continuation
  omega

theorem byteIn_trail (n : Nat) : byteIn 0x80 0xbf (UInt8.ofNat (0x80 + n % 0x40)) = true :=
  byteIn_ofNat (by omega) (by omega) (by omega)

theorem continuation_trail (n : Nat) :
    continuation (UInt8.ofNat (0x80 + n % 0x40)) = n % 0x40 :=
  continuation_ofNat (Nat.mod_lt n (by decide))

/-! ## The four widths

What a lead byte begins depends on the width it stands for. -/

/-- What begins with the lead byte of a character of three bytes; the second byte lies in an
interval. -/
def headOfThree (lo hi lead : Nat) : List UInt8 → Option Char × Nat
  | c1 :: c2 :: _ =>
    if byteIn lo hi c1 then
      if byteIn 0x80 0xbf c2 then
        (some (Char.ofNat (lead * 0x1000 + continuation c1 * 0x40 + continuation c2)), 2)
      else (none, 1)
    else (none, 0)
  | [c1] => (none, if byteIn lo hi c1 then 1 else 0)
  | [] => (none, 0)

/-- What begins with the lead byte of a character of four bytes. -/
def headOfFour (lo hi lead : Nat) : List UInt8 → Option Char × Nat
  | c1 :: c2 :: c3 :: _ =>
    if byteIn lo hi c1 then
      if byteIn 0x80 0xbf c2 then
        if byteIn 0x80 0xbf c3 then
          (some (Char.ofNat (lead * 0x40000 + continuation c1 * 0x1000 + continuation c2 * 0x40
            + continuation c3)), 3)
        else (none, 2)
      else (none, 1)
    else (none, 0)
  | [c1, c2] =>
    (none, if byteIn lo hi c1 then (if byteIn 0x80 0xbf c2 then 2 else 1) else 0)
  | [c1] => (none, if byteIn lo hi c1 then 1 else 0)
  | [] => (none, 0)

/-- What begins with the lead byte of a character of two bytes. -/
def headOfTwo (n : Nat) : List UInt8 → Option Char × Nat
  | c1 :: _ =>
    if byteIn 0x80 0xbf c1 then (some (Char.ofNat ((n - 0xc0) * 0x40 + continuation c1)), 1)
    else (none, 0)
  | [] => (none, 0)

theorem decodeHead_eq (b : UInt8) (rest : List UInt8) : decodeHead b rest =
    if b.toNat < 0x80 then (some (Char.ofNat b.toNat), 0)
    else if b.toNat < 0xc2 then (none, 0)
    else if b.toNat < 0xe0 then headOfTwo b.toNat rest
    else if b.toNat = 0xe0 then headOfThree 0xa0 0xbf 0 rest
    else if b.toNat = 0xed then headOfThree 0x80 0x9f 0xd rest
    else if b.toNat < 0xf0 then headOfThree 0x80 0xbf (b.toNat - 0xe0) rest
    else if b.toNat = 0xf0 then headOfFour 0x90 0xbf 0 rest
    else if b.toNat < 0xf4 then headOfFour 0x80 0xbf (b.toNat - 0xf0) rest
    else if b.toNat = 0xf4 then headOfFour 0x80 0x8f 4 rest
    else (none, 0) := by
  rfl

theorem decodeHead_one {n : Nat} (h : n < 0x80) (rest : List UInt8) :
    decodeHead (UInt8.ofNat n) rest = (some (Char.ofNat n), 0) := by
  have hlead : (UInt8.ofNat n).toNat = n := toNat_byte (by omega)
  rw [decodeHead_eq, hlead, if_pos h]

theorem decodeHead_two {n : Nat} (h : 0x80 ≤ n) (h' : n < 0x800) (rest : List UInt8) :
    decodeHead (UInt8.ofNat (0xc0 + n / 0x40)) (UInt8.ofNat (0x80 + n % 0x40) :: rest)
      = (some (Char.ofNat n), 1) := by
  have hlead : (UInt8.ofNat (0xc0 + n / 0x40)).toNat = 0xc0 + n / 0x40 := toNat_byte (by omega)
  have hsum : (0xc0 + n / 0x40 - 0xc0) * 0x40 + n % 0x40 = n := by omega
  rw [decodeHead_eq, hlead, if_neg (by omega), if_neg (by omega), if_pos (by omega), headOfTwo,
    if_pos (byteIn_trail n), continuation_trail, hsum]

theorem headOfThree_trail {n lo hi lead : Nat} (hlo : lo ≤ 0x80 + n / 0x40 % 0x40)
    (hhi : 0x80 + n / 0x40 % 0x40 ≤ hi) (hlead : lead = n / 0x1000) (rest : List UInt8) :
    headOfThree lo hi lead (UInt8.ofNat (0x80 + n / 0x40 % 0x40)
        :: UInt8.ofNat (0x80 + n % 0x40) :: rest) = (some (Char.ofNat n), 2) := by
  have hsum : lead * 0x1000 + n / 0x40 % 0x40 * 0x40 + n % 0x40 = n := by omega
  rw [headOfThree, if_pos (byteIn_ofNat (by omega) hlo hhi), if_pos (byteIn_trail n),
    continuation_trail, continuation_trail, hsum]

theorem decodeHead_three {n : Nat} (h : 0x800 ≤ n) (h' : n < 0x10000)
    (hvalid : n < 0xd800 ∨ 0xe000 ≤ n) (rest : List UInt8) :
    decodeHead (UInt8.ofNat (0xe0 + n / 0x1000)) (UInt8.ofNat (0x80 + n / 0x40 % 0x40)
        :: UInt8.ofNat (0x80 + n % 0x40) :: rest)
      = (some (Char.ofNat n), 2) := by
  have hlead : (UInt8.ofNat (0xe0 + n / 0x1000)).toNat = 0xe0 + n / 0x1000 :=
    toNat_byte (by omega)
  rw [decodeHead_eq, hlead, if_neg (by omega), if_neg (by omega), if_neg (by omega)]
  split
  · -- the lowest lead byte: the second byte is not one of a shorter form
    exact headOfThree_trail (by omega) (by omega) (by omega) rest
  · split
    · -- the lead byte of the surrogates
      exact headOfThree_trail (by omega) (by omega) (by omega) rest
    · rw [if_pos (by omega)]
      exact headOfThree_trail (by omega) (by omega) (by omega) rest

theorem headOfFour_trail {n lo hi lead : Nat} (hlo : lo ≤ 0x80 + n / 0x1000 % 0x40)
    (hhi : 0x80 + n / 0x1000 % 0x40 ≤ hi) (hlead : lead = n / 0x40000) (rest : List UInt8) :
    headOfFour lo hi lead (UInt8.ofNat (0x80 + n / 0x1000 % 0x40)
        :: UInt8.ofNat (0x80 + n / 0x40 % 0x40) :: UInt8.ofNat (0x80 + n % 0x40) :: rest)
      = (some (Char.ofNat n), 3) := by
  have hsum : lead * 0x40000 + n / 0x1000 % 0x40 * 0x1000 + n / 0x40 % 0x40 * 0x40 + n % 0x40
      = n := by omega
  rw [headOfFour, if_pos (byteIn_ofNat (by omega) hlo hhi), if_pos (byteIn_trail _),
    if_pos (byteIn_trail n), continuation_trail, continuation_trail, continuation_trail, hsum]

theorem decodeHead_four {n : Nat} (h : 0x10000 ≤ n) (h' : n < 0x110000) (rest : List UInt8) :
    decodeHead (UInt8.ofNat (0xf0 + n / 0x40000)) (UInt8.ofNat (0x80 + n / 0x1000 % 0x40)
        :: UInt8.ofNat (0x80 + n / 0x40 % 0x40) :: UInt8.ofNat (0x80 + n % 0x40) :: rest)
      = (some (Char.ofNat n), 3) := by
  have hlead : (UInt8.ofNat (0xf0 + n / 0x40000)).toNat = 0xf0 + n / 0x40000 :=
    toNat_byte (by omega)
  rw [decodeHead_eq, hlead, if_neg (by omega), if_neg (by omega), if_neg (by omega),
    if_neg (by omega), if_neg (by omega), if_neg (by omega)]
  split
  · -- the lowest lead byte: the second byte is not one of a shorter form
    exact headOfFour_trail (by omega) (by omega) (by omega) rest
  · split
    · exact headOfFour_trail (by omega) (by omega) (by omega) rest
    · -- the highest lead byte: nothing beyond the last character
      rw [if_pos (by omega)]
      exact headOfFour_trail (by omega) (by omega) (by omega) rest

/-! ## Whole texts -/

/-- No character has the number of a surrogate. -/
theorem toNat_lt_or_le (c : Char) : c.toNat < 0xd800 ∨ 0xe000 ≤ c.toNat ∧ c.toNat < 0x110000 := by
  rcases c.valid with h | ⟨h, h'⟩
  · exact .inl h
  · exact .inr ⟨h, h'⟩

/-- **A character is read back from its bytes**, whatever follows. -/
theorem decodeHead_encodeChar (c : Char) (rest : List UInt8) : ∃ b tail,
    encodeChar c = b :: tail ∧ decodeHead b (tail ++ rest) = (some c, tail.length) := by
  have hc := Char.ofNat_toNat c
  have hvalid := toNat_lt_or_le c
  simp only [encodeChar]
  split
  · rename_i h
    exact ⟨_, [], rfl, (decodeHead_one h rest).trans (by rw [hc]; rfl)⟩
  · split
    · refine ⟨_, _, rfl, (decodeHead_two (by omega) (by omega) rest).trans (by rw [hc]; rfl)⟩
    · split
      · refine ⟨_, _, rfl, (decodeHead_three (by omega) (by omega) (by omega) rest).trans ?_⟩
        rw [hc]
        rfl
      · refine ⟨_, _, rfl, (decodeHead_four (by omega) (by omega) rest).trans ?_⟩
        rw [hc]
        rfl

theorem decodePieces_encodeChar_append (c : Char) (more : List UInt8) :
    decodePieces (encodeChar c ++ more) = Sum.inl c :: decodePieces more := by
  obtain ⟨b, tail, hbytes, hhead⟩ := decodeHead_encodeChar c more
  rw [hbytes, List.cons_append, decodePieces]
  simp only [hhead, List.drop_left]

theorem decodePieces_encode : ∀ cs : List Char, decodePieces (encode cs) = cs.map Sum.inl
  | [] => by
      rw [encode, List.flatMap_nil, decodePieces]
      rfl
  | c :: cs => by
      have hencode : encode (c :: cs) = encodeChar c ++ encode cs := by
        rw [encode, List.flatMap_cons]
        rfl
      rw [hencode, decodePieces_encodeChar_append, decodePieces_encode cs, List.map_cons]

/-- **A text is read back from its bytes.** -/
theorem decode?_encode (cs : List Char) : decode? (encode cs) = some cs := by
  rw [decode?, decodePieces_encode]
  induction cs with
  | nil => rfl
  | cons c cs ih => simp [ih]

theorem decodeLossy_encode (cs : List Char) : decodeLossy (encode cs) = cs := by
  rw [decodeLossy, decodePieces_encode]
  induction cs with
  | nil => rfl
  | cons c cs ih => rw [List.map_cons, List.map_cons, ih]

/-! ## Bytes that continue no character

A byte below `80` or from `C0` on is the first one of whatever it stands in. So bytes can be read up
to it, and from it on, apart from each other. -/

/-- Whether a byte can continue a character. -/
def isTrail (b : UInt8) : Bool := byteIn 0x80 0xbf b

theorem byteIn_of_not_isTrail {b : UInt8} (hb : isTrail b = false) {lo hi : Nat} (hlo : 0x80 ≤ lo)
    (hhi : hi ≤ 0xbf) : byteIn lo hi b = false := by
  simp only [isTrail, byteIn, Bool.and_eq_false_iff, decide_eq_false_iff_not] at hb ⊢
  omega

section

variable {lo hi lead : Nat} {b : UInt8}

theorem headOfThree_append (hlo : 0x80 ≤ lo) (hhi : hi ≤ 0xbf) (hb : isTrail b = false)
    (rest more : List UInt8) :
    headOfThree lo hi lead (rest ++ b :: more) = headOfThree lo hi lead rest := by
  have hfirst := byteIn_of_not_isTrail hb hlo hhi
  have hlater := byteIn_of_not_isTrail hb (Nat.le_refl 0x80) (Nat.le_refl 0xbf)
  match rest with
  | [] => cases more <;> simp [headOfThree, hfirst]
  | [c1] => cases hc1 : byteIn lo hi c1 <;> simp [headOfThree, hc1, hlater]
  | c1 :: c2 :: rest => rfl

theorem headOfFour_append (hlo : 0x80 ≤ lo) (hhi : hi ≤ 0xbf) (hb : isTrail b = false)
    (rest more : List UInt8) :
    headOfFour lo hi lead (rest ++ b :: more) = headOfFour lo hi lead rest := by
  have hfirst := byteIn_of_not_isTrail hb hlo hhi
  have hlater := byteIn_of_not_isTrail hb (Nat.le_refl 0x80) (Nat.le_refl 0xbf)
  match rest with
  | [] =>
    match more with
    | [] => simp [headOfFour, hfirst]
    | [_] => simp [headOfFour, hfirst]
    | _ :: _ :: _ => simp [headOfFour, hfirst]
  | [c1] => cases more <;> cases hc1 : byteIn lo hi c1 <;> simp [headOfFour, hc1, hlater]
  | [c1, c2] =>
    cases hc1 : byteIn lo hi c1 <;> cases hc2 : byteIn 0x80 0xbf c2 <;>
      simp [headOfFour, hc1, hc2, hlater]
  | c1 :: c2 :: c3 :: rest => rfl

theorem headOfTwo_append (hb : isTrail b = false) (n : Nat) (rest more : List UInt8) :
    headOfTwo n (rest ++ b :: more) = headOfTwo n rest := by
  have hfirst := byteIn_of_not_isTrail hb (Nat.le_refl 0x80) (Nat.le_refl 0xbf)
  cases rest <;> simp [headOfTwo, hfirst]

/-- **What stands at the front** does not depend on a byte that continues no character. -/
theorem decodeHead_append (hb : isTrail b = false) (first : UInt8) (rest more : List UInt8) :
    decodeHead first (rest ++ b :: more) = decodeHead first rest := by
  simp only [decodeHead_eq, headOfTwo_append hb,
    headOfThree_append (by decide : 0x80 ≤ 0xa0) (Nat.le_refl 0xbf) hb,
    headOfThree_append (Nat.le_refl 0x80) (by decide : 0x9f ≤ 0xbf) hb,
    headOfThree_append (Nat.le_refl 0x80) (Nat.le_refl 0xbf) hb,
    headOfFour_append (by decide : 0x80 ≤ 0x90) (Nat.le_refl 0xbf) hb,
    headOfFour_append (Nat.le_refl 0x80) (Nat.le_refl 0xbf) hb,
    headOfFour_append (Nat.le_refl 0x80) (by decide : 0x8f ≤ 0xbf) hb]

end

theorem headOfThree_le (lo hi lead : Nat) : ∀ rest, (headOfThree lo hi lead rest).2 ≤ rest.length
  | [] => Nat.le_refl 0
  | [c1] => by
      rw [headOfThree]
      dsimp only
      split <;> simp
  | c1 :: c2 :: rest => by
      rw [headOfThree]
      split
      · split <;> simp
      · simp

theorem headOfFour_le (lo hi lead : Nat) : ∀ rest, (headOfFour lo hi lead rest).2 ≤ rest.length
  | [] => Nat.le_refl 0
  | [c1] => by
      rw [headOfFour]
      dsimp only
      split <;> simp
  | [c1, c2] => by
      rw [headOfFour]
      dsimp only
      split
      · split <;> simp
      · simp
  | c1 :: c2 :: c3 :: rest => by
      rw [headOfFour]
      split
      · split
        · split <;> simp
        · simp
      · simp

theorem headOfTwo_le (n : Nat) : ∀ rest, (headOfTwo n rest).2 ≤ rest.length
  | [] => Nat.le_refl 0
  | c1 :: rest => by
      rw [headOfTwo]
      split <;> simp

/-- What is taken off the front is there. -/
theorem decodeHead_le (b : UInt8) (rest : List UInt8) : (decodeHead b rest).2 ≤ rest.length := by
  rw [decodeHead_eq]
  repeat' split
  all_goals first
    | exact Nat.zero_le _
    | exact headOfTwo_le _ _
    | exact headOfThree_le _ _ _ _
    | exact headOfFour_le _ _ _ _

/-- **Bytes are cut in front of a byte that continues no character.** -/
theorem decodePieces_append {b : UInt8} (hb : isTrail b = false) (bytes more : List UInt8) :
    decodePieces (bytes ++ b :: more) = decodePieces bytes ++ decodePieces (b :: more) := by
  match bytes with
  | [] =>
    rw [List.nil_append, decodePieces.eq_def []]
    rfl
  | first :: rest =>
    have hle := decodeHead_le first rest
    have ih := decodePieces_append hb (rest.drop (decodeHead first rest).2) more
    rw [List.cons_append, decodePieces.eq_def (first :: (rest ++ b :: more)),
      decodePieces.eq_def (first :: rest)]
    simp only [decodeHead_append hb, List.take_append_of_le_length hle,
      List.drop_append_of_le_length hle, ih, List.cons_append]
termination_by bytes.length
decreasing_by simp only [List.length_cons, List.length_drop]; omega

theorem decodeLossy_append_slash (bytes more : List UInt8) :
    decodeLossy (bytes ++ 0x2f :: more) = decodeLossy bytes ++ '/' :: decodeLossy more := by
  have hslash : decodePieces (0x2f :: more) = Sum.inl '/' :: decodePieces more :=
    decodePieces_encodeChar_append '/' more
  rw [decodeLossy, decodePieces_append (by decide), hslash, List.map_append, List.map_cons]
  rfl

end Gazetteer.Text
