import Gazetteer.Proofs.Location.Url

/-!
# Proofs/Location/Escape — which texts stay themselves when escapes are replaced

Replacing escapes leaves a text without escapes as it is (`unescape_of_not_hasEscape`) and makes
every other one shorter (`length_unescape_lt`), since an escape of three characters stands for one
byte, and bytes are never read as more characters than there are bytes.
-/

namespace Gazetteer

/-! ## Lengths of what is read -/

theorem Text.length_decodePieces_le (bytes : List UInt8) :
    (decodePieces bytes).length ≤ bytes.length := by
  match bytes with
  | [] => rw [decodePieces]; exact Nat.le_refl 0
  | b :: rest =>
    have ih := length_decodePieces_le (rest.drop (decodeHead b rest).2)
    rw [List.length_drop] at ih
    rw [decodePieces, List.length_cons, List.length_cons]
    omega
termination_by bytes.length
decreasing_by simp only [List.length_cons, List.length_drop]; omega

theorem Text.length_decodeLossy_le (bytes : List UInt8) :
    (decodeLossy bytes).length ≤ bytes.length := by
  rw [decodeLossy, List.length_map]
  exact length_decodePieces_le bytes

theorem Text.encode_of_ascii : ∀ {cs : List Char}, (∀ c ∈ cs, c.toNat < 0x80) →
    encode cs = cs.map fun c => UInt8.ofNat c.toNat
  | [], _ => rfl
  | c :: cs, h => by
      have hc : encodeChar c = [UInt8.ofNat c.toNat] := by
        simp [encodeChar, h c List.mem_cons_self]
      have ih := encode_of_ascii fun d hd => h d (List.mem_cons_of_mem c hd)
      rw [encode] at ih
      rw [encode, List.flatMap_cons, hc, ih, List.map_cons]
      rfl

namespace Location

/-! ## Texts with an escape -/

/-- Whether a text has an escape in it. -/
def hasEscape : List Char → Bool
  | [] => false
  | c :: rest => (c = '%' && beginsHex rest) || hasEscape rest

theorem hasEscape_cons_of_ne {c : Char} (h : c ≠ '%') (rest : List Char) :
    hasEscape (c :: rest) = hasEscape rest := by
  simp [hasEscape, h]

theorem hasEscape_percent (rest : List Char) :
    hasEscape ('%' :: rest) = (beginsHex rest || hasEscape rest) := by
  simp [hasEscape]

/-- Escapes stand on one side or the other of a character that is not in any. -/
theorem hasEscape_append_cons {c : Char} (hhex : isHex c = false) (hc : c ≠ '%') (ys : List Char) :
    ∀ xs : List Char, hasEscape (xs ++ c :: ys) = (hasEscape xs || hasEscape ys)
  | [] => hasEscape_cons_of_ne hc ys
  | x :: xs => by
      rw [List.cons_append, hasEscape, hasEscape, beginsHex_append_cons hhex,
        hasEscape_append_cons hhex hc ys xs, Bool.or_assoc]

/-- A character beyond ASCII is in no escape. -/
theorem of_not_ascii {c : Char} (h : ¬ c.toNat < 0x80) : isHex c = false ∧ c ≠ '%' := by
  have hle : ∀ d : Char, d.toNat < 0x80 → ¬ c ≤ d := fun d hd hcd => by
    have : c.toNat ≤ d.toNat := hcd
    omega
  refine ⟨?_, fun heq => h (heq ▸ by decide)⟩
  simp [isHex, isDecimal, hle '9' (by decide), hle 'f' (by decide), hle 'F' (by decide)]

/-! ## One stretch of ASCII -/

theorem unescapeBytes_of_not_hasEscape : ∀ {cs : List Char}, hasEscape cs = false →
    unescapeBytes cs = cs.map fun c => UInt8.ofNat c.toNat
  | [], _ => rfl
  | c :: cs, h => by
      rw [hasEscape, Bool.or_eq_false_iff] at h
      have ih := unescapeBytes_of_not_hasEscape h.2
      by_cases hc : c = '%'
      · subst hc
        rw [unescapeBytes_percent (by simpa using h.1), ih, List.map_cons]
        rfl
      · rw [unescapeBytes_cons hc, ih, List.map_cons]

/-- An escape of three characters is one byte. -/
theorem length_unescapeBytes : ∀ cs : List Char,
    (unescapeBytes cs).length ≤ cs.length ∧
      (hasEscape cs = true → (unescapeBytes cs).length < cs.length)
  | [] => ⟨Nat.le_refl 0, fun h => absurd h (by decide)⟩
  | c :: cs => by
      have ih := length_unescapeBytes cs
      by_cases hc : c = '%'
      · subst hc
        cases hhex : beginsHex cs with
        | false =>
          rw [unescapeBytes_percent hhex, hasEscape_percent, hhex, Bool.false_or, List.length_cons,
            List.length_cons]
          exact ⟨Nat.succ_le_succ ih.1, fun h => Nat.succ_lt_succ (ih.2 h)⟩
        | true =>
          match cs, hhex with
          | a :: b :: cs, hhex =>
            have hrest := (length_unescapeBytes cs).1
            rw [beginsHex] at hhex
            simp only [unescapeBytes, hhex, if_true, List.length_cons]
            omega
      · rw [unescapeBytes_cons hc, hasEscape_cons_of_ne hc, List.length_cons, List.length_cons]
        exact ⟨Nat.succ_le_succ ih.1, fun h => Nat.succ_lt_succ (ih.2 h)⟩

/-! ## Whole texts -/

/-- What has been taken of a stretch is ASCII. -/
theorem unescapePieces_of_not_hasEscape : ∀ {cs taken : List Char},
    (∀ c ∈ taken, c.toNat < 0x80) → hasEscape (taken.reverse ++ cs) = false →
      unescapePieces taken cs = taken.reverse ++ cs
  | [], taken, htaken, h => by
      rw [List.append_nil] at h ⊢
      rw [unescapePieces, unescapeBytes_of_not_hasEscape h,
        ← Text.encode_of_ascii (by simpa using htaken), Text.decodeLossy_encode]
  | c :: cs, taken, htaken, h => by
      rw [unescapePieces]
      split
      · rename_i hc
        have hshift : (c :: taken).reverse ++ cs = taken.reverse ++ c :: cs := by simp
        rw [unescapePieces_of_not_hasEscape (List.forall_mem_cons.mpr ⟨hc, htaken⟩)
          (hshift ▸ h), hshift]
      · rename_i hc
        obtain ⟨hhex, hpercent⟩ := of_not_ascii hc
        rw [hasEscape_append_cons hhex hpercent, Bool.or_eq_false_iff] at h
        have hfirst : unescapePieces taken [] = taken.reverse ++ [] :=
          unescapePieces_of_not_hasEscape htaken (by simpa using h.1)
        have hrest : unescapePieces [] cs = cs :=
          unescapePieces_of_not_hasEscape (by simp) h.2
        rw [unescapePieces, List.append_nil] at hfirst
        rw [hfirst, hrest]

/-- **A text without escapes** stays itself. -/
theorem unescape_of_not_hasEscape {cs : List Char} (h : hasEscape cs = false) : unescape cs = cs :=
  unescapePieces_of_not_hasEscape (fun _ h => absurd h List.not_mem_nil) h

theorem length_unescapePieces : ∀ cs taken : List Char,
    (unescapePieces taken cs).length ≤ (taken.reverse ++ cs).length ∧
      (hasEscape (taken.reverse ++ cs) = true →
        (unescapePieces taken cs).length < (taken.reverse ++ cs).length)
  | [], taken => by
      have hread := Text.length_decodeLossy_le (unescapeBytes taken.reverse)
      have hbytes := length_unescapeBytes taken.reverse
      rw [unescapePieces, List.append_nil]
      exact ⟨hread.trans hbytes.1, fun h => hread.trans_lt (hbytes.2 h)⟩
  | c :: cs, taken => by
      rw [unescapePieces]
      split
      · have ih := length_unescapePieces cs (c :: taken)
        have hshift : (c :: taken).reverse ++ cs = taken.reverse ++ c :: cs := by simp
        rwa [hshift] at ih
      · rename_i hc
        obtain ⟨hhex, hpercent⟩ := of_not_ascii hc
        have hread := Text.length_decodeLossy_le (unescapeBytes taken.reverse)
        have hfirst := length_unescapeBytes taken.reverse
        have hrest := length_unescapePieces cs []
        rw [hasEscape_append_cons hhex hpercent, Bool.or_eq_true, List.length_append,
          List.length_append, List.length_cons, List.length_cons]
        rw [List.reverse_nil, List.nil_append] at hrest
        refine ⟨by omega, ?_⟩
        rintro (h | h)
        · have := hfirst.2 h
          omega
        · have := hrest.2 h
          omega

/-- **A text with an escape** becomes shorter. -/
theorem length_unescape_lt {cs : List Char} (h : hasEscape cs = true) :
    (unescape cs).length < cs.length :=
  (length_unescapePieces cs []).2 h

end Location

end Gazetteer
