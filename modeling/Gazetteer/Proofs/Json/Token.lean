import Gazetteer.Json.Reader
import Gazetteer.Json.Writer

/-!
# Proofs/Json/Token — numbers and strings that are written are read back

An integer is read back whatever follows it that does not go on with the number (`EndsNumber`), and
a string whatever follows its closing mark. Every character of a string is read back from what is
written for it (`readString_writeChar`).
-/

namespace Gazetteer.Json

/-! ## Integers -/

/-- Whether a text does not go on with a number in front of it. -/
def EndsNumber (cs : List Char) : Prop :=
  ∀ c ∈ cs.head?, isDigit c = false ∧ c ≠ '.' ∧ c ≠ 'e' ∧ c ≠ 'E'

theorem isDigit_digitChar : ∀ d, d < 10 → isDigit (Nat.digitChar d) = true := by decide

theorem digitChar_ne_zero : ∀ d, d < 10 → d ≠ 0 → Nat.digitChar d ≠ '0' := by decide

theorem isDigit_of_mem_toDigits (n : Nat) : ∀ c ∈ Nat.toDigits 10 n, isDigit c = true := by
  induction n using Nat.strongRecOn with
  | ind n ih =>
    intro c hc
    rw [Nat.toDigits_eq_if (by decide)] at hc
    split at hc
    · rename_i hlt
      obtain rfl := List.mem_singleton.mp hc
      exact isDigit_digitChar n hlt
    · rename_i hge
      rcases List.mem_append.mp hc with hc | hc
      · exact ih (n / 10) (by omega) c hc
      · obtain rfl := List.mem_singleton.mp hc
        exact isDigit_digitChar (n % 10) (by omega)

/-- **A number of more than one digit has no zero in front.** -/
theorem head?_toDigits {n : Nat} (h : n ≠ 0) : (Nat.toDigits 10 n).head? ≠ some '0' := by
  induction n using Nat.strongRecOn with
  | ind n ih =>
    rw [Nat.toDigits_eq_if (by decide)]
    split
    · rename_i hlt
      simpa using digitChar_ne_zero n hlt h
    · rename_i hge
      have hhead := ih (n / 10) (by omega) (by omega)
      obtain ⟨d, ds, hds⟩ := List.exists_cons_of_ne_nil
        (Nat.toDigits_ne_nil : Nat.toDigits 10 (n / 10) ≠ [])
      rw [hds] at hhead ⊢
      simpa using hhead

theorem takeWhile_digits {ds cs : List Char} (hds : ∀ c ∈ ds, isDigit c = true)
    (hcs : EndsNumber cs) : (ds ++ cs).takeWhile isDigit = ds := by
  rw [List.takeWhile_append_of_pos hds]
  cases cs with
  | nil => simp
  | cons c rest => simp [(hcs c rfl).1]

theorem dropWhile_digits {ds cs : List Char} (hds : ∀ c ∈ ds, isDigit c = true)
    (hcs : EndsNumber cs) : (ds ++ cs).dropWhile isDigit = cs := by
  rw [List.dropWhile_append_of_pos hds]
  cases cs with
  | nil => rfl
  | cons c rest => simp [(hcs c rfl).1]

theorem afterMark_of_endsNumber {cs : List Char} (h : EndsNumber cs) :
    afterMark (· = '.') cs = ([], cs) := by
  cases cs with
  | nil => rfl
  | cons c rest => simp [afterMark, (h c rfl).2.1]

theorem readExponent_of_endsNumber {cs : List Char} (h : EndsNumber cs) :
    readExponent cs = (none, cs) := by
  cases cs with
  | nil => rfl
  | cons c rest =>
    obtain ⟨-, -, he, hE⟩ := h c rfl
    unfold readExponent
    simp only [he, hE, decide_false, Bool.or_self, Bool.false_and, Bool.false_eq_true, if_false]
    split <;> rfl

/-- **The digits of a number are read back.** -/
theorem readNumber_toDigits (negative : Bool) {n : Nat} {cs : List Char} (hcs : EndsNumber cs)
    (hn : (Nat.toDigits 10 n).length ≤ integerDigits) :
    readNumber negative (Nat.toDigits 10 n ++ cs)
      = some (.int (if negative then -(n : Int) else n), cs) := by
  have hvalue : digitsValue (Nat.toDigits 10 n) = n := Nat.ofDigitChars_ten_toDigits
  unfold readNumber
  simp only [takeWhile_digits (isDigit_of_mem_toDigits n) hcs,
    dropWhile_digits (isDigit_of_mem_toDigits n) hcs, afterMark_of_endsNumber hcs,
    readExponent_of_endsNumber hcs, hvalue, List.isEmpty_nil, Option.isNone_none, Bool.and_self,
    if_true, if_neg (Nat.not_lt.mpr hn)]
  split
  · rename_i hnil
    exact absurd hnil Nat.toDigits_ne_nil
  · -- a zero in front stands alone
    rename_i d ds hzero
    by_cases h0 : n = 0
    · subst h0
      rw [Nat.toDigits_zero] at hzero
      exact absurd hzero (by simp)
    · exact absurd (by rw [hzero]; rfl) (head?_toDigits h0)
  · rfl

/-! ## Strings -/

/-- The number of four digits. -/
def unitOf? : List Char → Option Nat
  | [a, b, c, d] => hexUnit? a b c d
  | _ => none

/-- The four digits of a control character. -/
theorem hexUnit?_hexPadded {n : Nat} (hn : n < 0x20) :
    ∃ a b c d, Text.hexPadded 4 n = [a, b, c, d] ∧ hexUnit? a b c d = some n := by
  have hall : ∀ n, n < 0x20 → unitOf? (Text.hexPadded 4 n) = some n := by decide
  have h := hall n hn
  unfold unitOf? at h
  split at h
  · exact ⟨_, _, _, _, ‹_›, h⟩
  · exact absurd h (by simp)

theorem unitChar_toNat {c : Char} (h : c.toNat < 0x20) : unitChar c.toNat = c := by
  have hhigh : isHighHalf c.toNat = false := by
    rw [isHighHalf, decide_eq_false (by omega), Bool.false_and]
  have hlow : isLowHalf c.toNat = false := by
    rw [isLowHalf, decide_eq_false (by omega), Bool.false_and]
  rw [unitChar, hhigh, hlow, if_neg (by simp), Char.ofNat_toNat]

theorem readString_plain {c : Char} (hquote : c ≠ '"') (hslash : c ≠ '\\')
    (hcode : ¬ c.toNat < 0x20) (acc rest : List Char) :
    readString acc none (c :: rest) = readString (c :: acc) none rest := by
  rw [readString.eq_def]
  split
  · rename_i h
    exact absurd h (by simp)
  · rename_i h
    exact absurd (List.cons.inj h).1 hslash
  · rename_i h
    exact absurd (List.cons.inj h).1 hslash
  · rename_i d rest' _ _ h
    obtain ⟨rfl, rfl⟩ := List.cons.inj h
    simp [hquote, hslash, hcode]

/-- **A character is read back from what is written for it.** -/
theorem readString_writeChar (c : Char) (acc rest : List Char) :
    readString acc none (writeChar c ++ rest) = readString (c :: acc) none rest := by
  unfold writeChar
  split
  · subst c
    rfl
  split
  · subst c
    rfl
  split
  · subst c
    rfl
  split
  · subst c
    rfl
  split
  · subst c
    rfl
  split
  · rename_i hcode
    obtain rfl : c = Char.ofNat 0x08 := by rw [← hcode, Char.ofNat_toNat]
    rfl
  split
  · rename_i hcode
    obtain rfl : c = Char.ofNat 0x0c := by rw [← hcode, Char.ofNat_toNat]
    rfl
  split
  · rename_i hcode
    obtain ⟨x, y, z, w, hdigits, hunit⟩ := hexUnit?_hexPadded hcode
    have hhalf : isHighHalf c.toNat = false := by
      rw [isHighHalf, decide_eq_false (by omega), Bool.false_and]
    rw [hdigits, List.cons_append, List.cons_append, List.cons_append, List.cons_append,
      List.cons_append, List.cons_append, List.nil_append, readString]
    simp only [hunit, hhalf, Bool.false_eq_true, if_false, unitChar_toNat hcode]
  · rename_i hquote hslash _ _ _ _ _ hcode
    exact readString_plain hquote hslash hcode acc rest

theorem readString_flatMap : ∀ (cs acc rest : List Char),
    readString acc none (cs.flatMap writeChar ++ '"' :: rest) = some (acc.reverse ++ cs, rest)
  | [], acc, rest => by simp [readString]
  | c :: cs, acc, rest => by
      rw [List.flatMap_cons, List.append_assoc, readString_writeChar, readString_flatMap cs,
        List.reverse_cons, List.append_assoc, List.singleton_append]

/-- **A string is read back**, up to its closing mark. -/
theorem readString_writeString (s : String) (rest : List Char) :
    readString [] none (s.toList.flatMap writeChar ++ '"' :: rest) = some (s.toList, rest) :=
  readString_flatMap s.toList [] rest

end Gazetteer.Json
