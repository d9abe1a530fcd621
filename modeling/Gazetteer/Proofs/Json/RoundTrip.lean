import Gazetteer.Proofs.Json.Token

/-!
# Proofs/Json/RoundTrip — values that are written are read back

A value is `Lossless` if it holds no float, no integer of too many digits and no object with a key
twice. Such a value is read back from its text, whatever comes after it that ends a value
(`readValue_write`). The fuel of the reader bounds both the nesting and the length of what is read;
the length of the text is enough of it.
-/

namespace Gazetteer.Json

mutual

/-- Whether a value is written without loss. -/
def Lossless : Value → Prop
  | .null | .bool _ | .string _ => True
  | .int n => (Nat.toDigits 10 n.natAbs).length ≤ integerDigits
  | .float _ => False
  | .array items => LosslessItems items
  | .object members => (members.map Prod.fst).Nodup ∧ LosslessMembers members

/-- Whether all items of an array are written without loss. -/
def LosslessItems : List Value → Prop
  | [] => True
  | v :: rest => Lossless v ∧ LosslessItems rest

/-- Whether the values of all members are written without loss. -/
def LosslessMembers : List (String × Value) → Prop
  | [] => True
  | (_, v) :: rest => Lossless v ∧ LosslessMembers rest

end

theorem losslessItems_iff : ∀ {items : List Value}, LosslessItems items ↔ ∀ v ∈ items, Lossless v
  | [] => by simp [LosslessItems]
  | v :: rest => by
      rw [LosslessItems, losslessItems_iff, List.forall_mem_cons]

/-! ## What stands around a value -/

/-- Whether a text ends the value in front of it. -/
def EndsValue (cs : List Char) : Prop := ∀ c ∈ cs.head?, c = ',' ∨ c = ']' ∨ c = '}'

theorem endsValue_nil : EndsValue [] := fun _ h => absurd h (by simp)

theorem endsValue_cons {c : Char} (h : c = ',' ∨ c = ']' ∨ c = '}') (cs : List Char) :
    EndsValue (c :: cs) := by
  intro d hd
  obtain rfl : c = d := by simpa using hd
  exact h

theorem EndsValue.endsNumber {cs : List Char} (h : EndsValue cs) : EndsNumber cs := by
  intro c hc
  rcases h c hc with rfl | rfl | rfl <;> decide

theorem skipGap_cons {c : Char} (h : isGap c = false) (cs : List Char) :
    skipGap (c :: cs) = c :: cs := by
  rw [skipGap, List.dropWhile_cons_of_neg (by simp [h])]

/-- Whether a character can be the first of a value. -/
structure BeginsValue (c : Char) : Prop where
  notGap : isGap c = false
  ne_bracket : c ≠ ']'
  ne_brace : c ≠ '}'

theorem beginsValue_of_isDigit {c : Char} (h : isDigit c = true) : BeginsValue c := by
  refine ⟨?_, ?_, ?_⟩
  · by_cases hgap : isGap c = true
    · simp only [isGap, Bool.or_eq_true, decide_eq_true_eq] at hgap
      rcases hgap with ((rfl | rfl) | rfl) | rfl <;> exact absurd h (by decide)
    · simpa using hgap
  · rintro rfl
    exact absurd h (by decide)
  · rintro rfl
    exact absurd h (by decide)

theorem toList_toString_of_nonneg {n : Int} (h : 0 ≤ n) :
    (toString n).toList = Nat.toDigits 10 n.natAbs := by
  rw [Int.toString_eq_repr, Int.repr_eq_if, if_pos h, Nat.toList_repr]
  congr 1
  omega

theorem toList_toString_of_neg {n : Int} (h : n < 0) :
    (toString n).toList = '-' :: Nat.toDigits 10 n.natAbs := by
  rw [Int.toString_eq_repr, Int.repr_eq_if, if_neg (by omega), String.toList_append,
    Nat.toList_repr]
  have habs : (-n).toNat = n.natAbs := by omega
  rw [habs]
  rfl

/-- **The first character of a value** is no blank and closes nothing. -/
theorem exists_write {v : Value} (h : Lossless v) :
    ∃ c cs, write v = c :: cs ∧ BeginsValue c := by
  cases v with
  | null => exact ⟨_, _, by rw [write], by decide, by decide, by decide⟩
  | bool b =>
    cases b
    · exact ⟨_, _, by rw [write], by decide, by decide, by decide⟩
    · exact ⟨_, _, by rw [write], by decide, by decide, by decide⟩
  | int n =>
    rw [write]
    rcases Int.lt_or_le n 0 with hn | hn
    · exact ⟨_, _, toList_toString_of_neg hn, by decide, by decide, by decide⟩
    · rw [toList_toString_of_nonneg hn]
      obtain ⟨d, ds, hds⟩ := List.exists_cons_of_ne_nil
        (Nat.toDigits_ne_nil : Nat.toDigits 10 n.natAbs ≠ [])
      have hd := isDigit_of_mem_toDigits n.natAbs d (by rw [hds]; exact List.mem_cons_self)
      exact ⟨d, ds, hds, beginsValue_of_isDigit hd⟩
  | float x => exact absurd h (by simp [Lossless])
  | string s => exact ⟨_, _, by rw [write, writeString]; rfl, by decide, by decide, by decide⟩
  | array items => exact ⟨_, _, by rw [write]; rfl, by decide, by decide, by decide⟩
  | object members => exact ⟨_, _, by rw [write]; rfl, by decide, by decide, by decide⟩

theorem exists_writeItems {v : Value} (h : Lossless v) (rest : List Value) :
    ∃ c cs, writeItems (v :: rest) = c :: cs ∧ BeginsValue c := by
  obtain ⟨c, cs, hwrite, hc⟩ := exists_write h
  cases rest with
  | nil => exact ⟨c, cs, by rw [writeItems, hwrite], hc⟩
  | cons w rest => exact ⟨c, cs ++ ',' :: ' ' :: writeItems (w :: rest), by
      rw [writeItems, hwrite]
      · rfl
      · simp, hc⟩

theorem exists_writeMembers (m : String × Value) (rest : List (String × Value)) :
    ∃ cs, writeMembers (m :: rest) = '"' :: cs := by
  obtain ⟨k, v⟩ := m
  cases rest with
  | nil => exact ⟨_, by rw [writeMembers, writeString]; rfl⟩
  | cons w rest => exact ⟨_, by
      rw [writeMembers, writeString]
      · rfl
      · simp⟩

/-! ## Values are read back -/

theorem readValue_int {n : Int} {fuel : Nat} {rest : List Char}
    (h : (Nat.toDigits 10 n.natAbs).length ≤ integerDigits) (hrest : EndsNumber rest) :
    readValue (fuel + 1) ((toString n).toList ++ rest) = some (.int n, rest) := by
  rcases Int.lt_or_le n 0 with hn | hn
  · rw [toList_toString_of_neg hn, List.cons_append, readValue,
      readNumber_toDigits true hrest h]
    have habs : -(n.natAbs : Int) = n := by omega
    rw [if_pos rfl, habs]
    rfl
  · rw [toList_toString_of_nonneg hn]
    have hread := readNumber_toDigits false hrest h
    obtain ⟨d, ds, hds⟩ := List.exists_cons_of_ne_nil
      (Nat.toDigits_ne_nil : Nat.toDigits 10 n.natAbs ≠ [])
    have hd := isDigit_of_mem_toDigits n.natAbs d (by rw [hds]; exact List.mem_cons_self)
    have hne : d ≠ '"' ∧ d ≠ '[' ∧ d ≠ '{' ∧ d ≠ '-' := by
      refine ⟨?_, ?_, ?_, ?_⟩ <;> rintro rfl <;> exact absurd hd (by decide)
    rw [hds, List.cons_append] at hread ⊢
    have habs : (n.natAbs : Int) = n := by omega
    rw [readValue]
    · rw [hread]
      simp [habs]
    all_goals simp [hne]

theorem put_of_notMem {k : String} {v : Value} : ∀ {members : List (String × Value)},
    k ∉ members.map Prod.fst → Value.put k v members = members ++ [(k, v)]
  | [], _ => rfl
  | (j, w) :: rest, h => by
      have hne : ¬ (j == k) = true := by
        rw [beq_iff_eq]
        rintro rfl
        exact h List.mem_cons_self
      rw [Value.put, if_neg hne, put_of_notMem fun hk => h (List.mem_cons_of_mem _ hk),
        List.cons_append]

theorem skipGap_space_write {v : Value} (h : Lossless v) (rest : List Char) :
    skipGap (' ' :: (write v ++ rest)) = write v ++ rest := by
  obtain ⟨c, cs, hwrite, hc⟩ := exists_write h
  rw [hwrite, List.cons_append]
  exact skipGap_cons hc.notGap _

/-- Reading the last member of an object. -/
theorem readMembers_last {k : String} {v : Value} {fuel : Nat} {before : List (String × Value)}
    {rest : List Char} (hv : Lossless v)
    (hread : readValue fuel (write v ++ '}' :: rest) = some (v, '}' :: rest)) :
    readMembers (fuel + 1) before
        ('"' :: (k.toList.flatMap writeChar ++ '"' :: ':' :: ' ' :: (write v ++ '}' :: rest)))
      = some (Value.put k v before, rest) := by
  rw [readMembers, readString_writeString]
  simp only [skipGap_cons (by decide : isGap ':' = false), skipGap_space_write hv, hread,
    skipGap_cons (by decide : isGap '}' = false), String.ofList_toList]

/-- Reading a member that another one follows. -/
theorem readMembers_next {k : String} {v : Value} {fuel : Nat} {before : List (String × Value)}
    {rest : List Char} (hv : Lossless v)
    (hread : readValue fuel (write v ++ ',' :: rest) = some (v, ',' :: rest)) :
    readMembers (fuel + 1) before
        ('"' :: (k.toList.flatMap writeChar ++ '"' :: ':' :: ' ' :: (write v ++ ',' :: rest)))
      = readMembers fuel (Value.put k v before) (skipGap rest) := by
  rw [readMembers, readString_writeString]
  simp only [skipGap_cons (by decide : isGap ':' = false), skipGap_space_write hv, hread,
    skipGap_cons (by decide : isGap ',' = false), String.ofList_toList]

mutual

/-- **A value is read back** from its text, whatever follows that ends it. -/
theorem readValue_write : ∀ (v : Value) (fuel : Nat) (rest : List Char), Lossless v →
    EndsValue rest → (write v).length ≤ fuel → readValue fuel (write v ++ rest) = some (v, rest)
  | v, 0, _, h, _, hfuel => by
      obtain ⟨c, cs, hwrite, -⟩ := exists_write h
      simp [hwrite] at hfuel
  | .null, fuel + 1, rest, _, _, _ => by
      rw [write]
      rfl
  | .bool true, fuel + 1, rest, _, _, _ => by
      rw [write]
      rfl
  | .bool false, fuel + 1, rest, _, _, _ => by
      rw [write]
      rfl
  | .int n, fuel + 1, rest, h, hrest, _ => by
      rw [write]
      exact readValue_int h hrest.endsNumber
  | .float _, _, _, h, _, _ => absurd h (by simp [Lossless])
  | .string s, fuel + 1, rest, _, _, _ => by
      rw [write, writeString, List.cons_append, List.cons_append, List.append_assoc,
        List.singleton_append, readValue, readString_writeString]
      simp
  | .array [], fuel + 1, rest, _, _, _ => by
      rw [write, writeItems]
      rfl
  | .array (v :: items), fuel + 1, rest, h, hrest, hfuel => by
      rw [Lossless] at h
      rw [write, List.length_append, List.length_cons, List.length_singleton] at hfuel
      have hread := readItems_write v items fuel rest h (by omega)
      obtain ⟨c, cs, hwrite, hc⟩ := exists_writeItems h.1 items
      rw [write, List.cons_append, List.cons_append, List.append_assoc, List.singleton_append,
        readValue]
      rw [hwrite, List.cons_append] at hread ⊢
      rw [skipGap_cons hc.notGap]
      split
      · rename_i heq
        exact absurd (List.cons.inj heq).1 hc.ne_bracket
      · rw [hread]
        rfl
  | .object [], fuel + 1, rest, _, _, _ => by
      rw [write, writeMembers]
      rfl
  | .object (m :: members), fuel + 1, rest, h, hrest, hfuel => by
      rw [Lossless] at h
      rw [write, List.length_append, List.length_cons, List.length_singleton] at hfuel
      have hread := readMembers_write m members fuel [] rest h.2 h.1 (by simp) (by omega)
      obtain ⟨cs, hwrite⟩ := exists_writeMembers m members
      rw [write, List.cons_append, List.cons_append, List.append_assoc, List.singleton_append,
        readValue]
      rw [hwrite, List.cons_append] at hread ⊢
      rw [skipGap_cons (by decide)]
      simp [hread]

/-- **The items of an array are read back**, up to its closing bracket. -/
theorem readItems_write : ∀ (v : Value) (items : List Value) (fuel : Nat) (rest : List Char),
    LosslessItems (v :: items) → (writeItems (v :: items)).length + 1 ≤ fuel →
    readItems fuel (writeItems (v :: items) ++ ']' :: rest) = some (v :: items, rest)
  | v, _, 0, _, _, hfuel => by simp at hfuel
  | v, [], fuel + 1, rest, h, hfuel => by
      rw [writeItems] at hfuel ⊢
      have hread := readValue_write v fuel (']' :: rest) h.1 (endsValue_cons (by simp) rest)
        (by omega)
      rw [readItems, hread]
      simp [skipGap_cons (by decide : isGap ']' = false)]
  | v, w :: items, fuel + 1, rest, h, hfuel => by
      have hwrite : writeItems (v :: w :: items)
          = write v ++ ',' :: ' ' :: writeItems (w :: items) := by
        rw [writeItems]
        simp
      rw [hwrite] at hfuel ⊢
      rw [List.length_append, List.length_cons, List.length_cons] at hfuel
      have hread := readValue_write v fuel (',' :: ' ' :: (writeItems (w :: items) ++ ']' :: rest))
        h.1 (endsValue_cons (by simp) _) (by omega)
      have hrest := readItems_write w items fuel rest h.2 (by omega)
      obtain ⟨c, cs, hitems, hc⟩ := exists_writeItems h.2.1 items
      have hskip : skipGap (' ' :: (writeItems (w :: items) ++ ']' :: rest))
          = writeItems (w :: items) ++ ']' :: rest := by
        rw [hitems, List.cons_append]
        exact skipGap_cons hc.notGap _
      rw [readItems, List.append_assoc, List.cons_append, List.cons_append, hread]
      simp only [skipGap_cons (by decide : isGap ',' = false)]
      rw [hskip, hrest]
      rfl

/-- **The members of an object are read back**, up to its closing brace, after those before. -/
theorem readMembers_write : ∀ (m : String × Value) (members : List (String × Value)) (fuel : Nat)
    (before : List (String × Value)) (rest : List Char), LosslessMembers (m :: members) →
    ((m :: members).map Prod.fst).Nodup →
    (∀ k ∈ (m :: members).map Prod.fst, k ∉ before.map Prod.fst) →
    (writeMembers (m :: members)).length + 1 ≤ fuel →
    readMembers fuel before (writeMembers (m :: members) ++ '}' :: rest)
      = some (before ++ m :: members, rest)
  | m, _, 0, _, _, _, _, _, hfuel => by simp at hfuel
  | (k, v), [], fuel + 1, before, rest, h, _, hbefore, hfuel => by
      have hwrite : writeMembers [(k, v)] ++ '}' :: rest = '"' :: (k.toList.flatMap writeChar
          ++ '"' :: ':' :: ' ' :: (write v ++ '}' :: rest)) := by
        simp [writeMembers, writeString]
      have hlength := congrArg List.length hwrite
      simp only [List.length_append, List.length_cons] at hlength
      have hread := readValue_write v fuel ('}' :: rest) h.1 (endsValue_cons (by simp) rest)
        (by omega)
      rw [hwrite, readMembers_last h.1 hread, put_of_notMem (hbefore k List.mem_cons_self)]
  | (k, v), m :: members, fuel + 1, before, rest, h, hnodup, hbefore, hfuel => by
      have hwrite : writeMembers ((k, v) :: m :: members) ++ '}' :: rest
          = '"' :: (k.toList.flatMap writeChar ++ '"' :: ':' :: ' ' :: (write v ++ ',' :: ' ' ::
            (writeMembers (m :: members) ++ '}' :: rest))) := by
        rw [writeMembers]
        · simp [writeString]
        · simp
      have hlength := congrArg List.length hwrite
      simp only [List.length_append, List.length_cons] at hlength
      have hread := readValue_write v fuel (',' :: ' ' :: (writeMembers (m :: members)
        ++ '}' :: rest)) h.1 (endsValue_cons (by simp) _) (by omega)
      have hafter : ∀ j ∈ (m :: members).map Prod.fst, j ∉ (before ++ [(k, v)]).map Prod.fst := by
        intro j hj hmem
        rw [List.map_append, List.mem_append] at hmem
        rcases hmem with hmem | hmem
        · exact hbefore j (List.mem_cons_of_mem _ hj) hmem
        · obtain rfl : j = k := by simpa using hmem
          exact (List.nodup_cons.mp hnodup).1 hj
      have hrest := readMembers_write m members fuel (before ++ [(k, v)]) rest h.2
        (List.nodup_cons.mp hnodup).2 hafter (by omega)
      obtain ⟨ds, hm⟩ := exists_writeMembers m members
      have hskip : skipGap (' ' :: (writeMembers (m :: members) ++ '}' :: rest))
          = writeMembers (m :: members) ++ '}' :: rest := by
        rw [hm, List.cons_append]
        exact skipGap_cons (by decide : isGap '"' = false) _
      rw [hwrite, readMembers_next h.1 hread, put_of_notMem (hbefore k List.mem_cons_self)]
      simp only [hskip, hrest, List.append_assoc, List.singleton_append]

end

/-- **A document is read back** from the text of its value. -/
theorem parse?_write {v : Value} (h : Lossless v) : parse? (write v) = some v := by
  have hread := readValue_write v ((write v).length + 1) [] h endsValue_nil (Nat.le_succ _)
  obtain ⟨c, cs, hwrite, hc⟩ := exists_write h
  have hskip : skipGap (write v) = write v := by
    rw [hwrite]
    exact skipGap_cons hc.notGap cs
  rw [List.append_nil] at hread
  rw [parse?, hskip, hread]
  rfl

/-! ## Line breaks -/

theorem return_notMem_writeChar (c : Char) : '\r' ∉ writeChar c := by
  unfold writeChar
  split
  · decide
  split
  · decide
  split
  · decide
  split
  · decide
  split
  · decide
  split
  · decide
  split
  · decide
  split
  · rename_i hcode
    have hall : ∀ n, n < 0x20 → '\r' ∉ '\\' :: 'u' :: Text.hexPadded 4 n := by decide
    exact hall c.toNat hcode
  · rename_i hreturn _ _ _ _
    simpa using fun h : '\r' = c => hreturn h.symm

theorem return_notMem_writeString (s : String) : '\r' ∉ writeString s := by
  intro h
  rw [writeString, List.cons_append, List.mem_cons, List.mem_append] at h
  rcases h with h | h | h
  · exact absurd h (by decide)
  · obtain ⟨c, -, hc⟩ := List.mem_flatMap.mp h
    exact return_notMem_writeChar c hc
  · exact absurd h (by decide)

theorem return_notMem_toString (n : Int) : '\r' ∉ (toString n).toList := by
  intro h
  have hdigit : ∀ m, '\r' ∉ Nat.toDigits 10 m := fun m hm =>
    absurd (isDigit_of_mem_toDigits m _ hm) (by decide)
  rcases Int.lt_or_le n 0 with hn | hn
  · rw [toList_toString_of_neg hn, List.mem_cons] at h
    rcases h with h | h
    · exact absurd h (by decide)
    · exact hdigit _ h
  · rw [toList_toString_of_nonneg hn] at h
    exact hdigit _ h

mutual

/-- **No carriage return is written**: a line break in a string is an escape. -/
theorem return_notMem_write : ∀ v : Value, Lossless v → '\r' ∉ write v
  | .null, _ => by simp [write]
  | .bool true, _ => by simp [write]
  | .bool false, _ => by simp [write]
  | .int n, _ => by
      rw [write]
      exact return_notMem_toString n
  | .float _, h => absurd h (by simp [Lossless])
  | .string s, _ => by
      rw [write]
      exact return_notMem_writeString s
  | .array items, h => by
      have hitems := return_notMem_writeItems items h
      simp [write, hitems]
  | .object members, h => by
      have hmembers := return_notMem_writeMembers members h.2
      simp [write, hmembers]

theorem return_notMem_writeItems : ∀ items : List Value, LosslessItems items →
    '\r' ∉ writeItems items
  | [], _ => by simp [writeItems]
  | [v], h => by
      rw [writeItems]
      exact return_notMem_write v h.1
  | v :: w :: items, h => by
      have hv := return_notMem_write v h.1
      have hitems := return_notMem_writeItems (w :: items) h.2
      rw [writeItems]
      · simp [hv, hitems]
      · simp

theorem return_notMem_writeMembers : ∀ members : List (String × Value),
    LosslessMembers members → '\r' ∉ writeMembers members
  | [], _ => by simp [writeMembers]
  | [(k, v)], h => by
      have hk := return_notMem_writeString k
      have hv := return_notMem_write v h.1
      simp [writeMembers, hk, hv]
  | (k, v) :: m :: members, h => by
      have hk := return_notMem_writeString k
      have hv := return_notMem_write v h.1
      have hmembers := return_notMem_writeMembers (m :: members) h.2
      rw [writeMembers]
      · simp [hk, hv, hmembers]
      · simp

end

end Gazetteer.Json
