import Gazetteer.Dictionary.Basic
import Gazetteer.Proofs.Lexeme.Key

/-!
# Proofs/Dictionary/Indexed — what a dictionary knows about its records

A dictionary is built from the empty one by adding records. What adding preserves is `Indexed`: the
bucket of a key holds the records with that key in the order of the records, and no key is longer
than the dictionary says.

A record without a key is left out (`records_addAll`), so that a dictionary is also built from its
own records alone (`addAll_records`).
-/

namespace Gazetteer

namespace Entity

/-- The key of a record's label, if the label is a text. -/
def key? (e : Entity) : Option String :=
  match e.label with
  | .string label => some (Alias.key label)
  | _ => none

/-- Whether a dictionary keeps a record: its label is a text with a lexeme in it. -/
def isKept (e : Entity) : Bool := e.key?.any (· ≠ "")

theorem key?_of_label {e : Entity} {label : String} (h : e.label = .string label) :
    e.key? = some (Alias.key label) := by
  rw [key?, h]

theorem isKept_iff {e : Entity} : e.isKept = true ↔ ∃ key, e.key? = some key ∧ key ≠ "" := by
  rw [isKept]
  cases e.key? <;> simp

@[simp] theorem key?_ofStrings (inst cls label : String) :
    (ofStrings inst cls label).key? = some (Alias.key label) := rfl

end Entity

namespace Dictionary

/-! ## Adding one record -/

/-- **Adding a record** with a text for a label keeps it or leaves the dictionary as it is. -/
theorem add_of_key? {e : Entity} {key : String} (h : e.key? = some key) (d : Dictionary) :
    d.add e = .ok (if e.isKept then d.insert key e else d) := by
  rw [Entity.key?] at h
  split at h
  · rename_i label hlabel
    obtain rfl := Option.some.inj h
    have hkept : e.isKept = decide (Alias.key label ≠ "") := by
      rw [Entity.isKept, Entity.key?_of_label hlabel]
      rfl
    rw [add, hlabel, hkept]
    by_cases hempty : Alias.key label = "" <;> simp [hempty]
  · exact absurd h (by simp)

theorem key?_of_add {e : Entity} {d d' : Dictionary} (h : d.add e = .ok d') :
    ∃ key, e.key? = some key := by
  rw [add] at h
  split at h
  · rename_i label hlabel
    exact ⟨_, Entity.key?_of_label hlabel⟩
  · exact absurd h (by simp)

/-- Only a label that is a text can be added, whatever the dictionary holds. -/
theorem add_eq_ok_iff {e : Entity} {d d' : Dictionary} :
    d.add e = .ok d' ↔
      ∃ key, e.key? = some key ∧ d' = if e.isKept then d.insert key e else d := by
  constructor
  · intro h
    obtain ⟨key, hkey⟩ := key?_of_add h
    exact ⟨key, hkey, (Except.ok.inj ((add_of_key? hkey d).symm.trans h)).symm⟩
  · rintro ⟨key, hkey, rfl⟩
    exact add_of_key? hkey d

/-! ## The invariant -/

/-- What a dictionary knows about its records. -/
structure Indexed (d : Dictionary) : Prop where
  bucket : ∀ key, d.lookupKey key = d.records.filter fun e => e.key? == some key
  kept : ∀ e ∈ d.records, e.isKept = true
  bounded : ∀ e ∈ d.records, ∀ key, e.key? = some key → Alias.keySize key ≤ d.longest

theorem indexed_empty : Indexed empty where
  bucket _ := rfl
  kept _ h := absurd h (by simp [empty])
  bounded _ h := absurd h (by simp [empty])

theorem lookupKey_insert (d : Dictionary) (key other : String) (e : Entity) :
    (d.insert key e).lookupKey other
      = d.lookupKey other ++ (if key = other then [e] else []) := by
  rw [lookupKey, lookupKey, insert]
  by_cases h : key = other
  · subst h
    simp
  · simp [h, AliasIndex.find_push_of_ne (Ne.symm h)]

/-- **Step**: storing a record under its key keeps the invariant. -/
theorem Indexed.insert {d : Dictionary} (hd : d.Indexed) {e : Entity} {key : String}
    (hkey : e.key? = some key) (hkept : e.isKept = true) : (d.insert key e).Indexed where
  bucket other := by
    have hrecords : (d.insert key e).records = d.records ++ [e] := rfl
    rw [lookupKey_insert, hd.bucket, hrecords, List.filter_append]
    by_cases h : key = other <;> simp [hkey, h]
  kept f hf := by
    rcases List.mem_append.mp (show f ∈ d.records ++ [e] from hf) with hf | hf
    · exact hd.kept f hf
    · rwa [List.mem_singleton.mp hf]
  bounded f hf other hother := by
    have hlongest : (d.insert key e).longest = max d.longest (Alias.keySize key) := rfl
    rw [hlongest]
    rcases List.mem_append.mp (show f ∈ d.records ++ [e] from hf) with hf | hf
    · exact Nat.le_trans (hd.bounded f hf other hother) (Nat.le_max_left _ _)
    · rw [List.mem_singleton.mp hf, hkey] at hother
      obtain rfl := Option.some.inj hother
      exact Nat.le_max_right _ _

theorem Indexed.add {d d' : Dictionary} (hd : d.Indexed) {e : Entity} (h : d.add e = .ok d') :
    d'.Indexed := by
  obtain ⟨key, hkey, rfl⟩ := add_eq_ok_iff.mp h
  by_cases hkept : e.isKept = true
  · rw [if_pos hkept]
    exact hd.insert hkey hkept
  · rw [if_neg hkept]
    exact hd

/-! ## Adding records one after the other -/

@[simp] theorem addAll_nil (d : Dictionary) : d.addAll [] = .ok d := rfl

theorem addAll_cons_of_add {d d' : Dictionary} {e : Entity} (h : d.add e = .ok d')
    (es : List Entity) : d.addAll (e :: es) = d'.addAll es := by
  rw [addAll, h]

theorem add_of_addAll_cons {d d' : Dictionary} {e : Entity} {es : List Entity}
    (h : d.addAll (e :: es) = .ok d') : ∃ d₁, d.add e = .ok d₁ ∧ d₁.addAll es = .ok d' := by
  rw [addAll] at h
  split at h
  · exact ⟨_, ‹_›, h⟩
  · exact absurd h (by simp)

theorem addAll_append {d d₁ : Dictionary} {xs : List Entity} (h : d.addAll xs = .ok d₁)
    (ys : List Entity) : d.addAll (xs ++ ys) = d₁.addAll ys := by
  induction xs generalizing d with
  | nil =>
    obtain rfl := Except.ok.inj h
    rfl
  | cons e xs ih =>
    obtain ⟨d₂, hadd, hrest⟩ := add_of_addAll_cons h
    rw [List.cons_append, addAll_cons_of_add hadd, ih hrest]

/-- **Records with texts for labels can always be added.** -/
theorem exists_addAll {es : List Entity} (h : ∀ e ∈ es, e.key?.isSome) (d : Dictionary) :
    ∃ d', d.addAll es = .ok d' := by
  induction es generalizing d with
  | nil => exact ⟨d, rfl⟩
  | cons e es ih =>
    obtain ⟨key, hkey⟩ := Option.isSome_iff_exists.mp (h e List.mem_cons_self)
    obtain ⟨d', hd'⟩ := ih (fun f hf => h f (List.mem_cons_of_mem e hf))
      (if e.isKept then d.insert key e else d)
    exact ⟨d', (addAll_cons_of_add (add_of_key? hkey d) es).trans hd'⟩

/-- **Run**: every dictionary that records were added to has the invariant. -/
theorem Indexed.addAll {d d' : Dictionary} (hd : d.Indexed) {es : List Entity}
    (h : d.addAll es = .ok d') : d'.Indexed := by
  induction es generalizing d with
  | nil =>
    obtain rfl := Except.ok.inj h
    exact hd
  | cons e es ih =>
    obtain ⟨d₁, hadd, hrest⟩ := add_of_addAll_cons h
    exact ih (hd.add hadd) hrest

/-- **The records of a dictionary** are those that were added and have a lexeme, in order. -/
theorem records_addAll {d d' : Dictionary} {es : List Entity} (h : d.addAll es = .ok d') :
    d'.records = d.records ++ es.filter Entity.isKept := by
  induction es generalizing d with
  | nil =>
    obtain rfl := Except.ok.inj h
    simp
  | cons e es ih =>
    obtain ⟨d₁, hadd, hrest⟩ := add_of_addAll_cons h
    obtain ⟨key, hkey, rfl⟩ := add_eq_ok_iff.mp hadd
    rw [ih hrest]
    by_cases hkept : e.isKept = true
    · rw [if_pos hkept, List.filter_cons_of_pos hkept]
      simp [Dictionary.insert]
    · rw [if_neg hkept, List.filter_cons_of_neg hkept]

theorem addAll_filter_isKept {d d' : Dictionary} {es : List Entity} (h : d.addAll es = .ok d') :
    d.addAll (es.filter Entity.isKept) = .ok d' := by
  induction es generalizing d with
  | nil => exact h
  | cons e es ih =>
    obtain ⟨d₁, hadd, hrest⟩ := add_of_addAll_cons h
    by_cases hkept : e.isKept = true
    · rw [List.filter_cons_of_pos hkept, addAll_cons_of_add hadd]
      exact ih hrest
    · obtain ⟨key, hkey, rfl⟩ := add_eq_ok_iff.mp hadd
      rw [List.filter_cons_of_neg hkept]
      rw [if_neg hkept] at hrest
      exact ih hrest

/-- **A dictionary is built from its own records.** -/
theorem addAll_records {d : Dictionary} {es : List Entity} (h : empty.addAll es = .ok d) :
    empty.addAll d.records = .ok d := by
  rw [records_addAll h]
  exact addAll_filter_isKept h

end Dictionary

end Gazetteer
