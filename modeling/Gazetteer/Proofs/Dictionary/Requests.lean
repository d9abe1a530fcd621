import Gazetteer.Proofs.Dictionary.Indexed

/-!
# Proofs/Dictionary/Requests — a dictionary under any sequence of requests

Records of three texts are added to a dictionary, and between them it is asked for the records of an
alias or of a key, and whether it holds an alias. Each answer is the one that the list of the
records added so far gives (`answer_of_holds`), and `Holds` says what the dictionary itself keeps of
this list. A bucket comes up with its first record and never loses one, so that an alias is held
just when it has records; the greatest size is counted on the keys, and a key has the size of its
alias (`keySize_key`).
-/

namespace Gazetteer

namespace AliasIndex

/-- Whether every bucket holds a record. -/
def IsFull (index : AliasIndex) : Prop := ∀ entry ∈ index, entry.2 ≠ []

theorem isFull_nil : IsFull [] := fun _ h => absurd h List.not_mem_nil

theorem isFull_cons {entry : String × List Entity} {index : AliasIndex} :
    IsFull (entry :: index) ↔ entry.2 ≠ [] ∧ IsFull index :=
  List.forall_mem_cons

theorem IsFull.push (key : String) (e : Entity) : ∀ {index : AliasIndex}, IsFull index →
    IsFull (index.push key e)
  | [], h => isFull_cons.mpr ⟨List.cons_ne_nil e [], h⟩
  | (k, bucket) :: index, h => by
      obtain ⟨hbucket, hrest⟩ := isFull_cons.mp h
      rw [AliasIndex.push]
      split
      · exact isFull_cons.mpr ⟨List.append_ne_nil_of_left_ne_nil hbucket [e], hrest⟩
      · exact isFull_cons.mpr ⟨hbucket, hrest.push key e⟩

/-- **A key is stored** just when there are records under it. -/
theorem IsFull.has_iff (key : String) : ∀ {index : AliasIndex}, IsFull index →
    (index.has key = true ↔ index.find key ≠ [])
  | [], _ => by simp [has, find]
  | (k, bucket) :: index, h => by
      obtain ⟨hbucket, hrest⟩ := isFull_cons.mp h
      by_cases hk : k = key
      · simp [has, find, hk, hbucket]
      · simpa [has, find, hk] using hrest.has_iff key

end AliasIndex

namespace Dictionary

/-- A record of three texts. -/
structure Record where
  inst : String
  cls : String
  label : String
deriving Repr, DecidableEq

namespace Record

/-- The entity of a record. -/
def entity (r : Record) : Entity := .ofStrings r.inst r.cls r.label

/-- The records whose alias has a lexeme. -/
def kept (rs : List Record) : List Record := rs.filter fun r => 0 < Alias.size r.label

/-- The records whose alias has a given key. -/
def withKey (key : String) (rs : List Record) : List Record :=
  rs.filter fun r => Alias.key r.label = key

/-- The greatest number of lexemes in an alias; 0 if there is no record. -/
def longest (rs : List Record) : Nat := (rs.map fun r => Alias.size r.label).max?.getD 0

@[simp] theorem key?_entity (r : Record) : r.entity.key? = some (Alias.key r.label) := rfl

theorem isKept_entity (r : Record) : r.entity.isKept = decide (0 < Alias.size r.label) := by
  have hkey : r.entity.isKept = decide (Alias.key r.label ≠ "") := rfl
  rw [hkey, decide_eq_decide, Ne, Alias.key_eq_empty_iff_size, Nat.pos_iff_ne_zero]

theorem longest_append_singleton (rs : List Record) (r : Record) :
    longest (rs ++ [r]) = max (longest rs) (Alias.size r.label) := by
  have hfold : ∀ sizes : List Nat, sizes.max?.getD 0 = sizes.foldl max 0 := fun sizes => by
    rw [List.foldl_max, Nat.zero_max]
  rw [longest, longest, hfold, hfold, List.map_append, List.foldl_append]
  rfl

end Record

/-! ## What a dictionary keeps of records -/

/-- That a dictionary holds records: these ones in order, those of each key in the same order and
in a bucket that is not empty, and the size of the longest alias. -/
structure Holds (d : Dictionary) (rs : List Record) : Prop where
  records : d.records = rs.map Record.entity
  bucket : ∀ key, d.lookupKey key = (Record.withKey key rs).map Record.entity
  full : d.index.IsFull
  longest : d.longest = Record.longest rs

variable {d : Dictionary} {rs : List Record}

theorem holds_empty : empty.Holds [] where
  records := rfl
  bucket _ := rfl
  full := AliasIndex.isFull_nil
  longest := rfl

theorem Holds.insert (h : d.Holds rs) {r : Record} (hsize : 0 < Alias.size r.label) :
    (d.insert (Alias.key r.label) r.entity).Holds (rs ++ [r]) where
  records := by
    rw [Dictionary.insert, h.records, List.map_append]
    rfl
  bucket key := by
    rw [lookupKey_insert, h.bucket, Record.withKey, Record.withKey, List.filter_append,
      List.map_append]
    by_cases hkey : Alias.key r.label = key <;> simp [hkey]
  full := h.full.push _ _
  longest := by
    rw [Record.longest_append_singleton, ← h.longest, ← Alias.keySize_key hsize]
    rfl

/-- **Step**: adding a record of texts does not fail, and it is held if it has a lexeme. -/
theorem Holds.add (h : d.Holds rs) (r : Record) :
    ∃ d', d.add r.entity = .ok d' ∧ d'.Holds (rs ++ Record.kept [r]) := by
  refine ⟨_, add_of_key? r.key?_entity d, ?_⟩
  rw [Record.isKept_entity]
  by_cases hsize : 0 < Alias.size r.label
  · have hkept : Record.kept [r] = [r] := List.filter_cons_of_pos (decide_eq_true hsize)
    rw [hkept, if_pos (decide_eq_true hsize)]
    exact h.insert hsize
  · have hkept : Record.kept [r] = [] := List.filter_cons_of_neg (by simpa using hsize)
    rw [hkept, List.append_nil, if_neg (by simpa using hsize)]
    exact h

theorem Holds.hasAlias_iff (h : d.Holds rs) (label : String) :
    d.hasAlias label = true ↔ d.lookup label ≠ [] :=
  h.full.has_iff (Alias.key label)

/-- The records of an alias are those with its key, as they stand in the list of all records. -/
theorem Holds.lookup_eq_filter (h : d.Holds rs) (label : String) :
    d.lookup label = d.records.filter fun e => e.key? = some (Alias.key label) := by
  rw [lookup, h.bucket, h.records, Record.withKey, List.filter_map]
  simp [Function.comp_def]

/-! ## Requests -/

/-- What a dictionary is asked to do. -/
inductive Request where
  | add (r : Record)
  | lookup (label : String)
  | lookupKey (key : String)
  | hasAlias (label : String)

/-- What a dictionary answers. -/
inductive Answer where
  | added
  | records (es : List Entity)
  | truth (value : Bool)

namespace Request

/-- The answer of a dictionary, and the dictionary afterwards. -/
def answer (d : Dictionary) : Request → Except Fault (Answer × Dictionary)
  | .add r => (d.add r.entity).map fun d => (.added, d)
  | .lookup label => .ok (.records (d.lookup label), d)
  | .lookupKey key => .ok (.records (d.lookupKey key), d)
  | .hasAlias label => .ok (.truth (d.hasAlias label), d)

/-- The answers to requests made one after the other, and the dictionary afterwards. -/
def answers (d : Dictionary) : List Request → Except Fault (List Answer × Dictionary)
  | [] => .ok ([], d)
  | request :: requests => do
    let (a, d) ← request.answer d
    let (as, d) ← answers d requests
    return (a :: as, d)

/-- The records that a request adds. -/
def added : Request → List Record
  | .add r => [r]
  | _ => []

/-- The answer that a list of records gives. -/
def expected (rs : List Record) : Request → Answer
  | .add _ => .added
  | .lookup label => .records ((Record.withKey (Alias.key label) rs).map Record.entity)
  | .lookupKey key => .records ((Record.withKey key rs).map Record.entity)
  | .hasAlias label => .truth (Record.withKey (Alias.key label) rs ≠ [])

/-- The answers that a list of records gives, to which the requests add their own. -/
def expectedAll (rs : List Record) : List Request → List Answer
  | [] => []
  | request :: requests =>
    request.expected rs :: expectedAll (rs ++ Record.kept request.added) requests

/-- **Step**: each request is answered, and as the records that are held say. -/
theorem answer_of_holds (h : d.Holds rs) (request : Request) :
    ∃ d', request.answer d = .ok (request.expected rs, d') ∧
      d'.Holds (rs ++ Record.kept request.added) ∧
      d.addAll (request.added.map Record.entity) = .ok d' := by
  have hsame : d.Holds (rs ++ Record.kept []) := by
    rwa [Record.kept, List.filter_nil, List.append_nil]
  cases request with
  | add r =>
    obtain ⟨d', hadd, hd'⟩ := h.add r
    refine ⟨d', ?_, hd', addAll_cons_of_add hadd []⟩
    rw [answer, hadd]
    rfl
  | lookup label =>
    refine ⟨d, ?_, hsame, rfl⟩
    rw [answer, expected, Dictionary.lookup, h.bucket]
  | lookupKey key =>
    refine ⟨d, ?_, hsame, rfl⟩
    rw [answer, expected, h.bucket]
  | hasAlias label =>
    refine ⟨d, ?_, hsame, rfl⟩
    have hiff : d.hasAlias label = decide (Record.withKey (Alias.key label) rs ≠ []) := by
      rw [Bool.eq_iff_iff, h.hasAlias_iff, Dictionary.lookup, h.bucket]
      simp
    rw [answer, expected, hiff]

/-- **Run**: from a dictionary that holds some records on. -/
theorem answers_of_holds (h : d.Holds rs) (requests : List Request) :
    ∃ d', answers d requests = .ok (expectedAll rs requests, d') ∧
      d'.Holds (rs ++ Record.kept (requests.flatMap added)) ∧
      d.addAll ((requests.flatMap added).map Record.entity) = .ok d' := by
  induction requests generalizing d rs with
  | nil => exact ⟨d, rfl, by rwa [List.flatMap_nil, Record.kept, List.filter_nil,
      List.append_nil], rfl⟩
  | cons request requests ih =>
    obtain ⟨d₁, hanswer, hd₁, hadd₁⟩ := answer_of_holds h request
    obtain ⟨d', hrest, hd', hadd'⟩ := ih hd₁
    refine ⟨d', ?_, ?_, ?_⟩
    · rw [answers, hanswer]
      simp only [bind, Except.bind, hrest]
      rfl
    · rw [List.flatMap_cons, Record.kept, List.filter_append, ← List.append_assoc]
      exact hd'
    · rw [List.flatMap_cons, List.map_append, addAll_append hadd₁]
      exact hadd'

/-- **A new dictionary after any requests.** None of them fails, each is answered as the records
added before it say, and the dictionary is the one that the added records alone would give. -/
theorem answers_empty (requests : List Request) :
    ∃ d, answers .empty requests = .ok (expectedAll [] requests, d) ∧
      Dictionary.empty.addAll ((requests.flatMap added).map Record.entity) = .ok d ∧
      d.Holds (Record.kept (requests.flatMap added)) ∧
      ∀ label, d.lookup label = d.records.filter (fun e => e.key? = some (Alias.key label)) ∧
        (d.hasAlias label = true ↔ d.lookup label ≠ []) := by
  obtain ⟨d, hanswers, hd, hadd⟩ := answers_of_holds holds_empty requests
  exact ⟨d, hanswers, hadd, hd, fun label => ⟨hd.lookup_eq_filter label, hd.hasAlias_iff label⟩⟩

end Request

end Dictionary

end Gazetteer
