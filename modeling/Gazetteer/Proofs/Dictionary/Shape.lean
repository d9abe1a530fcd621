import Gazetteer.Proofs.Dictionary.Cache

/-!
# Proofs/Dictionary/Shape — cache files with any content

A cache file may hold any bytes. Bytes that are no JSON are passed over, and nothing is loaded. What
is JSON has to have the shape of a dictionary: a value is a record if it has three parts and the
last one is a text (`IsRecord`), and the entities of a file have to be records (`needsShape_build`).
JSON of another shape is not passed over: loading it fails, and nothing else makes it fail
(`loads_iff_shape`). An empty array is enough (`loads_iff_shape_brackets`).
-/

namespace Gazetteer

/-- Whether a result is there if a condition on the shape of a value holds, and the shape is the
fault if it does not. -/
structure NeedsShape {α : Type} (condition : Prop) (r : Except Fault α) : Prop where
  ok : condition → ∃ a, r = .ok a
  flaw : ¬ condition → ∃ flaw, r = .error (.shape flaw)

section NeedsShape

variable {α β : Type} {condition condition' : Prop} {r : Except Fault α}

theorem needsShape_ok (h : condition) (a : α) : NeedsShape condition (.ok a) :=
  ⟨fun _ => ⟨a, rfl⟩, fun hnot => absurd h hnot⟩

theorem needsShape_error (h : ¬ condition) (flaw : ShapeFlaw) :
    NeedsShape condition (.error (.shape flaw) : Except Fault α) :=
  ⟨fun hyes => absurd hyes h, fun _ => ⟨flaw, rfl⟩⟩

theorem NeedsShape.of_iff (h : NeedsShape condition r) (hiff : condition ↔ condition') :
    NeedsShape condition' r :=
  ⟨fun hyes => h.ok (hiff.mpr hyes), fun hnot => h.flaw fun hyes => hnot (hiff.mp hyes)⟩

theorem NeedsShape.map (h : NeedsShape condition r) (f : α → β) :
    NeedsShape condition (r.map f) where
  ok hyes := by
    obtain ⟨a, rfl⟩ := h.ok hyes
    exact ⟨f a, rfl⟩
  flaw hnot := by
    obtain ⟨flaw, rfl⟩ := h.flaw hnot
    exact ⟨flaw, rfl⟩

end NeedsShape

namespace Cache

/-! ## Records -/

/-- Whether a value is taken for a record: it has three parts, and the last one is a text. The
characters of a text are its parts, and so are the keys of an object. -/
def IsRecord (v : Value) : Prop := ∃ inst cls label, v.items = .ok [inst, cls, .string label]

/-- **Taking a value apart**: whatever has three parts is made a record of them. -/
theorem entityOf_eq (v : Value) : entityOf v =
    match v.items with
    | .ok [inst, cls, label] => .ok ⟨inst, cls, label⟩
    | .ok items => .error (.shape (entityOf.sizeFlaw items.length))
    | .error _ => .error (.shape (.notUnpackable v.typeName)) := by
  cases v with
  | array items => rcases items with _ | ⟨a, _ | ⟨b, _ | ⟨c, _ | ⟨d, rest⟩⟩⟩⟩ <;> rfl
  | string s =>
    simp only [entityOf, Value.items]
    rcases s.toList with _ | ⟨a, _ | ⟨b, _ | ⟨c, _ | ⟨d, rest⟩⟩⟩⟩ <;> simp [Entity.ofStrings]
  | object members =>
    rcases members with _ | ⟨a, _ | ⟨b, _ | ⟨c, _ | ⟨d, rest⟩⟩⟩⟩ <;>
      simp [entityOf, Value.items, Entity.ofStrings]
  | null | bool _ | int _ | float _ => rfl

theorem entityOf_cases (v : Value) :
    (∃ inst cls label, v.items = .ok [inst, cls, label] ∧ entityOf v = .ok ⟨inst, cls, label⟩) ∨
      ((∀ inst cls label, v.items ≠ .ok [inst, cls, label]) ∧
        ∃ flaw, entityOf v = .error (.shape flaw)) := by
  rw [entityOf_eq]
  split
  · exact .inl ⟨_, _, _, ‹_›, rfl⟩
  · rename_i hnot hitems
    refine .inr ⟨fun inst cls label h => ?_, _, rfl⟩
    exact hnot inst cls label (Except.ok.inj (hitems.symm.trans h))
  · rename_i hitems
    exact .inr ⟨fun _ _ _ h => absurd (hitems.symm.trans h) (by simp), _, rfl⟩

theorem needsShape_add (d : Dictionary) (e : Entity) :
    NeedsShape (∃ label, e.label = .string label) (d.add e) := by
  rw [Dictionary.add]
  split
  · rename_i label hlabel
    dsimp only
    split <;> exact needsShape_ok ⟨label, hlabel⟩ _
  · rename_i hnot
    refine needsShape_error ?_ _
    rintro ⟨label, hlabel⟩
    exact hnot label hlabel

/-- **Values are collected** if all of them are records. -/
theorem needsShape_collect : ∀ (vs : List Value) (d : Dictionary),
    NeedsShape (∀ v ∈ vs, IsRecord v) (collect d vs)
  | [], d => needsShape_ok (by simp) d
  | v :: vs, d => by
      rw [collect, List.forall_mem_cons]
      rcases entityOf_cases v with ⟨inst, cls, label, hitems, hentity⟩ | ⟨hnot, flaw, hentity⟩
      · have hrecord : IsRecord v ↔ ∃ text, label = .string text := by
          simp [IsRecord, hitems]
        rw [hentity]
        by_cases hlabel : ∃ text, label = .string text
        · obtain ⟨d', hadd⟩ := (needsShape_add d ⟨inst, cls, label⟩).ok hlabel
          simp only [hadd]
          exact (needsShape_collect vs d').of_iff (by simp [hrecord, hlabel])
        · obtain ⟨flaw, hadd⟩ := (needsShape_add d ⟨inst, cls, label⟩).flaw hlabel
          simp only [hadd]
          exact needsShape_error (fun h => hlabel (hrecord.mp h.1)) flaw
      · rw [hentity]
        refine needsShape_error ?_ flaw
        rintro ⟨⟨inst, cls, label, hitems⟩, -⟩
        exact hnot inst cls (.string label) hitems

/-! ## The members of a file -/

/-- Whether the entities among the members of a cache file are records; there may be none. What is
gone through need not be an array. -/
def HoldsRecords (members : List (String × Value)) : Prop :=
  ∃ vs, ((Value.find? "entities" members).getD (.array [])).items = .ok vs ∧ ∀ v ∈ vs, IsRecord v

theorem needsShape_items (v : Value) : NeedsShape (∃ vs, v.items = .ok vs) v.items := by
  cases v with
  | array _ | string _ | object _ => exact needsShape_ok ⟨_, rfl⟩ _
  | null | bool _ | int _ | float _ =>
    exact needsShape_error (by simp [Value.items]) _

theorem needsShape_build (members : List (String × Value)) :
    NeedsShape (HoldsRecords members) (build members) := by
  have hshape := needsShape_items ((Value.find? "entities" members).getD (.array []))
  rw [build]
  cases hitems : ((Value.find? "entities" members).getD (.array [])).items with
  | ok vs => exact (needsShape_collect vs .empty).of_iff (by simp [HoldsRecords, hitems])
  | error fault =>
    rw [hitems] at hshape
    obtain ⟨flaw, hflaw⟩ := hshape.flaw (by simp)
    rw [hflaw]
    refine needsShape_error ?_ flaw
    rintro ⟨vs, h, -⟩
    exact absurd (hitems.symm.trans h) (by simp)

/-! ## Whole files -/

/-- The JSON value that a cache file holds, if it can be read and holds one. -/
def json? (cache : Cache) (files : Files) : Option Value :=
  match files.readBytes cache.path with
  | .error _ => none
  | .ok bytes => (Text.decode? bytes).bind fun cs => Json.parse? (Text.unifyLineBreaks cs)

theorem read_eq (cache : Cache) (files : Files) :
    cache.read files = (cache.json? files).getD .null := by
  rw [read, json?]
  cases files.readBytes cache.path with
  | error _ => rfl
  | ok bytes => cases hdecode : Text.decode? bytes <;> simp [hdecode]

/-- Whether a value is one that a dictionary can be loaded from, or nothing at all. -/
def IsLoadable (v : Value) : Prop :=
  v = .null ∨ ∃ members, v = .object members ∧ HoldsRecords members

/-- Whether a value names another fingerprint than the one that is asked for. -/
def IsOutdated (fingerprint : Option Int) (v : Value) : Prop :=
  ∃ members, v = .object members ∧
    ((Value.find? "fingerprint" members).getD .null).same (fingerprintValue fingerprint) = false

variable {cache : Cache} {files : Files} {v : Value}

theorem needsShape_loadAny (h : cache.json? files = some v) :
    NeedsShape (IsLoadable v) (cache.loadAny files) := by
  rw [loadAny, read_eq, h, Option.getD_some]
  cases v with
  | null => exact needsShape_ok (.inl rfl) none
  | object members =>
    exact ((needsShape_build members).map some).of_iff (by simp [IsLoadable])
  | bool _ | int _ | float _ | string _ | array _ =>
    exact needsShape_error (by simp [IsLoadable]) _

theorem needsShape_load (h : cache.json? files = some v) (fingerprint : Option Int) :
    NeedsShape (IsLoadable v ∨ IsOutdated fingerprint v) (cache.load files fingerprint) := by
  rw [load, read_eq, h, Option.getD_some]
  cases v with
  | null => exact needsShape_ok (.inl (.inl rfl)) none
  | object members =>
    simp only [membersOf]
    split
    · rename_i hsame
      exact ((needsShape_build members).map some).of_iff (by simp [IsLoadable, IsOutdated, hsame])
    · rename_i hsame
      exact needsShape_ok (.inr ⟨members, rfl, Bool.eq_false_iff.mpr hsame⟩) none
  | bool _ | int _ | float _ | string _ | array _ =>
    exact needsShape_error (by simp [IsLoadable, IsOutdated]) _

/-- A file that is no JSON is passed over. -/
theorem load_of_json?_eq_none (h : cache.json? files = none) (fingerprint : Option Int) :
    cache.loadAny files = .ok none ∧ cache.load files fingerprint = .ok none := by
  rw [loadAny, load, read_eq, h]
  exact ⟨rfl, rfl⟩

/-- **Loading fails just on JSON of another shape.** -/
theorem loads_iff_shape (cache : Cache) (files : Files) (fingerprint : Option Int) :
    (cache.json? files = none →
      cache.loadAny files = .ok none ∧ cache.load files fingerprint = .ok none) ∧
    ∀ v, cache.json? files = some v →
      NeedsShape (IsLoadable v) (cache.loadAny files) ∧
      NeedsShape (IsLoadable v ∨ IsOutdated fingerprint v) (cache.load files fingerprint) :=
  ⟨fun h => load_of_json?_eq_none h fingerprint,
    fun _ h => ⟨needsShape_loadAny h, needsShape_load h fingerprint⟩⟩

/-- A directory with a cache file that holds an empty array. -/
def bracketFiles : Files where
  here := ["r"]
  nodes := [(["r"], .directory), (["r", Defaults.cacheFile], .file (Text.encode "[]".toList))]

/-- An empty array is JSON, and fails under every fingerprint. -/
theorem loads_iff_shape_brackets :
    (inDirectory ⟨0, []⟩).json? bracketFiles = some (.array []) ∧
      (∃ flaw, (inDirectory ⟨0, []⟩).loadAny bracketFiles = .error (.shape flaw)) ∧
      ∀ fingerprint, ∃ flaw,
        (inDirectory ⟨0, []⟩).load bracketFiles fingerprint = .error (.shape flaw) := by
  have hread : bracketFiles.readBytes (inDirectory ⟨0, []⟩).path
      = .ok (Text.encode "[]".toList) := by with_unfolding_all rfl
  have hjson : (inDirectory ⟨0, []⟩).json? bracketFiles = some (.array []) := by
    rw [json?, hread]
    simp only [Text.decode?_encode, Option.bind_some]
    rfl
  have hloads (fingerprint : Option Int) :=
    (loads_iff_shape (inDirectory ⟨0, []⟩) bracketFiles fingerprint).2 _ hjson
  exact ⟨hjson, (hloads none).1.flaw (by simp [IsLoadable]), fun fingerprint =>
    (hloads fingerprint).2.flaw (by simp [IsLoadable, IsOutdated])⟩

end Cache

end Gazetteer
