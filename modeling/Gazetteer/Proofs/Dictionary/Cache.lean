import Gazetteer.Dictionary.Cache
import Gazetteer.Fingerprint
import Gazetteer.Proofs.Dictionary.Indexed
import Gazetteer.Proofs.Files
import Gazetteer.Proofs.Json.RoundTrip
import Gazetteer.Proofs.Text.Utf8
import Mathlib.Algebra.Group.Nat.Defs

/-!
# Proofs/Dictionary/Cache — a dictionary that is saved is loaded

A dictionary of texts is written without loss (`lossless_contents`), so that a file with its text
holds its contents (`read_of_readBytes`). What is loaded from these contents is the dictionary
itself: its records are added once more, in the same order, to the empty one (`loadAny_of_read`,
`load_of_read`). Under another fingerprint nothing is loaded (`load_of_read_of_ne`). Where the file
can be written, saving and loading is a round trip: `holds_save`.
-/

namespace Gazetteer

/-- A text without carriage returns has its line breaks as they are. -/
theorem Text.unifyLineBreaks_of_notMem : ∀ {cs : List Char}, '\r' ∉ cs → unifyLineBreaks cs = cs
  | [], _ => rfl
  | c :: cs, h => by
      have hc : c ≠ '\r' := fun heq => h (heq ▸ List.mem_cons_self)
      have hcs : '\r' ∉ cs := fun hmem => h (List.mem_cons_of_mem c hmem)
      rw [unifyLineBreaks, unifyLineBreaks_of_notMem hcs]
      · exact fun _ heq => absurd heq hc
      · exact fun heq => absurd heq hc

/-- Whether all three parts of a record are texts. -/
def Entity.IsText (e : Entity) : Prop := ∃ inst cls label, e = Entity.ofStrings inst cls label

/-! ## Short digests -/

theorem Digest.bigEndian_lt (bytes : List UInt8) : bigEndian bytes < 256 ^ bytes.length := by
  suffices h : ∀ (l : List UInt8) (n k : Nat), n < 256 ^ k →
      l.foldl (fun n b => 256 * n + b.toNat) n < 256 ^ (k + l.length) by
    have := h bytes 0 0 (by decide)
    rwa [Nat.zero_add] at this
  intro l
  induction l with
  | nil => exact fun n k h => h
  | cons b l ih =>
    intro n k h
    have hb : b.toNat < 256 := b.toNat_lt
    have hstep : 256 * n + b.toNat < 256 ^ (k + 1) := by
      rw [Nat.pow_succ]
      omega
    have := ih _ _ hstep
    rwa [show k + (b :: l).length = k + 1 + l.length by simp only [List.length_cons]; omega]

/-- **A short digest** has 64 bits. -/
theorem Digest.short_lt (bytes : List UInt8) : short bytes < 2 ^ 64 := by
  refine Nat.lt_of_lt_of_le (bigEndian_lt _) ?_
  have hlength : ((md5 bytes).take 8).length ≤ 8 := List.length_take_le 8 _
  exact Nat.pow_le_pow_right (by decide) hlength

namespace Cache

variable {cache : Cache} {files : Files} {time : String} {d : Dictionary} {es : List Entity}

/-- **What is written without loss can be read** from the file. -/
theorem read_of_readBytes {v : Value} (hv : Json.Lossless v)
    (h : files.readBytes cache.path = .ok (Text.encode (Json.write v))) : cache.read files = v := by
  simp only [read, h, Text.decode?_encode, Json.parse?_write hv,
    Text.unifyLineBreaks_of_notMem (Json.return_notMem_write v hv), Option.getD_some]

theorem lossless_toValue {e : Entity} (h : e.IsText) : Json.Lossless e.toValue := by
  obtain ⟨inst, cls, label, rfl⟩ := h
  exact ⟨trivial, trivial, trivial, trivial⟩

/-- **A dictionary of texts is written without loss**, with a fingerprint of 64 bits. -/
theorem lossless_contents (time : String) {fingerprint : Nat} (hf : fingerprint < 2 ^ 64)
    (hd : ∀ e ∈ d.records, e.IsText) :
    Json.Lossless (contents time (some fingerprint) d) := by
  have hkeys : ["fingerprint", "created_at", "entities"].Nodup := by decide
  refine ⟨hkeys, ?_, trivial, ?_, trivial⟩
  · rw [fingerprintValue, Json.Lossless, Nat.length_toDigits_le_iff (by decide) (by decide)]
    have hbound : (2 : Nat) ^ 64 ≤ 10 ^ 20 := by decide
    have hgrows : 10 ^ 20 ≤ 10 ^ Json.integerDigits := Nat.pow_le_pow_right (by decide) (by decide)
    exact Nat.lt_of_lt_of_le hf (Nat.le_trans hbound hgrows)
  · rw [Json.Lossless, Json.losslessItems_iff]
    intro v hv
    obtain ⟨e, he, rfl⟩ := List.mem_map.mp hv
    exact lossless_toValue (hd e he)

/-! ## Building a dictionary from the contents -/

theorem collect_map_toValue (d : Dictionary) :
    ∀ es : List Entity, collect d (es.map Entity.toValue) = d.addAll es := by
  intro es
  induction es generalizing d with
  | nil => rfl
  | cons e es ih =>
    have hentity : entityOf e.toValue = .ok e := rfl
    rw [List.map_cons, collect, hentity, Dictionary.addAll]
    cases hadd : d.add e with
    | ok d' => simp only [hadd, ih]
    | error fault => simp only [hadd]

theorem build_contents (fingerprint : Value) (h : Dictionary.empty.addAll es = .ok d) :
    build [("fingerprint", fingerprint), ("created_at", .string time),
      ("entities", .array (d.records.map Entity.toValue))] = .ok d := by
  have hitems : ((Value.find? "entities" [("fingerprint", fingerprint),
      ("created_at", .string time), ("entities", .array (d.records.map Entity.toValue))]).getD
      (.array [])).items = .ok (d.records.map Entity.toValue) := rfl
  rw [build, hitems]
  simp only [collect_map_toValue, Dictionary.addAll_records h]

variable {fingerprint : Option Int}

/-- **Whatever it was built from**, a dictionary is loaded from its contents. -/
theorem loadAny_of_read (h : cache.read files = contents time fingerprint d)
    (hd : Dictionary.empty.addAll es = .ok d) : cache.loadAny files = .ok (some d) := by
  rw [loadAny, h, contents]
  simp only [membersOf, build_contents _ hd]
  rfl

theorem same_fingerprintValue (m n : Option Int) :
    (fingerprintValue m).same (fingerprintValue n) = (m == n) := by
  cases m <;> cases n <;> simp [fingerprintValue, Value.same]

theorem load_contents (h : cache.read files = contents time fingerprint d)
    (hd : Dictionary.empty.addAll es = .ok d) (asked : Option Int) :
    cache.load files asked = .ok (if fingerprint = asked then some d else none) := by
  have hfind : (Value.find? "fingerprint" [("fingerprint", fingerprintValue fingerprint),
      ("created_at", .string time),
      ("entities", .array (d.records.map Entity.toValue))]).getD .null
        = fingerprintValue fingerprint := rfl
  rw [load, h, contents]
  simp only [membersOf, hfind, same_fingerprintValue, build_contents _ hd]
  by_cases heq : fingerprint = asked <;> simp [heq, Except.map]

/-- **Under the same fingerprint** a dictionary is loaded from its contents. -/
theorem load_of_read (h : cache.read files = contents time fingerprint d)
    (hd : Dictionary.empty.addAll es = .ok d) :
    cache.load files fingerprint = .ok (some d) := by
  rw [load_contents h hd, if_pos rfl]

/-- **Under another fingerprint** nothing is loaded. -/
theorem load_of_read_of_ne (h : cache.read files = contents time fingerprint d)
    (hd : Dictionary.empty.addAll es = .ok d) {asked : Option Int} (hne : fingerprint ≠ asked) :
    cache.load files asked = .ok none := by
  rw [load_contents h hd, if_neg hne]

/-! ## The cache file -/

/-- The bytes of the file that a dictionary is saved in. -/
def bytesOf (time : String) (fingerprint : Option Int) (d : Dictionary) : List UInt8 :=
  Text.encode (Json.write (contents time fingerprint d))

theorem names_inDirectory (directory : Path) :
    (inDirectory directory).path.names = directory.names ++ [Defaults.cacheFile] := by
  have hname : Path.ofString Defaults.cacheFile = ⟨0, [Defaults.cacheFile]⟩ := by
    decide +kernel
  rw [inDirectory, Path.child, hname]
  rfl

/-! ## Saving and loading again -/

/-- Whether the file of a cache can be written, whatever its content: its directory is there or can
be made, the file is there or can be and is not locked, and the disk is not full. -/
def IsWritable (cache : Cache) (files : Files) : Prop :=
  ∀ bytes, (files.writeAlong cache.path bytes).1 = none

/-- **Saving where it is possible** leaves a file with what is saved. -/
theorem readBytes_save (h : cache.IsWritable files) (time : String) (fingerprint : Option Int)
    (d : Dictionary) : (cache.save time fingerprint d files).readBytes cache.path
      = .ok (bytesOf time fingerprint d) := Files.readBytes_writeAlong (h _)

/-- **Saving where nothing stands yet** puts the cache file under its name, and changes nothing
else. -/
theorem save_free {directory : Path} {name : List String}
    (hfree : files.IsFree (inDirectory directory).path name)
    (h : (inDirectory directory).IsWritable files) (time : String) (fingerprint : Option Int)
    (d : Dictionary) : (inDirectory directory).save time fingerprint d files
      = files.set name (.file (bytesOf time fingerprint d)) :=
  Files.writeAlong_free (by decide) (names_inDirectory directory) hfree (h _)

/-- The records of some texts: individual, class and label. -/
def recordsOf (texts : List (String × String × String)) : List Entity :=
  texts.map fun (inst, cls, label) => .ofStrings inst cls label

theorem isText_of_mem_recordsOf {texts : List (String × String × String)} {e : Entity}
    (h : e ∈ recordsOf texts) : e.IsText := by
  obtain ⟨⟨inst, cls, label⟩, -, rfl⟩ := List.mem_map.mp h
  exact ⟨inst, cls, label, rfl⟩

/-- Whether a cache file holds a dictionary under a fingerprint: it is loaded for this fingerprint
and for whatever one there is, and nothing is for any other. -/
structure Holds (cache : Cache) (files : Files) (fingerprint : Nat) (d : Dictionary) : Prop where
  load : cache.load files (some fingerprint) = .ok (some d)
  loadAny : cache.loadAny files = .ok (some d)
  loadOther : ∀ other : Int, other ≠ fingerprint → cache.load files (some other) = .ok none

theorem holds_of_read {fingerprint : Nat}
    (h : cache.read files = contents time (some fingerprint) d)
    (hd : Dictionary.empty.addAll es = .ok d) : cache.Holds files fingerprint d where
  load := load_of_read h hd
  loadAny := loadAny_of_read h hd
  loadOther _ hne := load_of_read_of_ne h hd fun heq => hne (Option.some.inj heq).symm

/-- **A dictionary that is saved is loaded.** Whatever texts a dictionary was built from, and
wherever its cache file can be written, saving it under a fingerprint of 64 bits leaves a file from
which the very same dictionary is loaded. -/
theorem holds_save (texts : List (String × String × String)) {fingerprint : Nat}
    (hf : fingerprint < 2 ^ 64) (h : cache.IsWritable files) :
    ∃ d, Dictionary.empty.addAll (recordsOf texts) = .ok d ∧
      ∀ time, cache.Holds (cache.save time (some fingerprint) d files) fingerprint d := by
  have htexts : ∀ e ∈ recordsOf texts, e.key?.isSome := by
    intro e he
    obtain ⟨inst, cls, label, rfl⟩ := isText_of_mem_recordsOf he
    rfl
  obtain ⟨d, hd⟩ := Dictionary.exists_addAll htexts .empty
  have hrecords : ∀ e ∈ d.records, e.IsText := by
    intro e he
    rw [Dictionary.records_addAll hd] at he
    exact isText_of_mem_recordsOf (List.mem_filter.mp he).1
  refine ⟨d, hd, fun time => ?_⟩
  have hread := read_of_readBytes (lossless_contents time hf hrecords)
    (readBytes_save h time (some fingerprint) d)
  exact holds_of_read hread hd

/-- Texts with quotes, a backslash, control characters and characters beyond the first plane; one
alias has no lexeme, and one record comes twice. -/
def oddTexts : List (String × String × String) :=
  [("a\"b\\c", "\r\n\t", "New  \u0000 York"), ("𝒳", "\u007f", "🦀 "), ("y", "é", "york"),
    ("y", "é", "york")]

/-- They are saved in directories that are not there yet, under the greatest fingerprint. -/
theorem holds_save_odd :
    2 ^ 64 - 1 < 2 ^ 64 ∧ (inDirectory (.ofString "lkb/cities")).IsWritable (.empty ["home"]) ∧
      ∃ d, Dictionary.empty.addAll (recordsOf oddTexts) = .ok d ∧
        ∀ time, (inDirectory (.ofString "lkb/cities")).Holds
          ((inDirectory (.ofString "lkb/cities")).save time (some (2 ^ 64 - 1 : Nat)) d
            (.empty ["home"])) (2 ^ 64 - 1) d := by
  have hwritable : (inDirectory (.ofString "lkb/cities")).IsWritable (.empty ["home"]) :=
    fun _ => by with_unfolding_all rfl
  have hbits : 2 ^ 64 - 1 < 2 ^ 64 := by decide
  exact ⟨hbits, hwritable, holds_save oddTexts hbits hwritable⟩

end Cache

end Gazetteer
