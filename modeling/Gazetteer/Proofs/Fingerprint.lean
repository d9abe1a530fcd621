import Gazetteer.Defaults
import Gazetteer.Proofs.Text.Symbols

/-!
# Proofs/Fingerprint — which settings have the same fingerprint

What is digested is a text: the query, and after a semicolon the configuration, if it can be read
(`joined`). The text is known by its bytes, although not every sequence of symbols is
(`material_eq_material_iff`). Configurations with the same query have therefore the same fingerprint
just when they differ in layout only (`computeWith_eq_iff_of_readable`).

A semicolon is no delimiter, since queries and configurations are full of them. Two settings have
the same fingerprint just when they differ in layout only, or a stretch of text has moved from the
query of the one to the configuration of the other (`computeWith_eq_iff`). This is so for every
digest that does not collide on the two texts.
-/

namespace Gazetteer.Fingerprint

open Gazetteer.Text

/-- The fingerprint, with any digest in place of the usual one. -/
def computeWith (digest : List UInt8 → Nat) (files : Files) (config : Resource) (query : String) :
    Nat :=
  digest (material (configBytes files config) query)

theorem compute_eq_computeWith : compute = computeWith Digest.short := rfl

/-- The text of a configuration with its runs of blanks collapsed, if it can be read. -/
def normalizedConfig (config : Option (List UInt8)) : Option (List Symbol) :=
  config.map fun bytes => collapseSymbols (decodeSymbols bytes)

/-! ## The digested text -/

/-- What follows the query in the digested text. -/
def afterQuery : Option (List Symbol) → List Symbol
  | none => []
  | some config => .char ';' :: config

theorem afterQuery_inj : ∀ {c c' : Option (List Symbol)}, afterQuery c = afterQuery c' ↔ c = c'
  | none, none => by simp
  | none, some _ => by simp [afterQuery]
  | some _, none => by simp [afterQuery]
  | some _, some _ => by simp [afterQuery]

/-- A query and a configuration as one text. -/
def joined (query : String) (config : Option (List Symbol)) : List Symbol :=
  query.toList.map .char ++ afterQuery config

theorem encodeSymbols_joined (config : Option (List UInt8)) (query : String) :
    encodeSymbols (joined (normalized query) (normalizedConfig config))
      = material config query := by
  rw [joined, encodeSymbols_append, encodeSymbols_map_char, normalized, String.toList_ofList]
  cases config with
  | none => exact List.append_nil _
  | some bytes => rfl

theorem isFaithful_joined (config : Option (List UInt8)) (query : String) :
    IsFaithful (joined query (normalizedConfig config)) := by
  refine isFaithful_map_char_append _ ?_
  cases config with
  | none => exact isFaithful_nil
  | some bytes =>
    exact isFaithful_append_char_iff.mpr
      ⟨isFaithful_nil, (isFaithful_decodeSymbols bytes).collapseSymbols⟩

/-- **The digested text is known by its bytes.** -/
theorem material_eq_material_iff {config config' : Option (List UInt8)} {query query' : String} :
    material config query = material config' query' ↔
      joined (normalized query) (normalizedConfig config)
        = joined (normalized query') (normalizedConfig config') := by
  rw [← encodeSymbols_joined, ← encodeSymbols_joined]
  exact ⟨(isFaithful_joined config _).eq_of_encodeSymbols (isFaithful_joined config' _),
    congrArg encodeSymbols⟩

variable {digest : List UInt8 → Nat} {files files' : Files} {config config' : Resource}
  {query query' : String}

/-- Digests that do not collide on two texts are as good as the texts. -/
theorem computeWith_eq_iff_joined
    (hdigest : digest (material (configBytes files config) query)
        = digest (material (configBytes files' config') query') →
      material (configBytes files config) query = material (configBytes files' config') query') :
    computeWith digest files config query = computeWith digest files' config' query' ↔
      joined (normalized query) (normalizedConfig (configBytes files config))
        = joined (normalized query') (normalizedConfig (configBytes files' config')) :=
  (Iff.intro hdigest (congrArg digest)).trans material_eq_material_iff

/-! ## The same query -/

/-- **No edit of a configuration escapes but one of its layout.** With the same query, two
configurations that can be read have the same fingerprint just when their texts, in which bytes that
are not UTF-8 stand for themselves, are the same after every run of blanks has become one space. -/
theorem computeWith_eq_iff_of_readable {bytes bytes' : List UInt8}
    (hread : configBytes files config = some bytes)
    (hread' : configBytes files' config' = some bytes')
    (hdigest : digest (material (some bytes) query) = digest (material (some bytes') query) →
      material (some bytes) query = material (some bytes') query) :
    computeWith digest files config query = computeWith digest files' config' query ↔
      collapseSymbols (decodeSymbols bytes) = collapseSymbols (decodeSymbols bytes') := by
  rw [← hread, ← hread'] at hdigest
  rw [computeWith_eq_iff_joined hdigest, hread, hread', joined, joined, List.append_cancel_left_eq,
    afterQuery_inj]
  exact Option.some_inj

/-- A working directory with one file in it, the configuration. -/
def oneFile (bytes : List UInt8) : Files where
  here := ["r"]
  nodes := [(["r"], .directory), (["r", Defaults.configFile], .file bytes)]

/-- The name of the file. -/
def oneConfig : Resource := .text Defaults.configFile

/-- **Two layouts, and an edit**: an ideographic space and a line break between the same two stray
bytes, the second of which would be a blank if it were a character; and the two bytes side by
side. -/
theorem computeWith_stray :
    compute (oneFile [0xe3, 0xe3, 0x80, 0x80, 0x85]) oneConfig "q"
        = compute (oneFile [0xe3, 0x0d, 0x0a, 0x85]) oneConfig "q" ∧
      compute (oneFile [0xe3, 0xe3, 0x80, 0x80, 0x85]) oneConfig "q"
        ≠ compute (oneFile [0xe3, 0x85]) oneConfig "q" := by
  have hread : ∀ bytes ∈ [[0xe3, 0xe3, 0x80, 0x80, 0x85], [0xe3, 0x0d, 0x0a, 0x85], [0xe3, 0x85]],
      configBytes (oneFile bytes) oneConfig = some bytes := by decide +kernel
  rw [compute_eq_computeWith]
  constructor
  · refine (computeWith_eq_iff_of_readable (hread _ (by decide)) (hread _ (by decide))
      fun _ => ?_).mpr ?_
    · decide +kernel
    · decide +kernel
  · intro hsame
    have hlayout := (computeWith_eq_iff_of_readable (hread _ (by decide)) (hread _ (by decide))
      (by decide +kernel)).mp hsame
    exact absurd hlayout (by decide +kernel)

/-! ## Any two settings -/

/-- Whether a stretch of text that stands in front of one configuration stands at the end of the
other query, with a semicolon of its own. -/
def Moves (query : String) (config : Option (List Symbol)) (query' : String)
    (config' : Option (List Symbol)) : Prop :=
  ∃ moved : String, query' = query ++ ";" ++ moved ∧ config = some (joined moved config')

section

variable {q q' : String} {c c' : Option (List Symbol)}

theorem joined_eq_of_moves (h : Moves q c q' c') : joined q c = joined q' c' := by
  obtain ⟨moved, rfl, rfl⟩ := h
  simp [joined, afterQuery]

/-- The longer query ends in what the other configuration begins with. -/
theorem eq_or_moves_of_append {rest : List Symbol}
    (hquery : q'.toList.map Symbol.char = q.toList.map Symbol.char ++ rest)
    (hconfig : afterQuery c = rest ++ afterQuery c') : q = q' ∧ c = c' ∨ Moves q c q' c' := by
  obtain ⟨front, moved, hq', hfront, rfl⟩ := List.map_eq_append_iff.mp hquery
  obtain rfl := (List.map_inj_right fun _ _ => Symbol.char.inj).mp hfront
  cases moved with
  | nil =>
    rw [List.append_nil] at hq'
    exact .inl ⟨String.toList_inj.mp hq'.symm, afterQuery_inj.mp hconfig⟩
  | cons d moved =>
    cases c with
    | none => exact absurd hconfig (by simp [afterQuery])
    | some s =>
      obtain ⟨hd, hs⟩ := List.cons.inj hconfig
      obtain rfl := Symbol.char.inj hd
      refine .inr ⟨String.ofList moved, String.toList_inj.mp ?_, ?_⟩
      · simp [hq']
      · rw [joined, String.toList_ofList]
        exact congrArg some hs

theorem joined_eq_joined_iff :
    joined q c = joined q' c' ↔ q = q' ∧ c = c' ∨ Moves q c q' c' ∨ Moves q' c' q c := by
  constructor
  · intro h
    rcases List.append_eq_append_iff.mp h with ⟨rest, hquery, hconfig⟩ | ⟨rest, hquery, hconfig⟩
    · exact (eq_or_moves_of_append hquery hconfig).imp_right .inl
    · exact (eq_or_moves_of_append hquery hconfig).imp (fun h => ⟨h.1.symm, h.2.symm⟩) .inr
  · rintro (⟨rfl, rfl⟩ | h | h)
    · rfl
    · exact joined_eq_of_moves h
    · exact (joined_eq_of_moves h).symm

end

/-- **When two settings have the same fingerprint.** Either both queries are the same after every
run of blanks has become one space, and neither configuration can be read or both can and are the
same in this sense. Or one query is longer than the other by a semicolon and a text, and the other
configuration is longer than the one by this text and a semicolon, or consists of this text if the
one cannot be read. -/
theorem computeWith_eq_iff
    (hdigest : digest (material (configBytes files config) query)
        = digest (material (configBytes files' config') query') →
      material (configBytes files config) query = material (configBytes files' config') query') :
    computeWith digest files config query = computeWith digest files' config' query' ↔
      (normalized query = normalized query' ∧
        normalizedConfig (configBytes files config)
          = normalizedConfig (configBytes files' config')) ∨
      Moves (normalized query) (normalizedConfig (configBytes files config))
        (normalized query') (normalizedConfig (configBytes files' config')) ∨
      Moves (normalized query') (normalizedConfig (configBytes files' config'))
        (normalized query) (normalizedConfig (configBytes files config)) :=
  (computeWith_eq_iff_joined hdigest).trans joined_eq_joined_iff

/-- **A pattern that moves** from the end of the query to the front of the configuration leaves the
fingerprint as it is. -/
theorem computeWith_moved :
    compute (oneFile (Text.encode " ?town ?name;<urn:a> <urn:b> <urn:c> .".toList)) oneConfig
        "SELECT * WHERE ?town a ?kind"
      = compute (oneFile (Text.encode "<urn:a> <urn:b> <urn:c> .".toList)) oneConfig
        "SELECT * WHERE ?town a ?kind; ?town ?name" ∧
    normalized "SELECT * WHERE ?town a ?kind"
      ≠ normalized "SELECT * WHERE ?town a ?kind; ?town ?name" := by
  refine ⟨?_, by decide +kernel⟩
  rw [compute_eq_computeWith]
  refine (computeWith_eq_iff fun _ => ?_).mpr (.inr (.inl ⟨" ?town ?name", ?_, ?_⟩))
  · decide +kernel
  · decide +kernel
  · decide +kernel

end Gazetteer.Fingerprint
