import Gazetteer.Proofs.Dictionary.Requests
import Gazetteer.Proofs.Lexeme.Letters

/-!
# Proofs/Dictionary/Spelling — which spellings of an alias a dictionary does not tell apart

A dictionary is asked by keys, so it answers alike for two aliases with one key, and otherwise a
record of one of them is not found under the other (`exists_add_of_key_ne`). Two aliases with one
lower case mostly have one key, but not always: just when their keys depart from that lower case at
the same places (`lookup_of_lowerCase_eq`).
-/

namespace Gazetteer.Dictionary

/-- A record whose alias has a lexeme is found under its alias, but under no other key. -/
theorem exists_add_of_key_ne {r : Record} {label : String} (hsize : 0 < Alias.size r.label)
    (hkey : Alias.key r.label ≠ Alias.key label) :
    ∃ d, empty.add r.entity = .ok d ∧ d.lookup r.label ≠ d.lookup label ∧
      d.hasAlias r.label ≠ d.hasAlias label := by
  obtain ⟨d, hadd, hd⟩ := holds_empty.add r
  have hkept : Record.kept [r] = [r] := List.filter_cons_of_pos (decide_eq_true hsize)
  rw [hkept, List.nil_append] at hd
  have hfound : d.lookup r.label ≠ [] := by
    simp [lookup, hd.bucket, Record.withKey]
  have hmissed : d.lookup label = [] := by
    simp [lookup, hd.bucket, Record.withKey, hkey]
  have hnot : d.hasAlias label ≠ true := fun h => (hd.hasAlias_iff label).mp h hmissed
  refine ⟨d, hadd, hmissed ▸ hfound, ?_⟩
  rw [(hd.hasAlias_iff r.label).mpr hfound]
  exact Ne.symm hnot

variable {a b : String}

/-- **Two aliases with different keys** are told apart by the dictionary of one record, which has
one of them as its alias. -/
theorem exists_told_of_key_ne (h : Alias.key a ≠ Alias.key b) :
    ∃ r d, (r.label = a ∨ r.label = b) ∧ empty.add (Record.entity r) = .ok d ∧
      d.lookup a ≠ d.lookup b ∧ d.hasAlias a ≠ d.hasAlias b := by
  by_cases ha : Alias.size a = 0
  · -- an alias without lexemes is in no dictionary, so the record has the other one
    have hb : 0 < Alias.size b := Nat.pos_of_ne_zero fun hb =>
      h (((Alias.key_eq_empty_iff_size a).mpr ha).trans
        ((Alias.key_eq_empty_iff_size b).mpr hb).symm)
    obtain ⟨d, hadd, hlookup, hhas⟩ := exists_add_of_key_ne (r := ⟨"", "", b⟩) hb h.symm
    exact ⟨_, d, .inr rfl, hadd, hlookup.symm, hhas.symm⟩
  · obtain ⟨d, hadd, hlookup, hhas⟩ :=
      exists_add_of_key_ne (r := ⟨"", "", a⟩) (Nat.pos_of_ne_zero ha) h
    exact ⟨_, d, .inl rfl, hadd, hlookup, hhas⟩

/-- **Aliases with one lower case.** If their keys depart from it at the same places, no dictionary
tells them apart; if not, the dictionary of one record does. A capital I with a dot or a capital
sigma has to occur for that. -/
theorem lookup_of_lowerCase_eq (h : Text.lowerCase a = Text.lowerCase b) :
    (Alias.departures a = Alias.departures b →
      ∀ d : Dictionary, d.lookup a = d.lookup b ∧ d.hasAlias a = d.hasAlias b) ∧
    (Alias.departures a ≠ Alias.departures b →
      ∃ r d, (r.label = a ∨ r.label = b) ∧ empty.add (Record.entity r) = .ok d ∧
        d.lookup a ≠ d.lookup b ∧ d.hasAlias a ≠ d.hasAlias b) ∧
    ((∀ c ∈ ['İ', 'Σ'], c ∉ a.toList ∧ c ∉ b.toList) →
      Alias.departures a = Alias.departures b) := by
  have hkey := Alias.key_eq_iff_departures_eq h
  refine ⟨fun hdepartures d => ?_, fun hdepartures => ?_, fun hplain => ?_⟩
  · rw [lookup, lookup, hasAlias, hasAlias, hkey.mpr hdepartures]
    exact ⟨rfl, rfl⟩
  · exact exists_told_of_key_ne (mt hkey.mp hdepartures)
  · obtain ⟨hdotted, hsigma⟩ : _ ∧ _ := ⟨hplain 'İ' (by simp), hplain 'Σ' (by simp)⟩
    rw [Alias.departures_eq_replicate hsigma.1 hdotted.1,
      Alias.departures_eq_replicate hsigma.2 hdotted.2, h]

/-- The capital I with a dot, and its lower case. -/
theorem lookup_of_lowerCase_eq_dotted :
    Text.lowerCase "İ" = Text.lowerCase "i̇" ∧
      ∃ r d, (r.label = "İ" ∨ r.label = "i̇") ∧ empty.add (Record.entity r) = .ok d ∧
        d.lookup "İ" ≠ d.lookup "i̇" ∧ d.hasAlias "İ" ≠ d.hasAlias "i̇" :=
  ⟨by decide, (lookup_of_lowerCase_eq (by decide)).2.1 (by decide)⟩

end Gazetteer.Dictionary
