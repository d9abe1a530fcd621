import Gazetteer.Proofs.Feeder.SetUpAgain
import Gazetteer.Proofs.Repository.Server
import Gazetteer.Proofs.Text.Template

/-!
# Proofs/Feeder/AcceptedTemplates — templates that are accepted, and phrases that stand in them

A label feeder accepts a template in which `%s` stands once. That is counted in the text, without
reading it as a template: `%%s` is accepted, which shows a percent sign and takes no phrase. What
becomes of the literal of a phrase in an accepted template depends on how it is written:
`accepted_carries_iff`. If no other percent sign is in the template, all is well.
-/

namespace Gazetteer

open Gazetteer.Action Text.Template

/-! ## Literals in a template -/

namespace LabelSession

theorem length_literal_ne_one (cs : List Char) : (Sparql.literal cs).length ≠ 1 := by
  simp [Sparql.literal]

theorem exists_query_iff {template phrase : String} :
    (∃ asked, query template phrase = .ok asked) ↔ Prints template.toList := by
  rw [← exists_fill_iff (length_literal_ne_one phrase.toList), query]
  cases fill template.toList (Sparql.literal phrase.toList) <;> simp

/-- Whether there is a query for a phrase that has the literal of the phrase in it. -/
def Holds (template phrase : String) : Prop :=
  ∃ asked, query template phrase = .ok asked ∧ Sparql.literal phrase.toList <:+: asked.toList

theorem holds_iff {template phrase : String} : Holds template phrase ↔
    ∃ out, fill template.toList (Sparql.literal phrase.toList) = .ok out ∧
      Sparql.literal phrase.toList <:+: out := by
  rw [Holds, query]
  cases fill template.toList (Sparql.literal phrase.toList) <;> simp

/-- Some tabs. A literal has them as they are, and a quoted text has none. -/
def tabs (n : Nat) : List Char := List.replicate n '\t'

theorem literal_tabs (n : Nat) : Sparql.literal (tabs n) = '"' :: tabs n ++ ['"'] := by
  have htabs : (tabs n).flatMap Sparql.literalChar = tabs n := by
    induction n with
    | zero => rfl
    | succ n ih =>
      rw [tabs, List.replicate_succ, List.flatMap_cons]
      exact congrArg (List.cons '\t') ih
  rw [Sparql.literal_eq_flatMap, htabs]

theorem count_literal_tabs (n : Nat) : (Sparql.literal (tabs n)).count '\t' = n := by
  rw [literal_tabs]
  simp [tabs]

theorem count_flatMap_quoteChar_tabs (shown : Char → Bool) (n : Nat) :
    ((tabs n).flatMap (Text.quoteChar shown '\'')).count '\t' = 0 := by
  have htab : Text.quoteChar shown '\'' '\t' = ['\\', 't'] := by simp [Text.quoteChar]
  induction n with
  | zero => rfl
  | succ n ih =>
    rw [tabs, List.replicate_succ, List.flatMap_cons, htab, List.count_append]
    exact congrArg (List.count '\t' ['\\', 't'] + ·) ih

theorem count_quoteWith_tabs {shown : Char → Bool} (hshown : shown '"' = true) (n : Nat) :
    (Text.quoteWith shown (Sparql.literal (tabs n))).count '\t' = 0 := by
  have hmark : Text.quoteMark (Sparql.literal (tabs n)) = '\'' := by
    rw [literal_tabs]
    simp [Text.quoteMark, tabs]
  rw [Text.quoteWith, hmark, literal_tabs]
  simp [Text.quoteChar, hshown, count_flatMap_quoteChar_tabs]

/-- **What a directive leaves of tabs**, unless it prints the whole text as it is. -/
theorem count_convert_le {d : Directive} {c : Char} {n : Nat} {text : List Char}
    (hconvert : convert d c 0 (Sparql.literal (tabs n)) = .ok text)
    (hc : c = 's' ∨ c = 'r' ∨ c = 'a') (hwhole : c = 's' → d.precision ≠ none) :
    text.count '\t' ≤ d.precision.getD 0 := by
  have hquoted : ∀ {shown : Char → Bool}, shown '"' = true →
      (d.show (Text.quoteWith shown (Sparql.literal (tabs n)))).count '\t' ≤ d.precision.getD 0 :=
    fun hshown => ((count_show_le (by decide) _).trans
      (Nat.le_of_eq (count_quoteWith_tabs hshown n))).trans (Nat.zero_le _)
  rcases hc with rfl | rfl | rfl
  · obtain rfl := Except.ok.inj hconvert
    obtain ⟨p, hp⟩ := Option.ne_none_iff_exists'.mp (hwhole rfl)
    rw [hp, Option.getD_some]
    exact count_show_le_precision hp (by decide) _
  · obtain rfl := Except.ok.inj hconvert
    exact hquoted (by decide +kernel)
  · obtain rfl := Except.ok.inj hconvert
    exact hquoted (by decide +kernel)

/-- **A template holds every phrase** just if it leaves its argument whole. -/
theorem forall_holds_iff {template : String} :
    (∀ phrase, Holds template phrase) ↔ Carries template.toList := by
  constructor
  · intro h
    obtain ⟨asked, hasked, -⟩ := h ""
    obtain ⟨before, d, c, after, hslot, hc⟩ := exists_query_iff.mp ⟨asked, hasked⟩
    by_contra hcarries
    have hwhole : c = 's' → d.precision ≠ none := by
      rintro rfl hnone
      exact hcarries ⟨before, d, after, hslot, hnone⟩
    -- More tabs than the text around the directive has, and the directive lets through.
    let n := before.count '\t' + d.precision.getD 0 + after.count '\t' + 1
    obtain ⟨out, hout, hinfix⟩ := holds_iff.mp (h (String.ofList (tabs n)))
    rw [String.toList_ofList] at hout hinfix
    obtain ⟨text, hconvert⟩ := (exists_convert_iff (length_literal_ne_one (tabs n))).mpr hc
    have hfill := fill_eq_ok_iff.mpr ⟨before, d, c, after, text, hslot, hconvert, rfl⟩
    obtain rfl := Except.ok.inj (hout.symm.trans hfill)
    have hle := hinfix.sublist.count_le '\t'
    rw [count_literal_tabs, List.count_append, List.count_append] at hle
    have := count_convert_le hconvert hc hwhole
    omega
  · exact fun h phrase => holds_iff.mpr (infix_of_carries h _)

end LabelSession

namespace LabelFeeder

/-! ## Templates that are accepted -/

theorem exists_of_placeholders {t : List Char} (h : placeholders t ≠ 0) :
    ∃ u v, t = u ++ '%' :: 's' :: v := by
  induction t using placeholders.induct with
  | case1 v ih => exact ⟨[], v, rfl⟩
  | case2 c t hne ih =>
    rw [placeholders] at h
    · obtain ⟨u, v, rfl⟩ := ih h
      exact ⟨c :: u, v, rfl⟩
    · exact hne
  | case3 => exact absurd rfl h

/-- A template with no other percent sign than that of its placeholder. -/
theorem carries_of_placeholders {t : List Char} (h : placeholders t = 1)
    (hpercent : t.count '%' = 1) : Carries t := by
  obtain ⟨u, v, rfl⟩ := exists_of_placeholders (h.trans_ne Nat.one_ne_zero)
  have hrest : u.count '%' = 0 ∧ v.count '%' = 0 := by
    rw [List.count_append, List.count_cons_self, List.count_cons_of_ne (by decide)] at hpercent
    omega
  exact carries_of_notMem (List.count_eq_zero.mp hrest.1) (List.count_eq_zero.mp hrest.2)

/-- **A template that a feeder has accepted**, the given one or the one from before, has `%s` in it
once. It makes a query of a phrase just if it is plain text with one directive that prints texts,
and the same for every phrase; the literal of every phrase is in its query just if moreover the
directive prints the text as it is and cuts nothing off. It is so if the template has no other
percent sign. -/
theorem accepted_carries_iff {options : List (String × Value)} {s s' : Site × LabelFeeder}
    (h : outcome (setUp options) s = (.ok (), s')) :
    s'.2.template = (takenTemplate? options).getD s.2.template ∧
    placeholders s'.2.template.toList = 1 ∧
    (∀ phrase, (∃ asked, LabelSession.query s'.2.template phrase = .ok asked) ↔
      Prints s'.2.template.toList) ∧
    ((∀ phrase, LabelSession.Holds s'.2.template phrase) ↔ Carries s'.2.template.toList) ∧
    (s'.2.template.toList.count '%' = 1 → Carries s'.2.template.toList) := by
  have htakes := takes_setUp options s
  rw [h] at htakes
  have hcount : placeholders s'.2.template.toList = 1 := htakes.placeholders_eq_one
  exact ⟨htakes.template_eq, hcount, fun _ => LabelSession.exists_query_iff,
    LabelSession.forall_holds_iff, carries_of_placeholders hcount⟩

/-- A percent sign that is shown, and an `s`. -/
def shownPercent : List (String × Value) :=
  [("config_url", .string "a.ttl"), ("label_query", .string "%%s")]

theorem accepted_carries_iff_shownPercent : ∃ s',
    outcome (setUp shownPercent) (Site.emptySite, {}) = (.ok (), s') ∧
    (∀ phrase asked, LabelSession.query s'.2.template phrase ≠ .ok asked) ∧
    ¬ Carries s'.2.template.toList := by
  have hok : (outcome (setUp shownPercent) (Site.emptySite, {})).1.isOk = true := by
    decide +kernel
  have htemplate : (outcome (setUp shownPercent) (Site.emptySite, {})).2.2.template = "%%s" := by
    decide +kernel
  have hstorm : (LabelSession.query "%%s" "storm").isOk = false := by decide +kernel
  cases hsetUp : outcome (setUp shownPercent) (Site.emptySite, {}) with
  | mk result s' =>
    rw [hsetUp] at hok htemplate
    cases result with
    | error fault => exact absurd hok (by simp [Except.isOk, Except.toBool])
    | ok =>
      obtain ⟨-, -, hquery, hholds, -⟩ := accepted_carries_iff hsetUp
      have hnone : ∀ phrase asked, LabelSession.query s'.2.template phrase ≠ .ok asked := by
        intro phrase asked hasked
        obtain ⟨asked', hasked'⟩ := (hquery "storm").mpr ((hquery phrase).mp ⟨asked, hasked⟩)
        rw [← htemplate, hasked'] at hstorm
        exact absurd hstorm (by simp [Except.isOk, Except.toBool])
      refine ⟨s', rfl, hnone, fun hcarries => ?_⟩
      obtain ⟨asked, hasked, -⟩ := hholds.mpr hcarries "storm"
      exact hnone "storm" asked hasked

end LabelFeeder

end Gazetteer
