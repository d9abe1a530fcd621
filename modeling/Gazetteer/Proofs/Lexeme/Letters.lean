import Gazetteer.Proofs.Lexeme.Key
import Gazetteer.Proofs.Text.WordCase

/-!
# Proofs/Lexeme/Letters — a key read off the lower case of its alias

The key of an alias is made in two steps, the words first and lower case after that, so it need not
be the key of the alias in lower case. `letters` are the characters of the lower case, each with a
mark if the key `departs` from it, and the key is what they show (`keyChars_eq_shownFrom`).

It departs at two characters only. The capital I with a dot is a word character, and its lower case
ends in a dot that is none. The capital sigma takes the form that fits the words joined by spaces,
where it may stand at the end of a word, although in the text a word goes on behind a point or a
hyphen that is left out. So aliases with one lower case have one key just when their keys depart
from it at the same places (`key_eq_iff_departures_eq`).
-/

namespace Gazetteer.Alias

open Text Lexeme

/-- A character of the lower case of an alias. -/
structure Letter where
  char : Char
  /-- Whether the key has something else for it than lower case by itself would have. -/
  departs : Bool
deriving Repr, DecidableEq

namespace Letter

/-- What a character stands for where the key departs from it: the other form of the small sigma,
and the dot as part of a word. -/
def other (c : Char) : Char := if c = 'σ' then 'ς' else if c = 'ς' then 'σ' else c

/-- What the key has for a letter, if it stands in a word. -/
def shown (l : Letter) : Option Char :=
  if l.departs then some (other l.char) else if isWord l.char then some l.char else none

theorem shown_of_departs (c : Char) : shown ⟨c, true⟩ = some (other c) := rfl

theorem shown_of_isWord {c : Char} (h : isWord c = true) : shown ⟨c, false⟩ = some c := by
  simp [shown, h]

theorem shown_of_not_isWord {c : Char} (h : isWord c = false) : shown ⟨c, false⟩ = none := by
  simp [shown, h]

/-- A small sigma is always shown, in one form or the other. -/
theorem shown_sigma {c : Char} (h : c = 'σ' ∨ c = 'ς') (departs : Bool) :
    shown ⟨c, departs⟩ = some (if departs then other c else c) := by
  have hword : isWord c = true := by
    rcases h with rfl | rfl
    · exact isWord_sigma.2.1
    · exact isWord_sigma.2.2
  cases departs with
  | true => rfl
  | false => exact shown_of_isWord hword

end Letter

/-- The small sigma that stands between two texts, the first one in reverse. -/
def sigmaBetween (before rest : List Char) : Char :=
  if meetsCased before && !meetsCased rest then 'ς' else 'σ'

/-- The letters of a character between two texts, the first one in reverse. The key sees of these
texts only what belongs to the same word. -/
def lettersOf (before : List Char) (c : Char) (rest : List Char) : List Letter :=
  if c = 'Σ' then
    let sigma := sigmaBetween before rest
    [⟨sigma, sigma ≠ sigmaBetween (before.takeWhile isWord) (rest.takeWhile isWord)⟩]
  else if c = 'İ' then [⟨'i', false⟩, ⟨'\u0307', true⟩]
  else (lowerChar c).map fun d => ⟨d, false⟩

/-- The letters of a text, given the characters before it in reverse. -/
def lettersFrom (before : List Char) : List Char → List Letter
  | [] => []
  | c :: rest => lettersOf before c rest ++ lettersFrom (c :: before) rest

/-- The letters of an alias. -/
def letters (cs : List Char) : List Letter := lettersFrom [] cs

/-- At which characters of the lower case of an alias its key departs from it. -/
def departures (label : String) : List Bool := (letters label.toList).map Letter.departs

/-! ## Letters are lower case -/

theorem sigmaBetween_cases (before rest : List Char) :
    sigmaBetween before rest = 'σ' ∨ sigmaBetween before rest = 'ς' := by
  rw [sigmaBetween]
  split
  · exact .inr rfl
  · exact .inl rfl

/-- Of two small sigmas, the second is what the first one or its other form is. -/
theorem other_sigmaBetween (before rest u v : List Char) :
    (if decide (sigmaBetween before rest ≠ sigmaBetween u v) then
      Letter.other (sigmaBetween before rest) else sigmaBetween before rest)
      = sigmaBetween u v := by
  rcases sigmaBetween_cases before rest with h | h <;>
    rcases sigmaBetween_cases u v with h' | h' <;> rw [h, h'] <;> rfl

theorem lowerFrom_sigma (before rest : List Char) :
    lowerFrom before ('Σ' :: rest)
      = sigmaBetween before rest :: lowerFrom ('Σ' :: before) rest := by
  rw [lowerFrom, if_pos rfl, sigmaBetween]
  split <;> rfl

theorem lowerFrom_of_ne {c : Char} (h : c ≠ 'Σ') (before rest : List Char) :
    lowerFrom before (c :: rest) = lowerChar c ++ lowerFrom (c :: before) rest := by
  rw [lowerFrom, if_neg h]

theorem lettersOf_sigma (before rest : List Char) :
    lettersOf before 'Σ' rest = [⟨sigmaBetween before rest, sigmaBetween before rest
      ≠ sigmaBetween (before.takeWhile isWord) (rest.takeWhile isWord)⟩] :=
  if_pos rfl

theorem lettersOf_dotted (before rest : List Char) :
    lettersOf before 'İ' rest = [⟨'i', false⟩, ⟨'\u0307', true⟩] := by
  rw [lettersOf, if_neg (by decide), if_pos rfl]

/-- **All other characters** have one letter, a word character just when they are. -/
theorem lettersOf_of_ne {c : Char} (hsigma : c ≠ 'Σ') (hdotted : c ≠ 'İ') :
    ∃ d, lowerChar c = [d] ∧ isWord d = isWord c ∧
      ∀ before rest, lettersOf before c rest = [⟨d, false⟩] := by
  obtain ⟨d, hlower, hword⟩ := lowerChar_of_ne hdotted
  refine ⟨d, hlower, hword, fun before rest => ?_⟩
  rw [lettersOf, if_neg hsigma, if_neg hdotted, hlower]
  rfl

/-- The two capitals whose keys may depart from lower case, and all other characters. -/
theorem lettersOf_cases (c : Char) : c = 'Σ' ∨ c = 'İ' ∨ c ≠ 'Σ' ∧
    ∃ d, lowerChar c = [d] ∧ isWord d = isWord c ∧
      ∀ before rest, lettersOf before c rest = [⟨d, false⟩] := by
  by_cases hsigma : c = 'Σ'
  · exact .inl hsigma
  · by_cases hdotted : c = 'İ'
    · exact .inr (.inl hdotted)
    · exact .inr (.inr ⟨hsigma, lettersOf_of_ne hsigma hdotted⟩)

/-- **The letters of a text** spell its lower case. -/
theorem map_char_lettersFrom : ∀ (cs before : List Char),
    (lettersFrom before cs).map Letter.char = lowerFrom before cs
  | [], _ => rfl
  | c :: rest, before => by
      have ih := map_char_lettersFrom rest (c :: before)
      rw [lettersFrom, List.map_append, ih]
      rcases lettersOf_cases c with rfl | rfl | ⟨hsigma, d, hlower, -, hletters⟩
      · rw [lowerFrom_sigma, lettersOf_sigma]
        rfl
      · rw [lowerFrom_of_ne (by decide), lettersOf_dotted, lowerChar_dotted]
        rfl
      · rw [lowerFrom_of_ne hsigma, hletters, hlower]
        rfl

/-! ## The key is what the letters show -/

/-- What letters show, one space wherever some between two words show nothing: after a first word,
if one has `started`, and with a space to come, if one is `pending`. -/
def shownFrom : (started pending : Bool) → List Letter → List Char
  | _, _, [] => []
  | started, pending, l :: ls =>
    match l.shown with
    | some c => (if started && pending then [' ', c] else [c]) ++ shownFrom true false ls
    | none => shownFrom started true ls

theorem shownFrom_cons_of_none {l : Letter} (h : l.shown = none) (started pending : Bool)
    (ls : List Letter) : shownFrom started pending (l :: ls) = shownFrom started true ls := by
  simp only [shownFrom, h]

theorem shownFrom_cons_of_some {l : Letter} {c : Char} (h : l.shown = some c)
    (started pending : Bool) (ls : List Letter) :
    shownFrom started pending (l :: ls)
      = (if started && pending then [' '] else []) ++ c :: shownFrom true false ls := by
  simp only [shownFrom, h]
  split <;> rfl

/-- The first character of a word shows itself, after a space that was to come. -/
theorem shownFrom_of_shown {l : Letter} {c : Char} (h : l.shown = some c)
    (started pending : Bool) (ls : List Letter) :
    shownFrom started pending (l :: ls)
      = (if started && pending then [' '] else []) ++ shownFrom true false (l :: ls) := by
  rw [shownFrom_cons_of_some h, shownFrom_cons_of_some h]
  rfl

variable {before cs u v : List Char}

theorem takeWhile_isWord (hv : ∀ c ∈ v, isWord c = true) (hcs : StartsGap cs) :
    (v ++ cs).takeWhile isWord = v := by
  rw [List.takeWhile_append_of_pos hv]
  cases cs with
  | nil => simp
  | cons d rest => simp [hcs d rfl]

/-- **Inside a word**, letters show the lower case of the word by itself. The induction is on what
is left of the word; `u` is what has been read of it, in reverse. -/
theorem shownFrom_word (hbefore : StartsGap before) (hcs : StartsGap cs) :
    ∀ {v u : List Char}, (∀ c ∈ u, isWord c = true) → (∀ c ∈ v, isWord c = true) →
      shownFrom true false (lettersFrom (u ++ before) (v ++ cs))
        = lowerFrom u v ++ shownFrom true false (lettersFrom (v.reverse ++ u ++ before) cs)
  | [], _, _, _ => rfl
  | c :: v, u, hu, hcv => by
      obtain ⟨hc, hv⟩ := List.forall_mem_cons.mp hcv
      have ih := shownFrom_word hbefore hcs (List.forall_mem_cons.mpr ⟨hc, hu⟩) hv
      rw [List.cons_append] at ih
      have hrest : (c :: v).reverse ++ u ++ before = v.reverse ++ (c :: u) ++ before := by simp
      rw [List.cons_append, lettersFrom, hrest]
      rcases lettersOf_cases c with rfl | rfl | ⟨hsigma, d, hlower, hword, hletters⟩
      · rw [lowerFrom_sigma, lettersOf_sigma, takeWhile_isWord hu hbefore, takeWhile_isWord hv hcs]
        have hshown := Letter.shown_sigma (sigmaBetween_cases (u ++ before) (v ++ cs))
          (sigmaBetween (u ++ before) (v ++ cs) ≠ sigmaBetween u v)
        rw [other_sigmaBetween] at hshown
        rw [List.singleton_append, shownFrom_cons_of_some hshown, ih]
        rfl
      · rw [lowerFrom_of_ne (by decide), lettersOf_dotted, lowerChar_dotted, List.cons_append,
          List.singleton_append, shownFrom_cons_of_some (Letter.shown_of_isWord isWord_dotted.2.1),
          shownFrom_cons_of_some (Letter.shown_of_departs _), ih]
        rfl
      · rw [lowerFrom_of_ne hsigma, hletters, hlower, List.singleton_append,
          shownFrom_cons_of_some (Letter.shown_of_isWord (hword.trans hc)), ih]
        rfl

/-- A word character shows itself first, after a space that was to come. -/
theorem shownFrom_lettersFrom_cons {c : Char} (hc : isWord c = true) (before rest : List Char)
    (started pending : Bool) :
    shownFrom started pending (lettersFrom before (c :: rest))
      = (if started && pending then [' '] else [])
        ++ shownFrom true false (lettersFrom before (c :: rest)) := by
  rw [lettersFrom]
  rcases lettersOf_cases c with rfl | rfl | ⟨-, d, -, hword, hletters⟩
  · rw [lettersOf_sigma]
    have hshown := Letter.shown_sigma (sigmaBetween_cases before rest)
    exact shownFrom_of_shown (hshown _) started pending _
  · rw [lettersOf_dotted]
    exact shownFrom_of_shown (Letter.shown_of_isWord isWord_dotted.2.1) started pending _
  · rw [hletters]
    exact shownFrom_of_shown (Letter.shown_of_isWord (hword.trans hc)) started pending _

/-- A gap shows nothing, and lets a space be to come. -/
theorem shownFrom_lettersFrom_gap {c : Char} (hc : isWord c = false) (before rest : List Char)
    (started pending : Bool) :
    shownFrom started pending (lettersFrom before (c :: rest))
      = shownFrom started true (lettersFrom (c :: before) rest) := by
  have hsigma : c ≠ 'Σ' := fun h => Bool.false_ne_true (hc.symm.trans (h ▸ isWord_sigma.1))
  have hdotted : c ≠ 'İ' := fun h => Bool.false_ne_true (hc.symm.trans (h ▸ isWord_dotted.1))
  obtain ⟨d, -, hword, hletters⟩ := lettersOf_of_ne hsigma hdotted
  rw [lettersFrom, hletters]
  exact shownFrom_cons_of_none (Letter.shown_of_not_isWord (hword.trans hc)) started pending _

theorem joinWith_cons (w : List Char) : ∀ words : List (List Char),
    joinWith [' '] (w :: words) = w ++ words.flatMap fun v => ' ' :: v
  | [] => (List.append_nil w).symm
  | v :: words => by simp [joinWith, joinWith_cons v words]

/-- **After a first word**, each word comes with a space before it. -/
theorem shownFrom_started (cs before : List Char) {pending : Bool}
    (hbefore : StartsGap before ∨ StartsGap cs) (hpending : pending = true ∨ StartsGap cs) :
    shownFrom true pending (lettersFrom before cs)
      = ((words cs).map lower).flatMap fun w => ' ' :: w := by
  induction 0, cs using scan_induction generalizing before pending with
  | nil p => rw [words_nil]; rfl
  | gap p c cs hc ih =>
    rw [shownFrom_lettersFrom_gap hc, words_cons_of_not hc]
    exact ih (c :: before) (.inl (startsGap_cons hc before)) (.inl rfl)
  | word p w cs hw hcs ih =>
    obtain ⟨c, w, rfl⟩ := List.exists_cons_of_ne_nil hw.ne_nil
    have hc : isWord c = true := hw.all c List.mem_cons_self
    have hnot : ¬ StartsGap (c :: w ++ cs) := fun h => Bool.false_ne_true ((h c rfl).symm.trans hc)
    obtain rfl := hpending.resolve_right hnot
    have hword := shownFrom_word (hbefore.resolve_right hnot) hcs (u := [])
      (fun _ h => absurd h List.not_mem_nil) hw.all
    rw [List.cons_append, shownFrom_lettersFrom_cons hc, ← List.cons_append, words_append hw hcs]
    rw [List.nil_append] at hword
    rw [hword, ih _ (.inr hcs) (.inr hcs)]
    rfl

/-- **Before the first word** there is none. -/
theorem shownFrom_new (cs before : List Char) (pending : Bool) (hbefore : StartsGap before) :
    shownFrom false pending (lettersFrom before cs) = joinWith [' '] ((words cs).map lower) := by
  induction 0, cs using scan_induction generalizing before pending with
  | nil p => rw [words_nil]; rfl
  | gap p c cs hc ih =>
    rw [shownFrom_lettersFrom_gap hc, words_cons_of_not hc]
    exact ih (c :: before) true (startsGap_cons hc before)
  | word p w cs hw hcs ih =>
    obtain ⟨c, w, rfl⟩ := List.exists_cons_of_ne_nil hw.ne_nil
    have hc : isWord c = true := hw.all c List.mem_cons_self
    have hword := shownFrom_word hbefore hcs (u := [])
      (fun _ h => absurd h List.not_mem_nil) hw.all
    rw [List.cons_append, shownFrom_lettersFrom_cons hc, ← List.cons_append, words_append hw hcs]
    rw [List.nil_append] at hword
    rw [hword, shownFrom_started cs _ (.inr hcs) (.inr hcs), List.map_cons, joinWith_cons]
    rfl

/-- **The key of an alias** is what the letters of the alias show. -/
theorem keyChars_eq_shownFrom (cs : List Char) :
    keyChars cs = shownFrom false false (letters cs) := by
  rw [letters, shownFrom_new cs [] false startsGap_nil]
  exact lower_joinWith _

/-! ## What letters show tells where they depart -/

/-- Whether letters depart only as those of an alias may: at a small sigma, and at a dot behind a
letter that is shown. -/
def IsRegular : (follows : Bool) → List Letter → Prop
  | _, [] => True
  | follows, l :: ls =>
    (l.departs = true → (l.char = 'σ' ∨ l.char = 'ς') ∨ l.char = '\u0307' ∧ follows = true) ∧
      IsRegular l.shown.isSome ls

theorem isRegular_lettersFrom : ∀ (cs before : List Char) (follows : Bool),
    IsRegular follows (lettersFrom before cs)
  | [], _, _ => trivial
  | c :: rest, before, follows => by
      have ih := isRegular_lettersFrom rest (c :: before)
      rw [lettersFrom]
      rcases lettersOf_cases c with rfl | rfl | ⟨-, d, -, -, hletters⟩
      · rw [lettersOf_sigma]
        exact ⟨fun _ => .inl (sigmaBetween_cases before rest), ih _⟩
      · have hfollows : (Letter.shown ⟨'i', false⟩).isSome = true := by
          rw [Letter.shown_of_isWord isWord_dotted.2.1]
          rfl
        rw [lettersOf_dotted]
        exact ⟨fun h => absurd h Bool.false_ne_true, fun _ => .inr ⟨rfl, hfollows⟩, ih _⟩
      · rw [hletters]
        exact ⟨fun h => absurd h Bool.false_ne_true, ih _⟩

/-- Behind a letter that is not shown, a space comes first. -/
theorem shownFrom_pending : ∀ (ls : List Letter), ∀ c ∈ (shownFrom true true ls).head?, c = ' '
  | [], _, hc => absurd hc (by simp [shownFrom])
  | l :: ls, c, hc => by
      cases hl : l.shown with
      | none => exact shownFrom_pending ls c (by rwa [shownFrom_cons_of_none hl] at hc)
      | some d =>
        rw [shownFrom_cons_of_some hl] at hc
        exact (Option.some.inj hc).symm

/-- **A letter that departs is told** from the same character that does not: a sigma by its form,
and a dot because a space would stand in its place. -/
theorem shownFrom_ne_of_departs {c : Char} {started pending : Bool}
    (hc : (c = 'σ' ∨ c = 'ς') ∨ c = '\u0307' ∧ (started && !pending) = true) (ls ms : List Letter) :
    shownFrom started pending (⟨c, true⟩ :: ls) ≠ shownFrom started pending (⟨c, false⟩ :: ms) := by
  intro h
  rw [shownFrom_cons_of_some (Letter.shown_of_departs c)] at h
  rcases hc with hsigma | ⟨rfl, hfollows⟩
  · rw [shownFrom_cons_of_some (Letter.shown_sigma hsigma false)] at h
    have hother : Letter.other c = c := (List.cons.inj (List.append_cancel_left h)).1
    rcases hsigma with rfl | rfl <;> exact absurd hother (by decide)
  · obtain ⟨rfl, hpending⟩ := Bool.and_eq_true_iff.mp hfollows
    obtain rfl : pending = false := by simpa using hpending
    rw [shownFrom_cons_of_none (Letter.shown_of_not_isWord isWord_dotted.2.2)] at h
    have hspace := shownFrom_pending ms (Letter.other '\u0307') (by rw [← h]; rfl)
    exact absurd hspace (by decide)

/-- Behind a letter that both texts have, they show the same. -/
theorem exists_shownFrom_tail (l : Letter) {ls ms : List Letter} {started pending : Bool}
    (h : shownFrom started pending (l :: ls) = shownFrom started pending (l :: ms)) :
    ∃ started' pending', shownFrom started' pending' ls = shownFrom started' pending' ms ∧
      (started' && !pending') = l.shown.isSome := by
  cases hl : l.shown with
  | none =>
    rw [shownFrom_cons_of_none hl, shownFrom_cons_of_none hl] at h
    exact ⟨started, true, h, Bool.and_false started⟩
  | some c =>
    rw [shownFrom_cons_of_some hl, shownFrom_cons_of_some hl] at h
    exact ⟨true, false, (List.cons.inj (List.append_cancel_left h)).2, rfl⟩

/-- **Letters of the same characters that show the same are the same.** -/
theorem eq_of_shownFrom_eq : ∀ {ls ms : List Letter} {started pending : Bool},
    IsRegular (started && !pending) ls → IsRegular (started && !pending) ms →
    ls.map Letter.char = ms.map Letter.char →
    shownFrom started pending ls = shownFrom started pending ms → ls = ms
  | [], ms, _, _, _, _, hchar, _ => (List.map_eq_nil_iff.mp hchar.symm).symm
  | l :: ls, [], _, _, _, _, hchar, _ => absurd hchar (List.cons_ne_nil _ _)
  | ⟨c, departs⟩ :: ls, ⟨c', departs'⟩ :: ms, started, pending, hls, hms, hchar, h => by
      obtain ⟨hc, hrest⟩ := List.cons.inj hchar
      obtain rfl : c = c' := hc
      have hdeparts : departs = departs' := by
        cases departs <;> cases departs'
        · rfl
        · exact absurd h.symm (shownFrom_ne_of_departs (hms.1 rfl) ms ls)
        · exact absurd h (shownFrom_ne_of_departs (hls.1 rfl) ls ms)
        · rfl
      subst hdeparts
      obtain ⟨started', pending', htail, hfollows⟩ := exists_shownFrom_tail _ h
      have hls' : IsRegular (started' && !pending') ls := hfollows ▸ hls.2
      have hms' : IsRegular (started' && !pending') ms := hfollows ▸ hms.2
      rw [eq_of_shownFrom_eq hls' hms' hrest htail]

/-! ## The keys of aliases with one lower case -/

variable {a b : String}

theorem map_char_letters (label : String) :
    (letters label.toList).map Letter.char = (lowerCase label).toList := by
  rw [lowerCase, String.toList_ofList]
  exact map_char_lettersFrom label.toList []

/-- Letters are put together again from their characters and their marks. -/
theorem zipWith_letters (ls : List Letter) :
    List.zipWith Letter.mk (ls.map Letter.char) (ls.map Letter.departs) = ls := by
  rw [List.zipWith_map, List.zipWith_self]
  exact List.map_id ls

/-- **Aliases with one lower case have one key** just when their keys depart from it at the same
places. -/
theorem key_eq_iff_departures_eq (h : lowerCase a = lowerCase b) :
    key a = key b ↔ departures a = departures b := by
  have hchar : (letters a.toList).map Letter.char = (letters b.toList).map Letter.char := by
    rw [map_char_letters, map_char_letters, h]
  rw [key, key, keyChars_eq_shownFrom, keyChars_eq_shownFrom]
  constructor
  · intro hkey
    have hregular : ∀ cs, IsRegular (false && !false) (letters cs) := fun cs =>
      isRegular_lettersFrom cs [] false
    have heq := eq_of_shownFrom_eq (hregular a.toList) (hregular b.toList) hchar
      (String.ofList_injective hkey)
    rw [departures, departures, heq]
  · intro hdepartures
    rw [← zipWith_letters (letters a.toList), hchar, show (letters a.toList).map Letter.departs
      = (letters b.toList).map Letter.departs from hdepartures, zipWith_letters]

/-- The words of this text are the ones of "ΑΣ Β", where the sigma ends the first word. -/
example : lowerCase "ΑΣ.Β" = "ασ.β" ∧ departures "ΑΣ.Β" = [false, true, false, false] := by
  decide +kernel

theorem departs_eq_false {l : Letter} : ∀ {cs before : List Char}, 'Σ' ∉ cs → 'İ' ∉ cs →
    l ∈ lettersFrom before cs → l.departs = false
  | [], _, _, _, hl => absurd hl List.not_mem_nil
  | c :: rest, before, hsigma, hdotted, hl => by
      obtain ⟨hc, hsigma⟩ := not_or.mp (mt List.mem_cons.mpr hsigma)
      obtain ⟨hc', hdotted⟩ := not_or.mp (mt List.mem_cons.mpr hdotted)
      obtain ⟨d, -, -, hletters⟩ := lettersOf_of_ne (Ne.symm hc) (Ne.symm hc')
      rw [lettersFrom, hletters, List.singleton_append] at hl
      rcases List.mem_cons.mp hl with rfl | hl
      · rfl
      · exact departs_eq_false hsigma hdotted hl

/-- **The key of an alias without the two capitals** departs from its lower case nowhere. -/
theorem departures_eq_replicate {label : String} (hsigma : 'Σ' ∉ label.toList)
    (hdotted : 'İ' ∉ label.toList) :
    departures label = List.replicate (lowerCase label).toList.length false := by
  refine List.eq_replicate_iff.mpr ⟨?_, fun departs h => ?_⟩
  · rw [departures, ← map_char_letters, List.length_map, List.length_map]
  · obtain ⟨l, hl, rfl⟩ := List.mem_map.mp h
    exact departs_eq_false hsigma hdotted hl

end Gazetteer.Alias
