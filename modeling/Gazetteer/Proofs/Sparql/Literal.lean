import Gazetteer.Feeder.LabelSession
import Gazetteer.Proofs.Text.Template

/-!
# Proofs/Sparql/Literal — a literal is one token, which stands for its text

SPARQL writes a string between double quotation marks (`STRING_LITERAL2`): characters that stand for
themselves, and escapes of two characters each. `Denotes` says which characters are such a token,
and what they stand for. A token needs no look at what follows it: reading (`readToken`) finds the
one token that some characters begin with, and gives back all the rest (`readToken_eq_some_iff`).
Escapes of code points are resolved in a whole query before it has tokens, and are no part of this.

So the literal of a text is the only token that can be read where it stands, and no phrase ends it
early or reaches into the query around it (`literal_delimits`).
-/

namespace Gazetteer.Sparql

/-! ## Tokens -/

/-- The character that an escape stands for, from the one behind its backslash. -/
def escapeValue? : Char → Option Char
  | 't' => some '\t'
  | 'b' => some (Char.ofNat 0x08)
  | 'n' => some '\n'
  | 'r' => some '\r'
  | 'f' => some (Char.ofNat 0x0c)
  | '\\' => some '\\'
  | '"' => some '"'
  | '\'' => some '\''
  | _ => none

/-- Whether a character stands for itself between the marks. -/
def isPlain (c : Char) : Bool := c ≠ '"' && c ≠ '\\' && c ≠ '\n' && c ≠ '\r'

/-- What can stand between the marks, and the text it stands for. -/
inductive Spells : List Char → List Char → Prop where
  | nil : Spells [] []
  | plain {c : Char} {body text : List Char} : isPlain c = true → Spells body text →
      Spells (c :: body) (c :: text)
  | escape {e c : Char} {body text : List Char} : escapeValue? e = some c → Spells body text →
      Spells ('\\' :: e :: body) (c :: text)

/-- A string between double quotation marks, and the text it stands for. -/
inductive Denotes : List Char → List Char → Prop where
  | intro {body text : List Char} : Spells body text → Denotes ('"' :: body ++ ['"']) text

/-! ## Reading a token -/

/-- The text up to the closing mark, and what follows the mark. -/
def readBody : List Char → Option (List Char × List Char)
  | [] => none
  | '"' :: rest => some ([], rest)
  | '\\' :: e :: rest =>
    (escapeValue? e).bind fun c => (readBody rest).map fun (text, after) => (c :: text, after)
  | c :: rest =>
    if isPlain c then (readBody rest).map fun (text, after) => (c :: text, after) else none

/-- The text of the token that some characters begin with, and what follows it. -/
def readToken : List Char → Option (List Char × List Char)
  | '"' :: rest => readBody rest
  | _ => none

variable {cs body text after token : List Char}

theorem readBody_cons_of_isPlain {c : Char} (h : isPlain c = true) (rest : List Char) :
    readBody (c :: rest)
      = (readBody rest).map fun (text, after) => (c :: text, after) := by
  rw [readBody]
  · rw [if_pos h]
  · rintro rfl
    exact absurd h (by decide)
  · rintro e rest' rfl
    exact absurd h (by decide)

theorem readBody_of_spells (h : Spells body text) :
    readBody (body ++ '"' :: after) = some (text, after) := by
  induction h with
  | nil => rfl
  | plain hc _ ih =>
    rw [List.cons_append, readBody_cons_of_isPlain hc, ih]
    rfl
  | escape he _ ih =>
    rw [List.cons_append, List.cons_append, readBody, he, ih]
    rfl

theorem spells_of_readBody (h : readBody cs = some (text, after)) :
    ∃ body, Spells body text ∧ cs = body ++ '"' :: after := by
  induction cs using readBody.induct generalizing text with
  | case1 => exact absurd h (by simp [readBody])
  | case2 rest =>
    obtain ⟨rfl, rfl⟩ := Prod.mk.inj (Option.some.inj h)
    exact ⟨[], .nil, rfl⟩
  | case3 e rest ih =>
    rw [readBody] at h
    obtain ⟨c, he, h⟩ := Option.bind_eq_some_iff.mp h
    obtain ⟨⟨text', after'⟩, hrest, heq⟩ := Option.map_eq_some_iff.mp h
    obtain ⟨rfl, rfl⟩ := Prod.mk.inj heq
    obtain ⟨body, hbody, rfl⟩ := ih hrest
    exact ⟨'\\' :: e :: body, .escape he hbody, rfl⟩
  | case4 c rest hquote hslash hc ih =>
    rw [readBody_cons_of_isPlain hc] at h
    obtain ⟨⟨text', after'⟩, hrest, heq⟩ := Option.map_eq_some_iff.mp h
    obtain ⟨rfl, rfl⟩ := Prod.mk.inj heq
    obtain ⟨body, hbody, rfl⟩ := ih hrest
    exact ⟨c :: body, .plain hc hbody, rfl⟩
  | case5 c rest hquote hslash hc =>
    rw [readBody, if_neg hc] at h
    · exact absurd h (by simp)
    · exact hquote
    · exact hslash

/-- **Reading finds the token** that some characters begin with, if they begin with one. -/
theorem readToken_eq_some_iff :
    readToken cs = some (text, after) ↔ ∃ token, Denotes token text ∧ cs = token ++ after := by
  constructor
  · intro h
    unfold readToken at h
    split at h
    · rename_i rest
      obtain ⟨body, hbody, rfl⟩ := spells_of_readBody h
      exact ⟨'"' :: body ++ ['"'], .intro hbody, by simp⟩
    · exact absurd h (by simp)
  · rintro ⟨token, ⟨hbody⟩, rfl⟩
    rw [List.append_assoc, List.cons_append]
    exact readBody_of_spells hbody

/-- **At most one token** stands at the beginning of some characters, and it stands for one text. -/
theorem Denotes.unique {token' text' after' : List Char} (h : Denotes token text)
    (h' : Denotes token' text') (heq : token ++ after = token' ++ after') :
    token = token' ∧ text = text' := by
  have hread := readToken_eq_some_iff.mpr ⟨token, h, heq.symm⟩
  have hread' : readToken (token' ++ after') = some (text', after') :=
    readToken_eq_some_iff.mpr ⟨token', h', rfl⟩
  obtain ⟨rfl, rfl⟩ := Prod.mk.inj (Option.some.inj (hread.symm.trans hread'))
  exact ⟨List.append_cancel_right heq, rfl⟩

/-! ## Literals are tokens -/

theorem spells_literalChar_append (c : Char) (h : Spells body text) :
    Spells (literalChar c ++ body) (c :: text) := by
  unfold literalChar
  split
  · subst c
    exact .escape rfl h
  split
  · subst c
    exact .escape rfl h
  split
  · subst c
    exact .escape rfl h
  split
  · subst c
    exact .escape rfl h
  · rename_i hslash hquote hfeed hreturn
    exact .plain (by simp [isPlain, hslash, hquote, hfeed, hreturn]) h

theorem spells_escape (cs : List Char) : Spells (escape cs) cs := by
  rw [escape_eq_flatMap]
  induction cs with
  | nil => exact .nil
  | cons c cs ih => exact spells_literalChar_append c ih

/-- **A literal is a token, and stands for its text.** -/
theorem denotes_literal (cs : List Char) : Denotes (literal cs) cs := .intro (spells_escape cs)

/-! ## Literals in a query -/

/-- **A template that leaves its phrase whole** has the same text on either side of the literal of
every phrase, but for blanks that fill it up to a width. -/
theorem exists_query_eq {template : String} (h : Text.Template.Carries template.toList) :
    ∃ before after, ∀ phrase : String, ∃ m n, LabelSession.query template phrase
      = .ok (String.ofList (before ++ List.replicate m ' ' ++ (literalOf phrase).toList
          ++ List.replicate n ' ' ++ after)) := by
  obtain ⟨before, d, after, hfill⟩ := Text.Template.exists_fill_of_carries h
  refine ⟨before, after, fun phrase => ?_⟩
  obtain ⟨m, n, hpad⟩ := Text.Template.exists_pad d (literal phrase.toList)
  refine ⟨m, n, ?_⟩
  rw [LabelSession.query, hfill, hpad, literalOf, String.toList_ofList]
  simp only [List.append_assoc]

/-- **The literal of a text is one token**, which stands for just this text: whatever follows it, no
other piece that begins with its opening mark is a token, neither a shorter nor a longer one, and
reading gives back the text and all that follows. So in a template that leaves its phrase whole, no
phrase changes what stands on either side of it. -/
theorem literal_delimits :
    (∀ (text : String) (rest token value : List Char),
      Denotes token value ∧ token <+: (literalOf text).toList ++ rest ↔
        token = (literalOf text).toList ∧ value = text.toList) ∧
    (∀ (text : String) (rest : List Char),
      readToken ((literalOf text).toList ++ rest) = some (text.toList, rest)) ∧
    ∀ template : String, Text.Template.Carries template.toList → ∃ before after,
      ∀ phrase : String, ∃ m n, LabelSession.query template phrase
        = .ok (String.ofList (before ++ List.replicate m ' ' ++ (literalOf phrase).toList
            ++ List.replicate n ' ' ++ after)) := by
  have hliteral : ∀ text : String, Denotes (literalOf text).toList text.toList := fun text => by
    rw [literalOf, String.toList_ofList]
    exact denotes_literal text.toList
  refine ⟨fun text rest token value => ⟨?_, ?_⟩, fun text rest => ?_, fun _ => exists_query_eq⟩
  · rintro ⟨htoken, after, heq⟩
    exact htoken.unique (hliteral text) heq
  · rintro ⟨htoken, hvalue⟩
    rw [htoken, hvalue]
    exact ⟨hliteral text, List.prefix_append _ rest⟩
  · exact readToken_eq_some_iff.mpr ⟨_, hliteral text, rfl⟩

/-- A text that closes a literal, if nothing is escaped, and begins a comment. -/
theorem literal_delimits_comment :
    Text.Template.Carries "FILTER(?l = %s)".toList ∧
    readToken ((literalOf "\") #\\").toList ++ [')']) = some ("\") #\\".toList, [')']) ∧
    ∃ before after, ∀ phrase : String, ∃ m n, LabelSession.query "FILTER(?l = %s)" phrase
      = .ok (String.ofList (before ++ List.replicate m ' ' ++ (literalOf phrase).toList
          ++ List.replicate n ' ' ++ after)) := by
  have htemplate : "FILTER(?l = %s)".toList = "FILTER(?l = ".toList ++ '%' :: 's' :: [')'] := by
    decide +kernel
  have hcarries : Text.Template.Carries "FILTER(?l = %s)".toList := by
    rw [htemplate]
    exact Text.Template.carries_of_notMem (by decide +kernel) (by decide)
  exact ⟨hcarries, literal_delimits.2.1 _ _, literal_delimits.2.2 _ hcarries⟩

end Gazetteer.Sparql
