/-!
# Sparql/Literal — a text as a string literal of a query

The text stands between double quotation marks; the mark, the backslash and the two line breaks are
escaped by a backslash. Each is replaced in the whole text, one after the other. The backslash comes
first, so that none of those the others bring in is escaped again, and all in all every character
is escaped by itself (`escape_eq_flatMap`).
-/

namespace Gazetteer.Sparql

/-- A text with every occurrence of a character replaced. -/
def replaceChar (c : Char) (new cs : List Char) : List Char :=
  cs.flatMap fun d => if d = c then new else [d]

/-- A text with the characters escaped that cannot stand in a string literal. -/
def escape (cs : List Char) : List Char :=
  let cs := replaceChar '\\' ['\\', '\\'] cs
  let cs := replaceChar '"' ['\\', '"'] cs
  let cs := replaceChar '\n' ['\\', 'n'] cs
  replaceChar '\r' ['\\', 'r'] cs

/-- A character of a string literal. -/
def literalChar (c : Char) : List Char :=
  if c = '\\' then ['\\', '\\']
  else if c = '"' then ['\\', '"']
  else if c = '\n' then ['\\', 'n']
  else if c = '\r' then ['\\', 'r']
  else [c]

/-- The string literal of a text. -/
def literal (cs : List Char) : List Char := '"' :: escape cs ++ ['"']

/-- The string literal of a string. -/
def literalOf (s : String) : String := String.ofList (literal s.toList)

/-- **Escaping goes character by character.** -/
theorem escape_eq_flatMap (cs : List Char) : escape cs = cs.flatMap literalChar := by
  simp only [escape, replaceChar, List.flatMap_assoc]
  refine congrArg (fun f => List.flatMap f cs) (funext fun c => ?_)
  unfold literalChar
  split
  · subst c
    rfl
  split
  · subst c
    rfl
  split
  · subst c
    rfl
  split
  · subst c
    rfl
  · rename_i hquote hfeed hreturn
    simp [hquote, hfeed, hreturn]

theorem literal_eq_flatMap (cs : List Char) :
    literal cs = '"' :: cs.flatMap literalChar ++ ['"'] := by
  rw [literal, escape_eq_flatMap]

end Gazetteer.Sparql
