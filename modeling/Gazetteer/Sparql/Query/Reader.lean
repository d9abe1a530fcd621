import Gazetteer.Rdf.Turtle
import Gazetteer.Sparql.Query.Basic

/-!
# Sparql/Query/Reader — queries read from text

A query begins with the prefixes it declares. Names with a prefix that neither the query nor its
surroundings declare are no flaw of the syntax: the query is read to its end first, and they are
reported only then.
-/

namespace Gazetteer.Sparql

open Rdf (Token Term Prefixes)

/-- Why a text is no query. -/
inductive QueryFlaw where
  | malformed
  | undeclaredPrefix (space : String)
deriving Repr, DecidableEq

namespace Query

/-- The scope in which an undeclared prefix stands for nothing. -/
def lenient (scope : Rdf.Turtle.Scope) (tokens : List Token) : Rdf.Turtle.Scope :=
  { scope with prefixes := scope.prefixes ++ tokens.filterMap fun
      | .name space _ => some (space, "")
      | _ => none }

/-- Reads a variable or a term. -/
def readNode (scope : Rdf.Turtle.Scope) : List Token → Option (Node × List Token)
  | .var name :: rest => some (.var name, rest)
  | tokens => (scope.readObject tokens).map fun (t, rest) => (.term t, rest)

/-- Reads a predicate. -/
def readVerb (scope : Rdf.Turtle.Scope) : List Token → Option (Node × List Token)
  | .var name :: rest => some (.var name, rest)
  | tokens => (scope.readVerb tokens).map fun (t, rest) => (.term t, rest)

/-- Reads the objects of a subject and a predicate, and the predicates after them. -/
def readPatterns (scope : Rdf.Turtle.Scope) (subject : Node) : Nat → Node → List Token →
    Option (List Pattern × List Token)
  | 0, _, _ => none
  | steps + 1, predicate, tokens => do
    let (object, rest) ← readNode scope tokens
    let pattern : Pattern := ⟨subject, predicate, object⟩
    match rest with
    | .mark ',' :: rest =>
      let (others, rest) ← readPatterns scope subject steps predicate rest
      return (pattern :: others, rest)
    | .mark ';' :: rest =>
      let rest := rest.dropWhile (· == .mark ';')
      match readVerb scope rest with
      | none => return ([pattern], rest)
      | some (predicate, rest) =>
        let (others, rest) ← readPatterns scope subject steps predicate rest
        return (pattern :: others, rest)
    | rest => return ([pattern], rest)

/-- The token of a word in upper case. -/
def keyword : Token → String
  | .word s => String.ofList (s.toList.map Char.toUpper)
  | _ => ""

mutual

/-- Reads a condition: alternatives of conditions that hold together. -/
def readCondition (scope : Rdf.Turtle.Scope) : Nat → List Token →
    Option (Expression × List Token)
  | 0, _ => none
  | steps + 1, tokens => do
    let (left, rest) ← readTogether scope steps tokens
    match rest with
    | .operator "||" :: rest =>
      let (right, rest) ← readCondition scope steps rest
      return (.either left right, rest)
    | rest => return (left, rest)

/-- Reads conditions that hold together. -/
def readTogether (scope : Rdf.Turtle.Scope) : Nat → List Token →
    Option (Expression × List Token)
  | 0, _ => none
  | steps + 1, tokens => do
    let (left, rest) ← readComparison scope steps tokens
    match rest with
    | .operator "&&" :: rest =>
      let (right, rest) ← readTogether scope steps rest
      return (.both left right, rest)
    | rest => return (left, rest)

/-- Reads a comparison of two terms, or one term. -/
def readComparison (scope : Rdf.Turtle.Scope) : Nat → List Token →
    Option (Expression × List Token)
  | 0, _ => none
  | steps + 1, tokens => do
    let (left, rest) ← readPrimary scope steps tokens
    match rest with
    | .mark '=' :: rest =>
      let (right, rest) ← readPrimary scope steps rest
      return (.equal left right, rest)
    | .operator "!=" :: rest =>
      let (right, rest) ← readPrimary scope steps rest
      return (.differ left right, rest)
    | rest => return (left, rest)

/-- Reads a term, a function of one, or a condition in brackets. -/
def readPrimary (scope : Rdf.Turtle.Scope) : Nat → List Token → Option (Expression × List Token)
  | 0, _ => none
  | steps + 1, tokens =>
    match tokens with
    | .mark '!' :: rest => do
      let (e, rest) ← readPrimary scope steps rest
      return (.negation e, rest)
    | .mark '(' :: rest => readBracket scope steps rest
    | word :: .mark '(' :: rest => do
      let (e, rest) ← readBracket scope steps rest
      match keyword word with
      | "LCASE" => return (.lowerCase e, rest)
      | "STR" => return (.textOf e, rest)
      | _ => none
    | tokens => (readNode scope tokens).map fun (n, rest) => (.node n, rest)

/-- Reads a condition and the closing bracket after it. -/
def readBracket (scope : Rdf.Turtle.Scope) : Nat → List Token → Option (Expression × List Token)
  | 0, _ => none
  | steps + 1, tokens => do
    let (e, rest) ← readCondition scope steps tokens
    match rest with
    | .mark ')' :: rest => return (e, rest)
    | _ => none

end

/-- Reads what a filter asks for: a condition in brackets or a function. -/
def readFilter (scope : Rdf.Turtle.Scope) (steps : Nat) : List Token →
    Option (Expression × List Token)
  | .mark '(' :: rest => readBracket scope steps rest
  | .word w :: .mark '(' :: rest => readPrimary scope steps (.word w :: .mark '(' :: rest)
  | _ => none

/-- Reads the terms of a variable and the brace after them. -/
def readTerms (scope : Rdf.Turtle.Scope) : Nat → List Token → Option (List Term × List Token)
  | 0, _ => none
  | _ + 1, .mark '}' :: rest => some ([], rest)
  | steps + 1, tokens => do
    let (t, rest) ← scope.readObject tokens
    let (others, rest) ← readTerms scope steps rest
    return (t :: others, rest)

/-- Drops the dot that may stand after an element. -/
def dropDot : List Token → List Token
  | .mark '.' :: rest => rest
  | tokens => tokens

mutual

/-- Reads the elements of a group and the brace after them; triple patterns may only begin where
`fresh` says so. -/
def readGroup (scope : Rdf.Turtle.Scope) : Nat → (fresh : Bool) → List Token →
    Option (List Element × List Token)
  | 0, _, _ => none
  | steps + 1, fresh, tokens =>
    match tokens with
    | .mark '}' :: rest => some ([], rest)
    | .mark '{' :: rest => do
      let (groups, rest) ← readUnion scope steps rest
      let (others, rest) ← readGroup scope steps true (dropDot rest)
      return (.union groups :: others, rest)
    | .word w :: rest =>
      match keyword (.word w), rest with
      | "OPTIONAL", .mark '{' :: rest => do
        let (group, rest) ← readGroup scope steps true rest
        let (others, rest) ← readGroup scope steps true (dropDot rest)
        return (.optional group :: others, rest)
      | "FILTER", rest => do
        let (condition, rest) ← readFilter scope (rest.length + 1) rest
        let (others, rest) ← readGroup scope steps true (dropDot rest)
        return (.filter condition :: others, rest)
      | "VALUES", .var name :: .mark '{' :: rest => do
        let (terms, rest) ← readTerms scope (rest.length + 1) rest
        let (others, rest) ← readGroup scope steps true (dropDot rest)
        return (.values name terms :: others, rest)
      | _, _ => none
    | tokens =>
      if !fresh then none
      else do
        let (subject, rest) ← readNode scope tokens
        let (predicate, rest) ← readVerb scope rest
        let (patterns, rest) ← readPatterns scope subject (rest.length + 1) predicate rest
        let (others, rest) ←
          match rest with
          | .mark '.' :: rest => readGroup scope steps true rest
          | rest => readGroup scope steps false rest
        return (.triples patterns :: others, rest)

/-- Reads groups with the word `UNION` between them, the first one after its opening brace. -/
def readUnion (scope : Rdf.Turtle.Scope) : Nat → List Token →
    Option (List (List Element) × List Token)
  | 0, _ => none
  | steps + 1, tokens => do
    let (group, rest) ← readGroup scope steps true tokens
    match rest with
    | .word w :: .mark '{' :: rest' =>
      if keyword (.word w) = "UNION" then
        let (groups, rest) ← readUnion scope steps rest'
        return (group :: groups, rest)
      else return ([group], rest)
    | rest => return ([group], rest)

end

/-- Reads a group with its braces; the word `WHERE` may stand before it. -/
def readWhere (scope : Rdf.Turtle.Scope) (tokens : List Token) :
    Option (List Element × List Token) :=
  let tokens := if tokens.head?.any (Token.isWordOf "WHERE") then tokens.drop 1 else tokens
  match tokens with
  | .mark '{' :: rest => readGroup scope (rest.length + 1) true rest
  | _ => none

/-- Reads the limits after a group to the end. -/
def readLimits (query : Query) : List Token → Option Query
  | [] => some query
  | word :: .word digits :: rest => do
    let n ← digits.toNat?
    match keyword word with
    | "LIMIT" => readLimits { query with limit := some n } rest
    | "OFFSET" => readLimits { query with offset := n } rest
    | _ => none
  | _ => none

/-- The names of the variables in front of some tokens, with what follows. -/
def takeVars : List Token → List String × List Token
  | .var name :: rest =>
    let (names, rest) := takeVars rest
    (name :: names, rest)
  | tokens => ([], tokens)

/-- Reads what stands between `SELECT` and the group. -/
def readSelect (tokens : List Token) : Option (Form × List Token) :=
  let modifier := (tokens.head?.map keyword).getD ""
  let tokens := if modifier = "DISTINCT" || modifier = "REDUCED" then tokens.drop 1 else tokens
  match tokens with
  | .mark '*' :: rest => some (.select (modifier == "DISTINCT") none, rest)
  | tokens =>
    match takeVars tokens with
    | ([], _) => none
    | (names, rest) => some (.select (modifier == "DISTINCT") (some names), rest)

/-- Reads a query after its prefixes. -/
def readBody (scope : Rdf.Turtle.Scope) : List Token → Option Query
  | [] => none
  | word :: rest => do
    let (form, rest) ←
      match keyword word with
      | "SELECT" => readSelect rest
      | "ASK" => some (.ask, rest)
      | "CONSTRUCT" => do
        let (_, rest) ← readWhere scope rest
        some (.construct, rest)
      | _ => none
    let (group, rest) ← readWhere scope rest
    readLimits { form, group } rest

/-- Reads the declarations in front of a query. -/
def readScope : Nat → Rdf.Turtle.Scope → List Token → Rdf.Turtle.Scope × List Token
  | steps + 1, scope, word :: .name space "" :: .iri text :: rest =>
    if keyword word = "PREFIX" then readScope steps (scope.declare space text) rest
    else (scope, word :: .name space "" :: .iri text :: rest)
  | steps + 1, scope, word :: .iri text :: rest =>
    if keyword word = "BASE" then readScope steps { scope with base := scope.iri text } rest
    else (scope, word :: .iri text :: rest)
  | _, scope, tokens => (scope, tokens)

/-- A prefix among some tokens that is not declared. -/
def undeclared? (scope : Rdf.Turtle.Scope) (tokens : List Token) : Option String :=
  tokens.findSome? fun
    | .name space rest => if (scope.name? space rest).isSome then none else some space
    | _ => none

/-- The query that a text stands for, where some prefixes are declared beforehand. -/
def parse (prefixes : Prefixes) (cs : List Char) : Except QueryFlaw Query :=
  match Token.scan cs with
  | none => .error .malformed
  | some tokens =>
    let (scope, body) := readScope tokens.length { base := "", prefixes } tokens
    match readBody (lenient scope body) body with
    | none => .error .malformed
    | some query =>
      match undeclared? scope body with
      | some space => .error (.undeclaredPrefix space)
      | none => .ok query

end Query

end Gazetteer.Sparql
