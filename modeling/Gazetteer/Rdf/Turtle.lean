import Gazetteer.Rdf.Graph
import Gazetteer.Rdf.Iri
import Gazetteer.Rdf.Token

/-!
# Rdf/Turtle — triples read from Turtle and N-Triples

A document is a sequence of directives, which declare prefixes and the base, and of statements: a
subject with predicates, each with objects. N-Triples is the part of it with one triple to a
statement, every IRI written out.
-/

namespace Gazetteer.Rdf.Turtle

/-- What a statement is read against. -/
structure Scope where
  base : String
  prefixes : Prefixes := []
deriving Repr, Inhabited

/-- The IRI of the predicate that is written `a`. -/
def typePredicate : Term := .iri "http://www.w3.org/1999/02/22-rdf-syntax-ns#type"

namespace Scope

/-- The IRI that a text between angle brackets stands for. -/
def iri (scope : Scope) (text : String) : String :=
  String.ofList (Iri.resolve scope.base.toList text.toList)

/-- The scope with a prefix declared. -/
def declare (scope : Scope) (space text : String) : Scope :=
  { scope with prefixes := (space, scope.iri text) :: scope.prefixes }

/-- The IRI of a prefixed name, if its prefix is declared. -/
def name? (scope : Scope) (space rest : String) : Option String :=
  (scope.prefixes.find? fun p => p.1 == space).map fun p => p.2 ++ rest

/-- Reads an IRI or a prefixed name. -/
def readIri (scope : Scope) : List Token → Option (Term × List Token)
  | .iri text :: rest => some (.iri (scope.iri text), rest)
  | .name space text :: rest => (scope.name? space text).map fun iri => (.iri iri, rest)
  | _ => none

/-- Reads a predicate. -/
def readVerb (scope : Scope) : List Token → Option (Term × List Token)
  | .word "a" :: rest => some (typePredicate, rest)
  | tokens => scope.readIri tokens

/-- Reads an object. -/
def readObject (scope : Scope) : List Token → Option (Term × List Token)
  | .text s :: .tag language :: rest => some (.literal s language, rest)
  | .text s :: rest => some (.literal s "", rest)
  | tokens => scope.readIri tokens

/-- Reads the objects of a subject and a predicate, and the predicates after them, up to the dot
that ends the statement. -/
def readTriples (scope : Scope) (subject : Term) : Nat → Term → List Token →
    Option (List Triple × List Token)
  | 0, _, _ => none
  | steps + 1, predicate, tokens => do
    let (object, rest) ← scope.readObject tokens
    let triple : Triple := ⟨subject, predicate, object⟩
    match rest with
    | .mark ',' :: rest =>
      let (others, rest) ← readTriples scope subject steps predicate rest
      return (triple :: others, rest)
    | .mark '.' :: rest => return ([triple], rest)
    | .mark ';' :: rest =>
      match rest.dropWhile (· == .mark ';') with
      | .mark '.' :: rest => return ([triple], rest)
      | rest =>
        let (predicate, rest) ← scope.readVerb rest
        let (others, rest) ← readTriples scope subject steps predicate rest
        return (triple :: others, rest)
    | _ => none

end Scope

/-- Reads directives and statements to the end. -/
def readAll : Nat → Scope → List Triple → List Token → Option (Scope × List Triple)
  | _, scope, triples, [] => some (scope, triples)
  | 0, _, _, _ => none
  | steps + 1, scope, triples, tokens => do
    match tokens with
    | .tag "prefix" :: .name space "" :: .iri text :: .mark '.' :: rest =>
      readAll steps (scope.declare space text) triples rest
    | .tag "base" :: .iri text :: .mark '.' :: rest =>
      readAll steps { scope with base := scope.iri text } triples rest
    | directive :: .name space "" :: .iri text :: rest =>
      if directive.isWordOf "PREFIX" then readAll steps (scope.declare space text) triples rest
      else readStatement steps scope triples tokens
    | directive :: .iri text :: rest =>
      if directive.isWordOf "BASE" then
        readAll steps { scope with base := scope.iri text } triples rest
      else readStatement steps scope triples tokens
    | tokens => readStatement steps scope triples tokens
where
  /-- Reads a statement, and what follows it. -/
  readStatement (steps : Nat) (scope : Scope) (triples : List Triple) (tokens : List Token) :
      Option (Scope × List Triple) := do
    let (subject, rest) ← scope.readIri tokens
    let (predicate, rest) ← scope.readVerb rest
    let (found, rest) ← scope.readTriples subject (rest.length + 1) predicate rest
    readAll steps scope (triples ++ found) rest

/-- The prefixes and the triples of a Turtle document. -/
def parse? (base : String) (cs : List Char) : Option (Prefixes × List Triple) := do
  let tokens ← Token.scan cs
  let (scope, triples) ← readAll (tokens.length + 1) { base } [] tokens
  return (scope.prefixes, triples)

/-- Reads the triples of N-Triples to the end. -/
def readPlain : List Token → Option (List Triple)
  | [] => some []
  | .iri s :: .iri p :: .iri o :: .mark '.' :: rest =>
    (readPlain rest).map (⟨.iri s, .iri p, .iri o⟩ :: ·)
  | .iri s :: .iri p :: .text o :: .mark '.' :: rest =>
    (readPlain rest).map (⟨.iri s, .iri p, .literal o ""⟩ :: ·)
  | .iri s :: .iri p :: .text o :: .tag language :: .mark '.' :: rest =>
    (readPlain rest).map (⟨.iri s, .iri p, .literal o language⟩ :: ·)
  | _ => none

/-- The triples of an N-Triples document. -/
def parsePlain? (cs : List Char) : Option (List Triple) := (Token.scan cs).bind readPlain

end Gazetteer.Rdf.Turtle
