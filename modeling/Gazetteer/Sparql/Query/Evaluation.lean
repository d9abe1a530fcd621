import Gazetteer.Sparql.Query.Basic
import Gazetteer.Text.LowerCase

/-!
# Sparql/Query/Evaluation — the solutions of a query

A solution gives terms to variables. The elements of a group are joined from the first to the last;
an optional group adds to the solutions that it fits and leaves the others as they are; the filters
of a group hold for the solutions of all its elements. A condition on a variable without a term
fails.
-/

namespace Gazetteer.Sparql

open Rdf (Term Triple)

/-- Terms for variables. -/
abbrev Solution := List (String × Term)

namespace Solution

/-- The term of a variable. -/
def find? (s : Solution) (name : String) : Option Term :=
  (List.find? (fun b => b.1 == name) s).map (·.2)

/-- The solution with a term for a variable, if it has no other one. -/
def bind? (s : Solution) (name : String) (t : Term) : Option Solution :=
  match s.find? name with
  | some u => if u = t then some s else none
  | none => some (s ++ [(name, t)])

/-- The solution in which a node stands for a term. -/
def meet? (s : Solution) (n : Node) (t : Term) : Option Solution :=
  match n with
  | .var name => s.bind? name t
  | .term u => if u = t then some s else none

/-- The solution in which a pattern stands for a triple. -/
def fit? (s : Solution) (p : Pattern) (t : Triple) : Option Solution := do
  let s ← s.meet? p.subject t.subject
  let s ← s.meet? p.predicate t.predicate
  s.meet? p.object t.object

/-- The solution that agrees with two solutions. -/
def merge? (s : Solution) (other : Solution) : Option Solution :=
  other.foldlM (fun s b => s.bind? b.1 b.2) s

end Solution

/-- The solutions that agree with one of each side. -/
def join (left right : List Solution) : List Solution :=
  left.flatMap fun s => right.filterMap fun r => s.merge? r

/-- What a condition comes to. -/
inductive Outcome where
  | term (t : Term)
  | truth (b : Bool)
deriving Repr, DecidableEq

namespace Outcome

/-- The truth value that an outcome counts as: a literal is true if it has a text. -/
def truth? : Outcome → Option Bool
  | truth b => some b
  | term (.literal s _) => some (s != "")
  | term (.iri _) => none

end Outcome

/-- Whether two terms are equal. Languages are compared in any case; a literal without a language,
on the left, equals an IRI of the same text. -/
def sameTerm (left right : Term) : Bool :=
  match left, right with
  | .literal s l, .literal t m => s == t && Text.lowerCase l == Text.lowerCase m
  | .literal s "", .iri t => s == t
  | .iri s, .iri t => s == t
  | _, _ => false

/-- Whether two outcomes are equal. -/
def sameOutcome : Outcome → Outcome → Bool
  | .term a, .term b => sameTerm a b
  | .truth a, .truth b => a == b
  | _, _ => false

/-- What two conditions come to when both have to hold. -/
def bothHold : Option Bool → Option Bool → Option Bool
  | some false, _ | _, some false => some false
  | some true, some true => some true
  | _, _ => none

/-- What two conditions come to when one of them has to hold. -/
def eitherHolds : Option Bool → Option Bool → Option Bool
  | some true, _ | _, some true => some true
  | some false, some false => some false
  | _, _ => none

namespace Expression

/-- What an expression comes to in a solution; none if it cannot be computed. -/
def eval (s : Solution) : Expression → Option Outcome
  | node (.var name) => (s.find? name).map .term
  | node (.term t) => some (.term t)
  | equal a b => do return .truth (sameOutcome (← eval s a) (← eval s b))
  | differ a b => do return .truth (!sameOutcome (← eval s a) (← eval s b))
  | both a b =>
    (bothHold ((eval s a).bind Outcome.truth?) ((eval s b).bind Outcome.truth?)).map .truth
  | either a b =>
    (eitherHolds ((eval s a).bind Outcome.truth?) ((eval s b).bind Outcome.truth?)).map .truth
  | negation a => do return .truth !(← (← eval s a).truth?)
  | lowerCase a =>
    match eval s a with
    | some (.term (.literal text language)) =>
      some (.term (.literal (Text.lowerCase text) language))
    | _ => none
  | textOf a =>
    match eval s a with
    | some (.term t) => some (.term (.literal t.text ""))
    | _ => none

/-- Whether a condition holds in a solution. -/
def holds (e : Expression) (s : Solution) : Bool := (e.eval s).bind Outcome.truth? == some true

end Expression

/-- The conditions of a group. -/
def conditions (group : List Element) : List Expression :=
  group.filterMap fun
    | .filter e => some e
    | _ => none

/-- Whether all conditions of a group hold in a solution. -/
def passes (group : List Element) (s : Solution) : Bool := (conditions group).all (·.holds s)

/-- The solutions extended by the triples that fit patterns. -/
def match? (triples : List Triple) : List Pattern → List Solution → List Solution
  | [], solutions => solutions
  | p :: rest, solutions =>
    match? triples rest (solutions.flatMap fun s => triples.filterMap fun t => s.fit? p t)

/-- The solutions, each with those of an optional group that agree with it and pass its filters;
without any it stays as it is. -/
def leftJoin (group : List Element) (left right : List Solution) : List Solution :=
  left.flatMap fun s =>
    match (right.filterMap fun r => s.merge? r).filter (passes group) with
    | [] => [s]
    | found => found

mutual

/-- The solutions joined with those of an element. -/
def Element.extend (triples : List Triple) (solutions : List Solution) : Element → List Solution
  | .triples patterns => match? triples patterns solutions
  | .optional group => leftJoin group solutions (extendAll triples [[]] group)
  | .union groups => join solutions (alternatives triples groups)
  | .values name terms => join solutions (terms.map fun t => [(name, t)])
  | .filter _ => solutions

/-- The solutions joined with those of elements, one after the other; filters are passed over. -/
def extendAll (triples : List Triple) (solutions : List Solution) : List Element → List Solution
  | [] => solutions
  | e :: rest => extendAll triples (e.extend triples solutions) rest

/-- The solutions of each of some groups. -/
def alternatives (triples : List Triple) : List (List Element) → List Solution
  | [] => []
  | group :: rest =>
    (extendAll triples [[]] group).filter (passes group) ++ alternatives triples rest

end

/-- The solutions of a group. -/
def solutionsOf (triples : List Triple) (group : List Element) : List Solution :=
  (extendAll triples [[]] group).filter (passes group)

/-- The variables of solutions, in the order they come up. -/
def variablesOf (solutions : List Solution) : List String :=
  (solutions.flatMap fun s => s.map (·.1)).eraseDups

namespace Query

/-- The answer to a query about triples. -/
def answer (query : Query) (triples : List Triple) : Rdf.Answer :=
  match query.form with
  | .select distinct columns =>
    let solutions := solutionsOf triples query.group
    let columns := columns.getD (variablesOf solutions)
    let rows := solutions.map fun s => columns.map s.find?
    let rows := (if distinct then rows.eraseDups else rows).drop query.offset
    let rows := match query.limit with
      | some n => rows.take n
      | none => rows
    { form := query.form.name, columns
      rows := rows.map fun row => row.map fun t => t.map Term.text }
  | form => { form := form.name }

end Query

end Gazetteer.Sparql
