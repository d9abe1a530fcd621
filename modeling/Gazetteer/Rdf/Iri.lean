import Gazetteer.Text.Split

/-!
# Rdf/Iri — IRIs relative to a base

An IRI with a scheme stands for itself. Any other is put in the place of the last name of the base;
single dots in front of it are dropped, and double dots take away one more name of the base.
-/

namespace Gazetteer.Rdf.Iri

/-- Whether a text begins with a scheme: a colon before any slash. -/
def hasScheme (cs : List Char) : Bool :=
  cs.contains ':' && !(Text.beforeFirst ':' cs).contains '/'

/-- The base up to its last slash, that slash included. -/
def directory (base : List Char) : List Char := (base.reverse.dropWhile (· ≠ '/')).reverse

/-- How many characters of a base are its scheme and host. -/
def hostLength (base : List Char) : Nat :=
  let scheme := (Text.beforeFirst ':' base).length + 1
  match base.drop scheme with
  | '/' :: '/' :: rest => scheme + 2 + (Text.beforeFirst '/' rest).length
  | _ => scheme

/-- Follows dots at the beginning of a relative IRI. -/
def follow (directory : List Char) : Nat → List Char → List Char
  | steps + 1, '.' :: '.' :: '/' :: rest =>
    follow (Iri.directory directory.dropLast) steps rest
  | steps + 1, '.' :: '/' :: rest => follow directory steps rest
  | _, rest => directory ++ rest

/-- The IRI that a text stands for, seen from a base. -/
def resolve (base cs : List Char) : List Char :=
  let base := Text.beforeFirst '#' base
  if hasScheme cs then cs
  else
    match cs with
    | [] => base
    | '#' :: _ => base ++ cs
    | '/' :: '/' :: _ => Text.beforeFirst ':' base ++ ':' :: cs
    | '/' :: _ => base.take (hostLength base) ++ cs
    | cs => follow (directory base) cs.length cs

end Gazetteer.Rdf.Iri
