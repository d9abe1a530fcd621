import Gazetteer.Text.LowerCase
import Gazetteer.Text.Split

/-!
# Rdf/Format — the format of a file, by its name

The ending of the last name in a location, in any case, tells the format; a last name that is
nothing but dots and an ending has none. A location that is an ending as a whole counts too.
-/

namespace Gazetteer.Rdf

/-- The formats by ending. -/
def formats : List (String × String) :=
  [("xml", "xml"), ("rdf", "xml"), ("owl", "xml"), ("n3", "n3"), ("ttl", "turtle"), ("nt", "nt"),
    ("trix", "trix"), ("xhtml", "rdfa"), ("html", "rdfa"), ("svg", "rdfa"), ("nq", "nquads"),
    ("nquads", "nquads"), ("trig", "trig"), ("json", "json-ld"), ("jsonld", "json-ld"),
    ("json-ld", "json-ld")]

/-- The ending of a location with its dot; empty if it has none. -/
def ending (location : List Char) : List Char :=
  let name := (location.reverse.takeWhile (· ≠ '/')).reverse
  let body := name.dropWhile (· = '.')
  if body.contains '.' then '.' :: (body.reverse.takeWhile (· ≠ '.')).reverse else []

/-- The word that tells the format. -/
def formatWord (location : List Char) : List Char :=
  let found := ending location
  let found := if found.isEmpty && location.head? = some '.' then location else found
  match Text.lower found with
  | '.' :: rest => rest
  | cs => cs

/-- The format that the name of a location tells, if it is a known one. -/
def formatByName (location : String) : Option String :=
  let known (word : List Char) : Option String :=
    (formats.find? fun f => f.1.toList == word).map (·.2)
  known (formatWord location.toList) <|> known (Text.lower location.toList)

end Gazetteer.Rdf
