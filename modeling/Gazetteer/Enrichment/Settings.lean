import Gazetteer.Defaults
import Gazetteer.Text.Split
import Gazetteer.Value.Writing

/-!
# Enrichment/Settings — what is enriched, and with which query

Settings are read from values of unknown shape, and every field that does not fit is reported. Texts
have to be texts. A truth value may also be given by 0 or 1 or by a word for it, in any case; null
stands for true. Backslashes in the query come from the escaping of parameters and are dropped.
-/

namespace Gazetteer

/-- What is enriched, and with which query. -/
structure EnrichmentSettings where
  server : Option String := none
  repository : Option String := none
  /-- The set whose annotations are enriched; none for the document's own. -/
  input : Option String := none
  types : List String := Defaults.enrichedTypes
  deleteWithoutRelations : Bool := Defaults.deleteWithoutRelations
  query : String := Defaults.enrichmentQuery
deriving Repr, DecidableEq, Inhabited

/-- Why a field does not fit. -/
inductive FieldFlaw where
  | notText
  | notList
  | notTruth
  | unknownTruth
  | unknownField
deriving Repr, DecidableEq

/-- The name of a flaw. -/
def FieldFlaw.name : FieldFlaw → String
  | notText => "string_type"
  | notList => "list_type"
  | notTruth => "bool_type"
  | unknownTruth => "bool_parsing"
  | unknownField => "no_such_attribute"

/-- Where a flaw is — a field, or an item of one — and what it is. -/
abbrev FieldError := String × FieldFlaw

namespace EnrichmentSettings

/-- A text, or null for none. -/
def readOptionalText (field : String) : Value → Except (List FieldError) (Option String)
  | .null => .ok none
  | .string s => .ok (some s)
  | _ => .error [(field, .notText)]

/-- A text. -/
def readText (field : String) : Value → Except (List FieldError) String
  | .string s => .ok s
  | _ => .error [(field, .notText)]

/-- The items that are texts, and the errors of those that are not. -/
def readItems (field : String) : Nat → List Value → List String × List FieldError
  | _, [] => ([], [])
  | index, v :: rest =>
    let (items, errors) := readItems field (index + 1) rest
    match v with
    | .string s => (s :: items, errors)
    | _ => (items, (field ++ "." ++ toString index, .notText) :: errors)

/-- A list of texts. -/
def readTexts (field : String) : Value → Except (List FieldError) (List String)
  | .array items =>
    match readItems field 0 items with
    | (texts, []) => .ok texts
    | (_, errors) => .error errors
  | _ => .error [(field, .notList)]

/-- The lower case of a letter of ASCII. -/
def lowerLetter (c : Char) : Char :=
  if 'A' ≤ c && c ≤ 'Z' then Char.ofNat (c.toNat + 32) else c

/-- The truth value that a word stands for. -/
def truthOfWord (s : String) : Option Bool :=
  let word := String.ofList (s.toList.map lowerLetter)
  if ["1", "on", "t", "true", "y", "yes"].contains word then some true
  else if ["0", "off", "f", "false", "n", "no"].contains word then some false
  else none

/-- The largest number that is looked at for a truth value. -/
def truthLimit : Int := 0x8000000000000000

/-- The truth value that a number stands for. -/
def truthOfNumber (n : Int) : Except FieldFlaw Bool :=
  if n = 0 then .ok false
  else if n = 1 then .ok true
  else if -truthLimit ≤ n && n < truthLimit then .error .unknownTruth
  else .error .notTruth

/-- A truth value; null for true. -/
def readTruth (field : String) (v : Value) : Except (List FieldError) Bool :=
  let result : Except FieldFlaw Bool :=
    match v with
    | .null => .ok true
    | .bool b => .ok b
    | .int n => truthOfNumber n
    | .float x =>
      let p := Decimal.partsOf x
      let isWhole := p.exponent ≥ 0 || p.mantissa % Nat.pow 2 (-p.exponent).toNat = 0
      if x.isNaN || x.isInf then .error .notTruth
      else if x == 0 then .ok false
      else if x == 1 then .ok true
      else if isWhole && p.mantissa * Nat.pow 2 p.exponent.toNat < truthLimit then
        .error .unknownTruth
      else .error .notTruth
    | .string s =>
      match truthOfWord s with
      | some b => .ok b
      | none => .error .unknownTruth
    | _ => .error .notTruth
  result.mapError fun flaw => [(field, flaw)]

/-- A query without its backslashes. -/
def dropBackslashes (s : String) : String := String.ofList (s.toList.filter (· ≠ '\\'))

/-- The settings with one field read from a value. -/
def assign (settings : EnrichmentSettings) (field : String) (v : Value) :
    Except (List FieldError) EnrichmentSettings :=
  match field with
  | "server" => (readOptionalText field v).map fun server => { settings with server }
  | "repository_id" => (readOptionalText field v).map fun repository => { settings with repository }
  | "input_as_name" => (readOptionalText field v).map fun input => { settings with input }
  | "annotation_types" => (readTexts field v).map fun types => { settings with types }
  | "delete_on_no_relations" =>
    (readTruth field v).map fun b => { settings with deleteWithoutRelations := b }
  | "query" => (readText field v).map fun s => { settings with query := dropBackslashes s }
  | _ => .error [(field, .unknownField)]

/-- The fields, in the order their errors are reported. -/
def fields : List String :=
  ["server", "repository_id", "input_as_name", "annotation_types", "delete_on_no_relations",
    "query"]

/-- The settings with some fields read, and the errors of those that do not fit. -/
def readFields (given : List (String × Value)) : List String → EnrichmentSettings →
    EnrichmentSettings × List FieldError
  | [], settings => (settings, [])
  | field :: rest, settings =>
    match Value.find? field given with
    | none => readFields given rest settings
    | some v =>
      match settings.assign field v with
      | .ok settings => readFields given rest settings
      | .error errors =>
        let (settings, others) := readFields given rest settings
        (settings, errors ++ others)

/-- The settings with the given fields; other fields are passed over. -/
def ofFields (given : List (String × Value)) : Except (List FieldError) EnrichmentSettings :=
  match readFields given fields {} with
  | (settings, []) => .ok settings
  | (_, errors) => .error errors

end EnrichmentSettings

instance : Writable EnrichmentSettings := ⟨fun s => .object
  [("server", value s.server), ("repository_id", value s.repository),
    ("input_as_name", value s.input), ("annotation_types", value s.types),
    ("delete_on_no_relations", value s.deleteWithoutRelations), ("query", value s.query)]⟩

end Gazetteer
