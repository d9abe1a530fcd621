import Gazetteer.Value.Basic

/-!
# Defaults — the settings that come with the library

Each default is a constant; `Defaults.sections` is the same set as one document, by section and key.
-/

namespace Gazetteer.Defaults

/-- The version of the library. -/
def version : String := "0.1.0"

/-- The name of the command line. -/
def programName : String := "lkbgaz"

/-- The language of queries. -/
def queryLanguage : String := "sparql"

/-- The columns of an entity query: individual, class and alias. -/
def projection : String := "?inst ?cls ?label"

/-- The pattern for entities where no classes are trusted. -/
def fallbackPattern : String :=
  "?inst <http://www.w3.org/1999/02/22-rdf-syntax-ns#type> ?cls . "
    ++ "?inst <http://www.w3.org/2000/01/rdf-schema#label> ?label ."

/-- The predicates that name an individual. -/
def aliasPredicates : List String :=
  ["http://www.w3.org/2000/01/rdf-schema#label", "http://www.w3.org/2004/02/skos/core#altLabel"]

/-- The name of the configuration file in the directory of a dictionary. -/
def configFile : String := "config.ttl"

/-- The name of the query file in the directory of a dictionary. -/
def queryFile : String := "query.txt"

/-- How many lexemes a feeder sees ahead. -/
def lookahead : Int := 5

/-- The name of the cache file in the directory of a dictionary. -/
def cacheFile : String := "dictionary.cache.json"

/-- The type of the annotations that mark a match. -/
def annotationType : String := "Lookup"

/-- The shortest phrase that is looked up. -/
def minPhraseLength : Int := 2

/-- The query that looks up a label. -/
def labelQuery : String :=
  "SELECT ?inst ?cls ?label WHERE \x7b "
    ++ "?inst <http://www.w3.org/2000/01/rdf-schema#label> ?label . "
    ++ "?inst <http://www.w3.org/1999/02/22-rdf-syntax-ns#type> ?cls . "
    ++ "FILTER (lcase(str(?label)) = lcase(%s)) \x7d"

/-- The types of the annotations that are enriched. -/
def enrichedTypes : List String := ["Lookup"]

/-- Whether annotations without relations are removed. -/
def deleteWithoutRelations : Bool := true

/-- The query for the relations of an individual. -/
def enrichmentQuery : String :=
  "SELECT ?Person WHERE \x7b "
    ++ "?Person <http://dbpedia.org/ontology/birthplace> ?BirthPlace . "
    ++ "?BirthPlace <http://www.geonames.org/ontology#parentFeature> <%s> . "
    ++ "?Person a <http://sw.opencyc.org/2008/06/10/concept/en/Entertainer> .\x7d LIMIT 100"

/-- All defaults, by section and key. -/
def sections : List (String × Value) :=
  [("feeds", .object
      [("query_language", .string queryLanguage), ("projection", .string projection),
        ("fallback_pattern", .string fallbackPattern),
        ("alias_predicates", .array (aliasPredicates.map .string))]),
    ("local_repository", .object
      [("config_file", .string configFile), ("query_file", .string queryFile)]),
    ("gazetteer", .object
      [("lookahead", .int lookahead), ("cache_file", .string cacheFile),
        ("annotation_type", .string annotationType)]),
    ("label_lookup", .object
      [("min_lexeme_length", .int minPhraseLength), ("label_query", .string labelQuery)]),
    ("enrichment", .object
      [("annotation_types", .array (enrichedTypes.map .string)),
        ("delete_on_no_relations", .bool deleteWithoutRelations),
        ("query", .string enrichmentQuery)])]

/-- A section of the defaults; one that is not there is empty. -/
def section? (name : String) : Value := (Value.find? name sections).getD (.object [])

end Gazetteer.Defaults
