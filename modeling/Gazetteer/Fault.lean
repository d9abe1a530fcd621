import Gazetteer.Value.Text
import Gazetteer.Text.Template
import Gazetteer.Location.Resource
import Gazetteer.Files

/-!
# Fault — what can go wrong, and in which words

A `Fault` is a cause; where one fault leads to another the first is kept as the cause of the second.
`Fault.kind` sorts the causes into the kinds that callers tell apart, `Fault.message` words them,
and `Fault.configPath?` is the configuration file that a failed query waited for.
-/

namespace Gazetteer

/-- A result row: columns and their values in the order of the projection; null is unbound. -/
abbrev Row := List (Value × Value)

/-- The kinds of faults that callers tell apart. -/
inductive Kind where
  | general
  | query
  | malformedQuery
  | unavailable
  | registryNotInitialized
  | instantiation
  | runtime
  | value
  | index
  | type
  | noOperation
  | key
  | os
  | fileNotFound
  | isADirectory
  | notADirectory
  | fileExists
  | permission
  | connectionReset
  | transport
  | transportTimeout
  | parse
  | unicodeDecode
  | yaml
deriving Repr, DecidableEq

namespace Kind

/-- The name of a kind. -/
def name : Kind → String
  | general => "LkbError"
  | query => "QueryError"
  | malformedQuery => "MalformedQueryError"
  | unavailable => "RepositoryUnavailableError"
  | registryNotInitialized => "RegistryNotInitializedError"
  | instantiation => "ResourceInstantiationError"
  | runtime => "RuntimeError"
  | value => "ValueError"
  | index => "IndexError"
  | type => "TypeError"
  | noOperation => "AttributeError"
  | key => "KeyError"
  | os => "OSError"
  | fileNotFound => "FileNotFoundError"
  | isADirectory => "IsADirectoryError"
  | notADirectory => "NotADirectoryError"
  | fileExists => "FileExistsError"
  | permission => "PermissionError"
  | connectionReset => "ConnectionResetError"
  | transport => "TransportError"
  | transportTimeout => "TransportTimeout"
  | parse => "ParseError"
  | unicodeDecode => "UnicodeDecodeError"
  | yaml => "YAMLError"

/-- All kinds. -/
def all : List Kind :=
  [general, query, malformedQuery, unavailable, registryNotInitialized, instantiation, runtime,
    value, index, type, noOperation, key, os, fileNotFound, isADirectory, notADirectory, fileExists,
    permission, connectionReset, transport, transportTimeout, parse, unicodeDecode, yaml]

/-- The kind with a name. -/
def ofName? (s : String) : Option Kind := all.find? fun k => k.name == s

/-- The kinds that are the gazetteer's own, from the most general to the kind itself. -/
def ancestors : Kind → List Kind
  | general => [general]
  | query => [general, query]
  | malformedQuery => [general, query, malformedQuery]
  | unavailable => [general, unavailable]
  | registryNotInitialized => [general, registryNotInitialized]
  | instantiation => [general, instantiation]
  | _ => []

/-- Whether a fault of this kind is a failed query. -/
def isQuery : Kind → Bool
  | query | malformedQuery => true
  | _ => false

/-- Whether a fault of this kind comes from the transport of a request. -/
def isTransport : Kind → Bool
  | transport | transportTimeout => true
  | _ => false

end Kind

/-- Why a value from outside cannot be used the way it has to be. -/
inductive ShapeFlaw where
  /-- It has no such operation. -/
  | noOperation (type operation : String)
  | notText (type : String)
  | notIterable (type : String)
  | notUnpackable (type : String)
  | notContainer (type : String)
  | notSubscriptable (type : String)
  | textIndex (type : String)
  | arrayIndex (type : String)
  | indexOutOfRange
  | notHashable (type : String)
  | substringOperand (type : String)
  | notConvertible (type : String)
  | missingKey (key : String)
  | tooFew (expected got : Nat)
  | tooMany (expected : Nat)
deriving Repr, DecidableEq

namespace ShapeFlaw

def kind : ShapeFlaw → Kind
  | noOperation .. => .noOperation
  | missingKey _ => .key
  | indexOutOfRange => .index
  | tooFew .. | tooMany _ => .value
  | _ => .type

def message : ShapeFlaw → String
  | noOperation t a => "'" ++ t ++ "' object has no attribute '" ++ a ++ "'"
  | notText t => "expected string or bytes-like object, got '" ++ t ++ "'"
  | notIterable t => "'" ++ t ++ "' object is not iterable"
  | notUnpackable t => "cannot unpack non-iterable " ++ t ++ " object"
  | notContainer t => "argument of type '" ++ t ++ "' is not iterable"
  | notSubscriptable t => "'" ++ t ++ "' object is not subscriptable"
  | textIndex t => "string indices must be integers, not '" ++ t ++ "'"
  | arrayIndex t => "list indices must be integers or slices, not " ++ t
  | indexOutOfRange => "list index out of range"
  | notHashable t => "unhashable type: '" ++ t ++ "'"
  | substringOperand t => "'in <string>' requires string as left operand, not " ++ t
  | notConvertible t =>
    "int() argument must be a string, a bytes-like object or a real number, not '" ++ t ++ "'"
  | missingKey k => Text.quote k
  | tooFew expected got =>
    "not enough values to unpack (expected " ++ toString expected ++ ", got " ++ toString got ++ ")"
  | tooMany expected => "too many values to unpack (expected " ++ toString expected ++ ")"

end ShapeFlaw

/-- What went wrong. -/
inductive Fault where
  -- queries
  | connectionClosed
  | unsupportedLanguage (language : String)
  | requestFailed (endpoint : String) (cause : Fault)
  | answerRefused (status : Int) (body : String)
  | answerUnreadable (endpoint reason : String)
  | queryRejected (body : String)
  | queryInvalid (cause : Fault)
  | evaluationFailed (cause : Fault)
  | notSelect (form : String)
  | incompleteRow (index : Nat) (row : Row)
  | configurationUnreadable (path : Path) (cause : Fault)
  | importUnreadable (location : String) (path : Path) (cause : Fault)
  | remoteFeedFailed (cause : Fault)
  | noConfiguration (path : Path)
  -- repositories, services and the registry
  | serverRequired
  | repositoryRequired
  | notReachable (endpoint : String) (cause : Fault)
  | notAnswering (endpoint : String) (status : Int)
  | registryNotReady
  | patternsMissing
  -- feeders
  | feederSourceMissing
  | placeholderCount
  | feederNotReady
  /-- A checkpoint of a document without a session; the document is given by its description. -/
  | noSession (document : String)
  -- the gazetteer and the enrichment
  | dictionaryNotBuilt (path : Path) (cause : Fault)
  | gazetteerNotReady
  | enrichmentNotReady
  | enrichmentRepositoryInvalid (cause : Fault)
  -- values, text and files
  | template (flaw : Text.Template.Flaw)
  | notAnInteger (text : String)
  | integerTooLong (digits : Nat)
  | resource (flaw : Resource.Flaw)
  | shape (flaw : ShapeFlaw)
  | lexemeOutOfRange (index : Int) (count : Nat)
  | windowIndex
  | file (flaw : FileFlaw) (path : String)
  | notUtf8
  | settingsUnreadable
  /-- A fault from outside, which brings its own words. -/
  | outside (kind : Kind) (message : String) (configPath : Option String)
deriving Repr, Inhabited

namespace Fault

/-- The kind of a fault. -/
def kind : Fault → Kind
  | connectionClosed | unsupportedLanguage _ | requestFailed .. | answerRefused ..
  | answerUnreadable .. | evaluationFailed _ | notSelect _ | incompleteRow ..
  | configurationUnreadable .. | importUnreadable .. | remoteFeedFailed _
  | noConfiguration _ => .query
  | queryRejected _ | queryInvalid _ => .malformedQuery
  | notReachable .. | notAnswering .. => .unavailable
  | registryNotReady => .registryNotInitialized
  | dictionaryNotBuilt .. | enrichmentRepositoryInvalid _ => .instantiation
  | feederNotReady | noSession _ | gazetteerNotReady | enrichmentNotReady => .runtime
  | serverRequired | repositoryRequired | patternsMissing | feederSourceMissing | placeholderCount
  | notAnInteger _ | integerTooLong _ | resource _ => .value
  | template flaw => if flaw.concernsArgument then .type else .value
  | shape flaw => flaw.kind
  | lexemeOutOfRange .. | windowIndex => .index
  | file .notFound _ | file .adrift _ => .fileNotFound
  | file .isDirectory _ => .isADirectory
  | file .notDirectory _ => .notADirectory
  | file .alreadyThere _ => .fileExists
  | file .notPermitted _ => .permission
  | file .diskFull _ => .os
  | file .nullCharacter _ => .value
  | notUtf8 => .unicodeDecode
  | settingsUnreadable => .yaml
  | outside kind .. => kind

/-- How much of a server's answer a message repeats. -/
def excerpt (body : String) : String := String.ofList (body.toList.take 500)

/-- A row in a message. -/
def rowText (row : Row) : String :=
  let cells := row.map fun (column, value) =>
    (column.quoted ++ ": " ++ value.quoted).toList
  "\x7b" ++ String.ofList (Text.joinWith [',', ' '] cells) ++ "\x7d"

/-- The words of a fault. -/
def message : Fault → String
  | connectionClosed => "Connection already closed"
  | unsupportedLanguage l => "Unsupported query language: " ++ l
  | requestFailed endpoint cause => "Request to " ++ endpoint ++ " failed: " ++ cause.message
  | answerRefused status body =>
    "Repository returned HTTP " ++ toString status ++ ": " ++ excerpt body
  | answerUnreadable endpoint reason => "Invalid SPARQL JSON from " ++ endpoint ++ ": " ++ reason
  | queryRejected body => "Repository rejected query: " ++ excerpt body
  | queryInvalid cause => "Invalid SPARQL query: " ++ cause.message
  | evaluationFailed cause => "Query evaluation failed: " ++ cause.message
  | notSelect form => "Expected a SELECT query, got " ++ form
  | incompleteRow index row =>
    "Result row " ++ toString index ++ " must bind instance, class and alias "
      ++ "in its first three columns: " ++ rowText row
  | configurationUnreadable path cause =>
    "Cannot load repository configuration " ++ path.text ++ ": " ++ cause.message
  | importUnreadable location path cause =>
    "Cannot load " ++ location ++ " imported by " ++ path.text ++ ": " ++ cause.message
  | remoteFeedFailed cause => "Remote feed query failed: " ++ cause.message
  | noConfiguration path =>
    "Could not find a valid configuration file. Please check if " ++ path.text ++ " exists."
  | serverRequired => "server is required"
  | repositoryRequired => "repository_id is required"
  | notReachable endpoint cause => endpoint ++ " not reachable: " ++ cause.message
  | notAnswering endpoint status => endpoint ++ " answered HTTP " ++ toString status
  | registryNotReady => "Trusted entity registry not initialized"
  | patternsMissing => "At least one pattern is required"
  | feederSourceMissing =>
    "LabelLookupFeeder requires 'config_url' or 'server' and 'repository_id'"
  | placeholderCount => "label_query must contain exactly one %s placeholder"
  | feederNotReady => "LabelLookupFeeder not initialized. Call init() first."
  | noSession document =>
    "No local feed session for " ++ document ++ ". Call local_feed_init() first."
  | dictionaryNotBuilt path cause =>
    "Cannot build dictionary " ++ path.text ++ ": " ++ cause.message
  | gazetteerNotReady => "Gazetteer not initialized. Call init() first."
  | enrichmentNotReady => "SemanticEnrichment not initialized. Call init() first."
  | enrichmentRepositoryInvalid cause => "Invalid enrichment repository: " ++ cause.message
  | template flaw => flaw.message
  | notAnInteger text => "invalid literal for int() with base 10: " ++ Text.quote text
  | integerTooLong digits =>
    "Exceeds the limit (4300 digits) for integer string conversion: value has "
      ++ toString digits ++ " digits; use sys.set_int_max_str_digits() to increase the limit"
  | resource flaw => flaw.message
  | shape flaw => flaw.message
  | lexemeOutOfRange index count =>
    "Lexeme index " ++ toString index ++ " out of range (0.." ++ toString ((count : Int) - 1) ++ ")"
  | windowIndex => "tuple index out of range"
  | file flaw path => flaw.message (Text.quote path)
  | notUtf8 => "the bytes are not UTF-8"
  | settingsUnreadable => "the settings are not YAML"
  | outside .key message _ => Text.quote message
  | outside _ message _ => message

/-- The configuration file that a failed query waited for. -/
def configPath? : Fault → Option String
  | configurationUnreadable path _ | importUnreadable _ path _ | noConfiguration path =>
    some path.text
  | outside _ _ configPath => configPath
  | _ => none

/-- The fault in words of the gazetteer's own: what the engine says of a document or a query is left
out. -/
def abridged : Fault → Fault
  | configurationUnreadable path _ => .configurationUnreadable path omitted
  | importUnreadable location path _ => .importUnreadable location path omitted
  | queryInvalid _ => .queryInvalid omitted
  | evaluationFailed _ => .evaluationFailed omitted
  | remoteFeedFailed cause => .remoteFeedFailed cause.abridged
  | dictionaryNotBuilt path cause => .dictionaryNotBuilt path cause.abridged
  | fault => fault
where
  omitted : Fault := .outside .general "..." none

/-- Whether a fault is a failed query. -/
def isQuery (fault : Fault) : Bool := fault.kind.isQuery

end Fault

end Gazetteer
