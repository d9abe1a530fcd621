import Gazetteer.Action
import Gazetteer.Annotation.Basic
import Gazetteer.Annotation.Corpus
import Gazetteer.Annotator.AtSite
import Gazetteer.Annotator.Basic
import Gazetteer.Annotator.Match
import Gazetteer.CommandLine.Basic
import Gazetteer.CommandLine.Help
import Gazetteer.CommandLine.Run
import Gazetteer.Decimal.Shortest
import Gazetteer.Defaults
import Gazetteer.Dictionary.Basic
import Gazetteer.Dictionary.Cache
import Gazetteer.Dictionary.Listener
import Gazetteer.Digest
import Gazetteer.Enrichment.Basic
import Gazetteer.Enrichment.Report
import Gazetteer.Enrichment.Settings
import Gazetteer.Entity
import Gazetteer.Fault
import Gazetteer.Feed.Basic
import Gazetteer.Feed.Resolver
import Gazetteer.Feeder.Basic
import Gazetteer.Feeder.LabelSession
import Gazetteer.Feeder.Session
import Gazetteer.Feeder.Window
import Gazetteer.Files
import Gazetteer.Fingerprint
import Gazetteer.Json.Canonical
import Gazetteer.Json.Reader
import Gazetteer.Json.Writer
import Gazetteer.Lexeme
import Gazetteer.Location.Host
import Gazetteer.Location.Path
import Gazetteer.Location.Resource
import Gazetteer.Location.Url
import Gazetteer.Main
import Gazetteer.Proofs.Action
import Gazetteer.Proofs.Annotation.Filing
import Gazetteer.Proofs.Annotation.Growth
import Gazetteer.Proofs.Annotation.Sound
import Gazetteer.Proofs.Annotator.CacheReuse
import Gazetteer.Proofs.Annotator.Connections
import Gazetteer.Proofs.Annotator.Execution
import Gazetteer.Proofs.Annotator.Failure
import Gazetteer.Proofs.Annotator.Greedy
import Gazetteer.Proofs.Annotator.Independence
import Gazetteer.Proofs.Annotator.Keeping
import Gazetteer.Proofs.Annotator.OnDemand
import Gazetteer.Proofs.Annotator.Protocol
import Gazetteer.Proofs.Annotator.Search
import Gazetteer.Proofs.Annotator.Staleness
import Gazetteer.Proofs.Annotator.Start
import Gazetteer.Proofs.CommandLine.Fingerprint
import Gazetteer.Proofs.Dictionary.Cache
import Gazetteer.Proofs.Dictionary.Indexed
import Gazetteer.Proofs.Dictionary.Requests
import Gazetteer.Proofs.Dictionary.Shape
import Gazetteer.Proofs.Dictionary.Spelling
import Gazetteer.Proofs.Enrichment.Execution
import Gazetteer.Proofs.Enrichment.Idempotence
import Gazetteer.Proofs.Enrichment.Scan
import Gazetteer.Proofs.Feed.Clients
import Gazetteer.Proofs.Feed.Delivery
import Gazetteer.Proofs.Feed.Holding
import Gazetteer.Proofs.Feed.Listening
import Gazetteer.Proofs.Feed.Local
import Gazetteer.Proofs.Feed.Outcome
import Gazetteer.Proofs.Feed.Push
import Gazetteer.Proofs.Feed.Resolver
import Gazetteer.Proofs.Feed.Selection
import Gazetteer.Proofs.Feeder.AcceptedTemplates
import Gazetteer.Proofs.Feeder.Calls
import Gazetteer.Proofs.Feeder.FeedAll
import Gazetteer.Proofs.Feeder.Holding
import Gazetteer.Proofs.Feeder.Isolation
import Gazetteer.Proofs.Feeder.LabelLookup
import Gazetteer.Proofs.Feeder.Lifecycle
import Gazetteer.Proofs.Feeder.LookedUpOnce
import Gazetteer.Proofs.Feeder.Lookups
import Gazetteer.Proofs.Feeder.Session
import Gazetteer.Proofs.Feeder.SetUp
import Gazetteer.Proofs.Feeder.SetUpAgain
import Gazetteer.Proofs.Files
import Gazetteer.Proofs.Fingerprint
import Gazetteer.Proofs.Json.RoundTrip
import Gazetteer.Proofs.Json.Token
import Gazetteer.Proofs.Lexeme.Key
import Gazetteer.Proofs.Lexeme.Letters
import Gazetteer.Proofs.Lexeme.Runs
import Gazetteer.Proofs.Lexeme.Span
import Gazetteer.Proofs.Location.Escape
import Gazetteer.Proofs.Location.Path
import Gazetteer.Proofs.Location.Resource
import Gazetteer.Proofs.Location.Url
import Gazetteer.Proofs.Repository.Backend
import Gazetteer.Proofs.Repository.Given
import Gazetteer.Proofs.Repository.Graph
import Gazetteer.Proofs.Repository.Holding
import Gazetteer.Proofs.Repository.Imports
import Gazetteer.Proofs.Repository.Lifetime
import Gazetteer.Proofs.Repository.Loading
import Gazetteer.Proofs.Repository.Queries
import Gazetteer.Proofs.Repository.Reply
import Gazetteer.Proofs.Repository.Server
import Gazetteer.Proofs.Sparql.Literal
import Gazetteer.Proofs.Sparql.Results
import Gazetteer.Proofs.Sparql.Table
import Gazetteer.Proofs.Text.Directive
import Gazetteer.Proofs.Text.LowerCase
import Gazetteer.Proofs.Text.Symbols
import Gazetteer.Proofs.Text.Template
import Gazetteer.Proofs.Text.Utf8
import Gazetteer.Proofs.Text.WordCase
import Gazetteer.Proofs.Value.Put
import Gazetteer.Rdf.FileEngine
import Gazetteer.Rdf.Format
import Gazetteer.Rdf.Graph
import Gazetteer.Rdf.Iri
import Gazetteer.Rdf.Prefixes
import Gazetteer.Rdf.Token
import Gazetteer.Rdf.Turtle
import Gazetteer.Rehearsal.Script
import Gazetteer.Rehearsal.Tables
import Gazetteer.Repository.Basic
import Gazetteer.Repository.Evaluation
import Gazetteer.Repository.Graph
import Gazetteer.Service.Access
import Gazetteer.Service.Basic
import Gazetteer.Settings
import Gazetteer.Site
import Gazetteer.Sparql.EntityQuery
import Gazetteer.Sparql.Literal
import Gazetteer.Sparql.Query.Basic
import Gazetteer.Sparql.Query.Evaluation
import Gazetteer.Sparql.Query.Reader
import Gazetteer.Sparql.Results
import Gazetteer.Sparql.Rows
import Gazetteer.Text.Blank
import Gazetteer.Text.Digit
import Gazetteer.Text.Integer
import Gazetteer.Text.Interval
import Gazetteer.Text.Lines
import Gazetteer.Text.LowerCase
import Gazetteer.Text.Printable
import Gazetteer.Text.Quoted
import Gazetteer.Text.Split
import Gazetteer.Text.Template
import Gazetteer.Text.Utf8
import Gazetteer.Text.Word
import Gazetteer.Value.Access
import Gazetteer.Value.Basic
import Gazetteer.Value.Number
import Gazetteer.Value.Reading
import Gazetteer.Value.Text
import Gazetteer.Value.Writing
import Gazetteer.Yaml.Block
import Gazetteer.Yaml.Document
import Gazetteer.Yaml.Flow
import Gazetteer.Yaml.Quoted
import Gazetteer.Yaml.Scalar
import Gazetteer.Yaml.Source
