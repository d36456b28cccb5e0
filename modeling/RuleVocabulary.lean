import RuleVocabulary.Archive.Basic
import RuleVocabulary.Archive.Checksum
import RuleVocabulary.Archive.Gzip
import RuleVocabulary.Archive.Inflate
import RuleVocabulary.Archive.Supply
import RuleVocabulary.Archive.Tar
import RuleVocabulary.Archive.TarHeader
import RuleVocabulary.Category
import RuleVocabulary.CommandLine
import RuleVocabulary.Datum.Basic
import RuleVocabulary.Datum.Path
import RuleVocabulary.Decimal.Notation
import RuleVocabulary.Decimal.Reading
import RuleVocabulary.Decimal.Shortest
import RuleVocabulary.Descriptor.Basic
import RuleVocabulary.Descriptor.Json
import RuleVocabulary.Directory
import RuleVocabulary.Expander
import RuleVocabulary.Fault
import RuleVocabulary.Header.Expectation
import RuleVocabulary.Header.Gap
import RuleVocabulary.Header.Package
import RuleVocabulary.Header.Statement
import RuleVocabulary.Header.Word
import RuleVocabulary.Imports
import RuleVocabulary.Inspection
import RuleVocabulary.Json.Datum
import RuleVocabulary.Json.Failure
import RuleVocabulary.Json.Number
import RuleVocabulary.Json.Reader
import RuleVocabulary.Json.Text
import RuleVocabulary.Json.Value
import RuleVocabulary.Loader
import RuleVocabulary.Main
import RuleVocabulary.Mapping.File
import RuleVocabulary.Mapping.Section
import RuleVocabulary.Proofs.Inspection
import RuleVocabulary.Proofs.Loader.Advance
import RuleVocabulary.Proofs.Loader.Comparison
import RuleVocabulary.Proofs.Loader.Course
import RuleVocabulary.Proofs.Loader.Entries
import RuleVocabulary.Proofs.Loader.Expansion
import RuleVocabulary.Proofs.Loader.History
import RuleVocabulary.Proofs.Loader.Item
import RuleVocabulary.Proofs.Loader.Laziness
import RuleVocabulary.Proofs.Loader.Listing
import RuleVocabulary.Proofs.Loader.Renewal
import RuleVocabulary.Proofs.Loader.Repetition
import RuleVocabulary.Proofs.Loader.Run
import RuleVocabulary.Proofs.Loader.Search
import RuleVocabulary.Proofs.Loader.Tables
import RuleVocabulary.Proofs.Loader.Trail
import RuleVocabulary.Proofs.Registry.Ambient
import RuleVocabulary.Proofs.Registry.Growth
import RuleVocabulary.Proofs.Registry.Lookup
import RuleVocabulary.Proofs.Vocabulary
import RuleVocabulary.Name
import RuleVocabulary.Registry.Ambient
import RuleVocabulary.Registry.Basic
import RuleVocabulary.Settings.Basic
import RuleVocabulary.Settings.Environment
import RuleVocabulary.Settings.Sources
import RuleVocabulary.Text.Blank
import RuleVocabulary.Text.Code
import RuleVocabulary.Text.Place
import RuleVocabulary.Text.Printable
import RuleVocabulary.Text.Quoted
import RuleVocabulary.Text.Utf8
import RuleVocabulary.Toml.Document
import RuleVocabulary.Toml.Moment
import RuleVocabulary.Toml.Scalar
import RuleVocabulary.Toml.Text
import RuleVocabulary.Toml.Tree
import RuleVocabulary.Vocabulary.Basic
import RuleVocabulary.Vocabulary.Json
import RuleVocabulary.Yaml.Block
import RuleVocabulary.Yaml.Cursor
import RuleVocabulary.Yaml.Document
import RuleVocabulary.Yaml.Node
import RuleVocabulary.Yaml.Plain
import RuleVocabulary.Yaml.Quoted
import RuleVocabulary.Yaml.Scalar
import RuleVocabulary.Yaml.Tag
import RuleVocabulary.Yaml.Token
import RuleVocabulary.Proofs.Loader.Listing
import RuleVocabulary.Proofs.Loader.Account
import RuleVocabulary.Proofs.Header.Blank
import RuleVocabulary.Proofs.Imports
import RuleVocabulary.Proofs.Loader.Frame
import RuleVocabulary.Proofs.Loader.Bindings
import RuleVocabulary.Proofs.Loader.Alike
import RuleVocabulary.Proofs.Loader.Imported
import RuleVocabulary.Proofs.Loader.Order
import RuleVocabulary.Proofs.Place
import RuleVocabulary.Proofs.Header.Gap
import RuleVocabulary.Proofs.Header.Word
import RuleVocabulary.Proofs.Header.Statement
import RuleVocabulary.Proofs.Header.Tail
import RuleVocabulary.Proofs.Header.Reading
import RuleVocabulary.Proofs.Header.Concatenation
import RuleVocabulary.Proofs.Header.OpenComment
import RuleVocabulary.Proofs.Header.Unfinished
import RuleVocabulary.Proofs.Header.Isolation
import RuleVocabulary.Proofs.Header.Declaration
import RuleVocabulary.Proofs.Header.ReadBack
import RuleVocabulary.Proofs.Inspection.Supertypes
import RuleVocabulary.Proofs.Inspection.Walk
import RuleVocabulary.Proofs.Inspection.Memory
import RuleVocabulary.Proofs.Table
import RuleVocabulary.Proofs.Json.Items
import RuleVocabulary.Proofs.Json.Compact
import RuleVocabulary.Proofs.Json.Pretty
import RuleVocabulary.Proofs.Registry.Changes
import RuleVocabulary.Proofs.Descriptor
import RuleVocabulary.Proofs.Inspection.Derivation
import RuleVocabulary.Proofs.Mapping.ReadBack
import RuleVocabulary.Proofs.Subtyping
import RuleVocabulary.Proofs.Header.Lexical
import RuleVocabulary.Proofs.Header.Canonical
import RuleVocabulary.Proofs.Header.Problems
import RuleVocabulary.Proofs.Category
import RuleVocabulary.Proofs.Mapping.Escape
import RuleVocabulary.Proofs.Mapping.Lines
import RuleVocabulary.Proofs.Resolution
import RuleVocabulary.Proofs.ArrayNames
import RuleVocabulary.Proofs.Loader.Atomicity
import RuleVocabulary.Proofs.Loader.ArrayGlobals
import RuleVocabulary.Proofs.Loader.ShortNames
import RuleVocabulary.Proofs.Answer
import RuleVocabulary.Proofs.Text.Utf8
import RuleVocabulary.Proofs.Settings
import RuleVocabulary.Proofs.Outcome
import RuleVocabulary.Proofs.CommandLine
import RuleVocabulary.Proofs.Archive.Members
import RuleVocabulary.Proofs.Archive.Octal
import RuleVocabulary.Proofs.Archive.Written
import RuleVocabulary.Proofs.Archive.Truncation
import RuleVocabulary.Proofs.Candidates
import RuleVocabulary.Proofs.Vocabulary.Draft
import RuleVocabulary.Proofs.Vocabulary.Accumulation
