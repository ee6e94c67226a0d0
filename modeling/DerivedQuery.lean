import DerivedQuery.Command.Arguments
import DerivedQuery.Command.Console
import DerivedQuery.Command.Entities
import DerivedQuery.Command.Help
import DerivedQuery.Command.Invocation
import DerivedQuery.Command.Keywords
import DerivedQuery.Command.Parse
import DerivedQuery.Command.Run
import DerivedQuery.Command.Workspace
import DerivedQuery.Convention
import DerivedQuery.Convention.Document
import DerivedQuery.Descriptor
import DerivedQuery.Entity
import DerivedQuery.Files.Location
import DerivedQuery.Files.Tree
import DerivedQuery.Inspector
import DerivedQuery.Keyword
import DerivedQuery.Main
import DerivedQuery.Metadata
import DerivedQuery.MetadataError
import DerivedQuery.Path.Basic
import DerivedQuery.Path.Resolution
import DerivedQuery.Path.Spelling
import DerivedQuery.Project.Basic
import DerivedQuery.Project.Declarations
import DerivedQuery.Project.Discovery
import DerivedQuery.Project.Failure
import DerivedQuery.Project.Settings
import DerivedQuery.Proofs.Convention
import DerivedQuery.Proofs.Entity.Descriptor
import DerivedQuery.Proofs.Entity.Indexed
import DerivedQuery.Proofs.Except
import DerivedQuery.Proofs.MatchingOrder
import DerivedQuery.Proofs.Metadata
import DerivedQuery.Proofs.Path.Failure
import DerivedQuery.Proofs.Path.Greedy
import DerivedQuery.Proofs.Path.Lookup
import DerivedQuery.Proofs.Path.Reading
import DerivedQuery.Proofs.Path.Resolution
import DerivedQuery.Proofs.Path.RoundTrip
import DerivedQuery.Proofs.Path.Simulation
import DerivedQuery.Proofs.Path.Spelling
import DerivedQuery.Proofs.Path.Undivided
import DerivedQuery.Proofs.Project.Declarations
import DerivedQuery.Proofs.Project.Discovery
import DerivedQuery.Proofs.Query.Arguments
import DerivedQuery.Proofs.Query.Canonical
import DerivedQuery.Proofs.Query.Clause
import DerivedQuery.Proofs.Query.Comparison
import DerivedQuery.Proofs.Query.Criteria
import DerivedQuery.Proofs.Query.Denotation
import DerivedQuery.Proofs.Query.Entries
import DerivedQuery.Proofs.Query.Grammar
import DerivedQuery.Proofs.Query.Introducer
import DerivedQuery.Proofs.Query.Joined
import DerivedQuery.Proofs.Query.Limit
import DerivedQuery.Proofs.Query.Ordering
import DerivedQuery.Proofs.Query.Outline
import DerivedQuery.Proofs.Query.Pointer
import DerivedQuery.Proofs.Query.Position
import DerivedQuery.Proofs.Query.Relocation
import DerivedQuery.Proofs.Query.RoundTrip
import DerivedQuery.Proofs.Query.Simulation
import DerivedQuery.Proofs.Query.Warm
import DerivedQuery.Proofs.Registration
import DerivedQuery.Proofs.Registry.Agreement
import DerivedQuery.Proofs.Registry.Blame
import DerivedQuery.Proofs.Registry.Builders
import DerivedQuery.Proofs.Registry.Calls
import DerivedQuery.Proofs.Registry.Closure
import DerivedQuery.Proofs.Registry.Completion
import DerivedQuery.Proofs.Registry.Discipline
import DerivedQuery.Proofs.Registry.Exactness
import DerivedQuery.Proofs.Registry.Gathering
import DerivedQuery.Proofs.Registry.Growth
import DerivedQuery.Proofs.Registry.Links
import DerivedQuery.Proofs.Registry.Lock
import DerivedQuery.Proofs.Registry.Metadata
import DerivedQuery.Proofs.Registry.Reentrancy
import DerivedQuery.Proofs.Registry.Turns
import DerivedQuery.Proofs.Registry.Waiting
import DerivedQuery.Proofs.Registry.Walk
import DerivedQuery.Proofs.Source.Derivation
import DerivedQuery.Proofs.Source.Erasure
import DerivedQuery.Proofs.Source.Transparency
import DerivedQuery.Proofs.Text.Ascii
import DerivedQuery.Proofs.Text.Cuts
import DerivedQuery.Proofs.Text.Runs
import DerivedQuery.Proofs.Vocabulary
import DerivedQuery.Query.Basic
import DerivedQuery.Query.Canonical
import DerivedQuery.Query.Criteria
import DerivedQuery.Query.Fragment
import DerivedQuery.Query.Joined
import DerivedQuery.Query.Ordering
import DerivedQuery.Query.Outline
import DerivedQuery.Query.Parser
import DerivedQuery.Query.Reader
import DerivedQuery.Registry.Basic
import DerivedQuery.Registry.Lock
import DerivedQuery.Registry.Slots
import DerivedQuery.Registry.Threads
import DerivedQuery.Report.Color
import DerivedQuery.Report.Json
import DerivedQuery.Report.Table
import DerivedQuery.Search
import DerivedQuery.Source.Attribute
import DerivedQuery.Source.Declaration
import DerivedQuery.Source.Derivation
import DerivedQuery.Source.Directive
import DerivedQuery.Source.Erasure
import DerivedQuery.Source.Grammar
import DerivedQuery.Source.Lexer
import DerivedQuery.Source.Literal
import DerivedQuery.Source.Rule
import DerivedQuery.Source.Scan
import DerivedQuery.Source.Tree
import DerivedQuery.Source.Type
import DerivedQuery.TerminalTypes
import DerivedQuery.Text.Affix
import DerivedQuery.Text.Alphabetic
import DerivedQuery.Text.CodeRun
import DerivedQuery.Text.Cut
import DerivedQuery.Text.LetterCase
import DerivedQuery.Text.Lines
import DerivedQuery.Text.Occurrence
import DerivedQuery.Text.Quoted
import DerivedQuery.Text.Width
import DerivedQuery.Text.Word
import DerivedQuery.Toml.Document
import DerivedQuery.Toml.Quoted
import DerivedQuery.Toml.Scalar
import DerivedQuery.Toml.Value
import DerivedQuery.TypeRef
import DerivedQuery.Vocabulary
