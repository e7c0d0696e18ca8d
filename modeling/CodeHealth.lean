import CodeHealth.Analysis
import CodeHealth.Boundary
import CodeHealth.CommandLine
import CodeHealth.CommandLine.Arguments
import CodeHealth.Data.Document
import CodeHealth.Data.Json
import CodeHealth.Data.Json.Printer
import CodeHealth.Data.Keyed
import CodeHealth.Data.Toml.Reader
import CodeHealth.Data.Toml.Scalar
import CodeHealth.Data.Toml.Table
import CodeHealth.Data.Xml
import CodeHealth.Decimal.Binary
import CodeHealth.Decimal.Fixed
import CodeHealth.Decimal.Power
import CodeHealth.Decimal.Reading
import CodeHealth.Decimal.Shortest
import CodeHealth.Dependency.Freshness
import CodeHealth.Dependency.Manifest
import CodeHealth.Dependency.Manifest.GoMod
import CodeHealth.Dependency.Manifest.Packages
import CodeHealth.Dependency.Manifest.Projects
import CodeHealth.Dependency.Manifest.Requirements
import CodeHealth.Dependency.Registry
import CodeHealth.Dependency.Spec
import CodeHealth.Files.Discovery
import CodeHealth.Files.Disk
import CodeHealth.Files.Entry
import CodeHealth.Files.Ownership
import CodeHealth.Findings
import CodeHealth.Findings.Reading
import CodeHealth.Go.Expressions
import CodeHealth.Go.File
import CodeHealth.Go.Functions
import CodeHealth.Go.Lexer
import CodeHealth.Go.Parser
import CodeHealth.Go.Phrase
import CodeHealth.Go.References
import CodeHealth.Go.Statements
import CodeHealth.Go.Token
import CodeHealth.Go.Tree
import CodeHealth.Go.Types
import CodeHealth.Go.Walk
import CodeHealth.Language
import CodeHealth.Main
import CodeHealth.Outline.CSharp
import CodeHealth.Outline.Decisions
import CodeHealth.Outline.Java
import CodeHealth.Outline.Php
import CodeHealth.Outline.Profile
import CodeHealth.Outline.Python
import CodeHealth.Outline.Ruby
import CodeHealth.Outline.Rust
import CodeHealth.Outline.Span
import CodeHealth.Outline.TypeScript
import CodeHealth.Outline.Unused
import CodeHealth.Path
import CodeHealth.Pattern
import CodeHealth.Project
import CodeHealth.Proofs.Blocks
import CodeHealth.Proofs.Braces
import CodeHealth.Proofs.ByteOrder
import CodeHealth.Proofs.Calls
import CodeHealth.Proofs.Concatenation
import CodeHealth.Proofs.DecisionPlaces
import CodeHealth.Proofs.Declarations
import CodeHealth.Proofs.Detection
import CodeHealth.Proofs.Discovery
import CodeHealth.Proofs.Files
import CodeHealth.Proofs.FreshnessScores
import CodeHealth.Proofs.GoMod
import CodeHealth.Proofs.IdleLines
import CodeHealth.Proofs.Incremental
import CodeHealth.Proofs.Indentation
import CodeHealth.Proofs.Isolation
import CodeHealth.Proofs.Keyed
import CodeHealth.Proofs.LineEnds
import CodeHealth.Proofs.Location
import CodeHealth.Proofs.Lookups
import CodeHealth.Proofs.Measures
import CodeHealth.Proofs.ModuleAddresses
import CodeHealth.Proofs.ModuleComments
import CodeHealth.Proofs.ModuleGrammar
import CodeHealth.Proofs.Occurrences
import CodeHealth.Proofs.Overlay
import CodeHealth.Proofs.PackageTables
import CodeHealth.Proofs.Paths
import CodeHealth.Proofs.Patterns
import CodeHealth.Proofs.Preorder
import CodeHealth.Proofs.Project
import CodeHealth.Proofs.Records
import CodeHealth.Proofs.References
import CodeHealth.Proofs.Replacement
import CodeHealth.Proofs.RequirementLines
import CodeHealth.Proofs.Results
import CodeHealth.Proofs.Rules
import CodeHealth.Proofs.Scores
import CodeHealth.Proofs.Session
import CodeHealth.Proofs.SpanLocality
import CodeHealth.Proofs.Spans
import CodeHealth.Proofs.Staleness
import CodeHealth.Proofs.Text
import CodeHealth.Proofs.Traversal
import CodeHealth.Proofs.Unused
import CodeHealth.Proofs.Violations
import CodeHealth.Proofs.WalkOrder
import CodeHealth.Proofs.Words
import CodeHealth.Score
import CodeHealth.Score.Number
import CodeHealth.Session
import CodeHealth.Settings
import CodeHealth.Settings.Reading
import CodeHealth.Snapshot
import CodeHealth.Text.Class
import CodeHealth.Text.Lines
import CodeHealth.Text.LowerCase
import CodeHealth.Text.Property.Alphabetic
import CodeHealth.Text.Property.CaseIgnorable
import CodeHealth.Text.Property.Cased
import CodeHealth.Text.Property.Decimal
import CodeHealth.Text.Property.Lowercase
import CodeHealth.Text.Property.Mark
import CodeHealth.Text.Property.NameContinue
import CodeHealth.Text.Property.NameStart
import CodeHealth.Text.Property.Numeric
import CodeHealth.Text.Property.Recent
import CodeHealth.Text.Property.Uppercase
import CodeHealth.Text.Ranges
import CodeHealth.Text.Search
import CodeHealth.Text.Utf8
import CodeHealth.Text.Words
import CodeHealth.Time.Instant
