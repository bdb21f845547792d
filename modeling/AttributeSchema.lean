import AttributeSchema.Acceptance.Check
import AttributeSchema.Acceptance.Error
import AttributeSchema.Acceptance.Fixture
import AttributeSchema.Acceptance.Mode
import AttributeSchema.Acceptance.Script
import AttributeSchema.Acceptance.Snapshot
import AttributeSchema.Acceptance.Step
import AttributeSchema.Attribute.Conversion
import AttributeSchema.Attribute.Schema
import AttributeSchema.Attribute.Value
import AttributeSchema.CommandLine
import AttributeSchema.Descriptor.Basic
import AttributeSchema.Descriptor.Bundled
import AttributeSchema.Descriptor.Describe
import AttributeSchema.Descriptor.Json
import AttributeSchema.Diagnostic
import AttributeSchema.Files.FileTree
import AttributeSchema.Files.PathText
import AttributeSchema.Generator.Error
import AttributeSchema.Generator.HolderType
import AttributeSchema.Generator.KnownTypes
import AttributeSchema.Generator.Mapping
import AttributeSchema.Generator.Naming
import AttributeSchema.Generator.Output
import AttributeSchema.Generator.RootModule
import AttributeSchema.Generator.SchemaFunction
import AttributeSchema.Generator.Spelled
import AttributeSchema.Generator.UnitModule
import AttributeSchema.Generator.Validation
import AttributeSchema.Generator.Write
import AttributeSchema.IntKind
import AttributeSchema.Json.Binary64
import AttributeSchema.Json.Failure
import AttributeSchema.Json.Maps
import AttributeSchema.Json.Printer
import AttributeSchema.Json.Reader
import AttributeSchema.Json.Scan
import AttributeSchema.Json.Value
import AttributeSchema.Main
import AttributeSchema.Pattern.Automaton
import AttributeSchema.Pattern.Basic
import AttributeSchema.Pattern.CharSet
import AttributeSchema.Pattern.Reader
import AttributeSchema.Record.Bundled
import AttributeSchema.Record.Decode
import AttributeSchema.Record.Document
import AttributeSchema.Record.Holder
import AttributeSchema.Record.Shape
import AttributeSchema.Record.Tree
import AttributeSchema.SortedMap
import AttributeSchema.Source.Construct
import AttributeSchema.Source.Fault
import AttributeSchema.Source.Grammar.Basic
import AttributeSchema.Source.Grammar.Expressions
import AttributeSchema.Source.Grammar.Items
import AttributeSchema.Source.Grammar.Patterns
import AttributeSchema.Source.Grammar.Statements
import AttributeSchema.Source.Grammar.Types
import AttributeSchema.Source.Item
import AttributeSchema.Source.Layout
import AttributeSchema.Source.Lexer
import AttributeSchema.Source.Literal
import AttributeSchema.Source.Number
import AttributeSchema.Source.Parser
import AttributeSchema.Source.Reading
import AttributeSchema.Source.Rendering
import AttributeSchema.Source.Rendering.Parts
import AttributeSchema.Source.Rendering.Place
import AttributeSchema.Source.Rendering.Shapes
import AttributeSchema.Source.Rendering.Tokens
import AttributeSchema.Source.Spelling
import AttributeSchema.Source.Syntax
import AttributeSchema.Source.Token
import AttributeSchema.Text.AgeTable
import AttributeSchema.Text.Blank
import AttributeSchema.Text.CaseFolding
import AttributeSchema.Text.Category
import AttributeSchema.Text.CategoryTable
import AttributeSchema.Text.Decimal
import AttributeSchema.Text.Identifier
import AttributeSchema.Text.IdentifierTable
import AttributeSchema.Text.NamedSet
import AttributeSchema.Text.Printable
import AttributeSchema.Text.PrintableTable
import AttributeSchema.Text.Property
import AttributeSchema.Text.PropertyTable
import AttributeSchema.Text.Quoted
import AttributeSchema.Text.Ranges
import AttributeSchema.Text.ScriptTable
import AttributeSchema.Text.Segmentation
import AttributeSchema.Text.Utf8
import AttributeSchema.Text.WordChar
import AttributeSchema.Time.Calendar
import AttributeSchema.Time.Duration
import AttributeSchema.Time.Timestamp
import AttributeSchema.Proofs.Text.Blank
import AttributeSchema.Proofs.Text.Decimal
import AttributeSchema.Proofs.Time.Duration
import AttributeSchema.Proofs.Time.CanonicalDuration
import AttributeSchema.Proofs.Time.Calendar
import AttributeSchema.Proofs.Text.Utf8
import AttributeSchema.Proofs.Time.Timestamp
import AttributeSchema.Proofs.Time.LeapSecond
import AttributeSchema.Proofs.Record.RoundTrip
import AttributeSchema.Proofs.Record.Bundled
import AttributeSchema.Proofs.Record.Conformance
import AttributeSchema.Proofs.Record.Sources
import AttributeSchema.Proofs.Record.Holders
import AttributeSchema.Proofs.Generator.Naming
import AttributeSchema.Proofs.Generator.Mapping
import AttributeSchema.Proofs.Generator.Emission
import AttributeSchema.Proofs.Generator.Contents
import AttributeSchema.Proofs.SortedMap
import AttributeSchema.Proofs.Generator.Foreign
import AttributeSchema.Proofs.Generator.Registry
import AttributeSchema.Proofs.Generator.Crate
import AttributeSchema.Proofs.Generator.Files
import AttributeSchema.Proofs.Generator.Writing
import AttributeSchema.Proofs.Generator.Untagged
import AttributeSchema.Proofs.Generator.Modularity
import AttributeSchema.Proofs.Json.Maps
import AttributeSchema.Proofs.Files.FileTree
import AttributeSchema.Proofs.Acceptance.Snapshot
import AttributeSchema.Proofs.Acceptance.Difference
import AttributeSchema.Proofs.Acceptance.Fixture
import AttributeSchema.Proofs.Acceptance.Discovery
import AttributeSchema.Proofs.Acceptance.Effects
import AttributeSchema.Proofs.Acceptance.Recording
import AttributeSchema.Proofs.Record.Decoding
import AttributeSchema.Proofs.Record.Overlay
import AttributeSchema.Proofs.Time.DurationGrammar
import AttributeSchema.Proofs.Generator.Lookup
import AttributeSchema.Proofs.Time.LongFraction
import AttributeSchema.Proofs.Generator.KnownTypes
import AttributeSchema.Proofs.Generator.NativeTypes
import AttributeSchema.Proofs.Generator.FunctionNames
import AttributeSchema.Proofs.Text.Lines
import AttributeSchema.Proofs.Acceptance.Annotation
import AttributeSchema.Proofs.Json.Trees
import AttributeSchema.Proofs.Descriptor.Json
import AttributeSchema.Proofs.Text.Slices
import AttributeSchema.Proofs.Time.BoundedDuration
import AttributeSchema.Proofs.Source.Layout
import AttributeSchema.Proofs.Source.Literal
import AttributeSchema.Proofs.Generator.Tags
