import SourceChunks.Chunk.Basic
import SourceChunks.Chunk.Enriched
import SourceChunks.Chunk.Id
import SourceChunks.Chunk.Report
import SourceChunks.CommandLine.Arguments
import SourceChunks.CommandLine.Run
import SourceChunks.Context.Analysis
import SourceChunks.Context.Basic
import SourceChunks.Context.Domain
import SourceChunks.Cutting.Breakpoints
import SourceChunks.Cutting.Declarations
import SourceChunks.Cutting.Plain
import SourceChunks.Cutting.Windows
import SourceChunks.Decimal.Binary64
import SourceChunks.Decimal.Reading
import SourceChunks.Decimal.Rounding
import SourceChunks.Decimal.Shortest
import SourceChunks.Enrichment
import SourceChunks.Failure
import SourceChunks.Kind.Semantic
import SourceChunks.Language.Basic
import SourceChunks.Language.Detection
import SourceChunks.Line.Basic
import SourceChunks.Line.Counts
import SourceChunks.Log
import SourceChunks.Main
import SourceChunks.Metrics.Classification
import SourceChunks.Metrics.Complexity
import SourceChunks.Metrics.Dependencies
import SourceChunks.Metrics.Signals
import SourceChunks.Outline.Blocks
import SourceChunks.Outline.Braces
import SourceChunks.Outline.Declarations
import SourceChunks.Outline.Indentation
import SourceChunks.Outline.Node
import SourceChunks.Outline.Recogniser
import SourceChunks.Outline.Report
import SourceChunks.Path
import SourceChunks.Pattern.Basic
import SourceChunks.Pattern.Building
import SourceChunks.Pattern.Scan
import SourceChunks.Pipeline
import SourceChunks.Proofs.Lines
import SourceChunks.Quality.Assessment
import SourceChunks.Quality.Basic
import SourceChunks.Quality.Debt
import SourceChunks.Quality.Loops
import SourceChunks.Quality.Rules
import SourceChunks.Quality.Scores
import SourceChunks.Relation.Analysis
import SourceChunks.Relation.Basic
import SourceChunks.Relation.Graph
import SourceChunks.Relation.Imports
import SourceChunks.Relation.Index
import SourceChunks.Relation.Names
import SourceChunks.Relation.Passes
import SourceChunks.Relation.Report
import SourceChunks.Scope.Header
import SourceChunks.Scope.Tree
import SourceChunks.Settings.Basic
import SourceChunks.Settings.Environment
import SourceChunks.Store.Basic
import SourceChunks.Store.Chunks
import SourceChunks.Store.FileTree
import SourceChunks.Strategy.ContextAware
import SourceChunks.Strategy.Contextual
import SourceChunks.Strategy.Draft
import SourceChunks.Strategy.Hierarchical
import SourceChunks.Strategy.Registry
import SourceChunks.Strategy.Semantic
import SourceChunks.Syntax.Declared
import SourceChunks.Syntax.Indented
import SourceChunks.Syntax.LogicalLine
import SourceChunks.Syntax.Reader
import SourceChunks.Syntax.Rule
import SourceChunks.Syntax.Script.Lexical
import SourceChunks.Syntax.Script.Rules
import SourceChunks.Syntax.StringPart
import SourceChunks.Syntax.Token
import SourceChunks.Syntax.Tree
import SourceChunks.Syntax.Typed.Lexical
import SourceChunks.Syntax.Typed.Rules
import SourceChunks.Text.Basic
import SourceChunks.Text.Blank
import SourceChunks.Text.CharacterSet.Basic
import SourceChunks.Text.CharacterSet.Big5
import SourceChunks.Text.CharacterSet.Gb2312
import SourceChunks.Text.CharacterSet.JisX0208
import SourceChunks.Text.CharacterSet.JisX0212
import SourceChunks.Text.CharacterSet.KsX1001
import SourceChunks.Text.CodePage
import SourceChunks.Text.Digit
import SourceChunks.Text.Encoding
import SourceChunks.Text.Escaped
import SourceChunks.Text.Lowercase
import SourceChunks.Text.Multibyte
import SourceChunks.Text.NameChar
import SourceChunks.Text.Printable
import SourceChunks.Text.Quoted
import SourceChunks.Text.RangeTable
import SourceChunks.Text.Utf16
import SourceChunks.Text.Utf32
import SourceChunks.Text.Utf7
import SourceChunks.Text.Utf8
import SourceChunks.Text.WordChar
import SourceChunks.Validation.Checks
import SourceChunks.Validation.Finding
import SourceChunks.Validation.Report
import SourceChunks.Validation.Summary
import SourceChunks.Validation.Unchecked
import SourceChunks.Value.Basic
import SourceChunks.Value.Comparison
import SourceChunks.Value.Display
import SourceChunks.Value.Json
import SourceChunks.Value.JsonReading
import SourceChunks.Proofs.ScopePass
import SourceChunks.Proofs.ScopeForest
import SourceChunks.Proofs.Identities
import SourceChunks.Proofs.IndentNesting
import SourceChunks.Proofs.Outlines
import SourceChunks.Proofs.Windows
import SourceChunks.Proofs.Gaps
import SourceChunks.Proofs.Pieces
import SourceChunks.Proofs.PlainChunks
import SourceChunks.Proofs.Distinct
import SourceChunks.Proofs.Outcomes
import SourceChunks.Proofs.RelationRules
import SourceChunks.Proofs.FileRelations
import SourceChunks.Proofs.Linked
import SourceChunks.Proofs.LinkedPipeline
import SourceChunks.Proofs.Relabelling
import SourceChunks.Proofs.Renaming
import SourceChunks.Proofs.Snapshots
import SourceChunks.Proofs.Texts
import SourceChunks.Proofs.WindowPartition
import SourceChunks.Proofs.EnrichedTwice
import SourceChunks.Proofs.BatchOrder
import SourceChunks.Proofs.SoundChunks
import SourceChunks.Proofs.SoundPipeline
import SourceChunks.Proofs.Matching
import SourceChunks.Proofs.Mentions
import SourceChunks.Proofs.Graphs
import SourceChunks.Proofs.BatchGraph
import SourceChunks.Proofs.Dependents
import SourceChunks.Proofs.ScopeLinks
import SourceChunks.Proofs.ContextLinks
import SourceChunks.Proofs.BracedOutline
import SourceChunks.Proofs.Confinement
import SourceChunks.Proofs.Headers
import SourceChunks.Proofs.IndentedOutline
import SourceChunks.Proofs.SharedDecorators
import SourceChunks.Proofs.KeptDeclarations
import SourceChunks.Proofs.DeclarationParts
import SourceChunks.Proofs.LargeWindows
import SourceChunks.Proofs.SplitSizes
import SourceChunks.Proofs.SharedContext
import SourceChunks.Proofs.ChunkSizes
import SourceChunks.Proofs.FixedWindows
import SourceChunks.Proofs.MutualRelations
import SourceChunks.Proofs.GraphRuns
import SourceChunks.Proofs.ImportFailures
import SourceChunks.Proofs.ImportPaths
import SourceChunks.Proofs.EvidenceLines
import SourceChunks.Proofs.TreePlaces
import SourceChunks.Proofs.TreeSearch
import SourceChunks.Proofs.NestedLoops
import SourceChunks.Proofs.MostFrequent
import SourceChunks.Proofs.IdRequests
