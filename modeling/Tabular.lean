import Tabular.Analysis.Complexity
import Tabular.Analysis.Issue
import Tabular.Analysis.Naming
import Tabular.Analysis.Pattern
import Tabular.Analysis.Quality
import Tabular.Analysis.Recommendation
import Tabular.Analysis.Report
import Tabular.Cache.Recency
import Tabular.Cache.Store
import Tabular.Command.Arguments
import Tabular.Command.Format
import Tabular.Command.Run
import Tabular.Command.View
import Tabular.Config.File
import Tabular.Config.Node
import Tabular.Config.Settings
import Tabular.Decimal.Binary
import Tabular.Decimal.Read
import Tabular.Decimal.Shortest
import Tabular.Decimal.Text
import Tabular.Encoding.Decode
import Tabular.Encoding.Utf16
import Tabular.Encoding.Utf8
import Tabular.Export
import Tabular.Files.Memory
import Tabular.Files.Path
import Tabular.Files.Source
import Tabular.Files.Tree
import Tabular.Formula.Call
import Tabular.Formula.Literal
import Tabular.Formula.Mask
import Tabular.Formula.Nesting
import Tabular.Formula.Reference
import Tabular.Formula.Strip
import Tabular.Formula.Vocabulary
import Tabular.Graph.Basic
import Tabular.Graph.Cycle
import Tabular.Graph.Depth
import Tabular.Graph.Edge
import Tabular.Graph.Statistics
import Tabular.Json.Basic
import Tabular.Json.View
import Tabular.Main
import Tabular.Model.Basic
import Tabular.Model.Failure
import Tabular.Model.Lookup
import Tabular.Project.Assembly
import Tabular.Project.Loader
import Tabular.Proofs.Graph.Build
import Tabular.Proofs.Graph.Cycles
import Tabular.Proofs.Graph.Discovery
import Tabular.Proofs.Graph.Entries
import Tabular.Proofs.Graph.Report
import Tabular.Proofs.Graph.Search
import Tabular.Proofs.Text.Integer
import Tabular.Proofs.Text.Lines
import Tabular.Proofs.Text.Quoted
import Tabular.Proofs.Text.Trim
import Tabular.Proofs.Tmdl.Block
import Tabular.Proofs.Tmdl.Body
import Tabular.Proofs.Tmdl.Draft
import Tabular.Proofs.Tmdl.Effect
import Tabular.Proofs.Tmdl.Expression
import Tabular.Proofs.Tmdl.Heading
import Tabular.Proofs.Tmdl.Indentation
import Tabular.Proofs.Tmdl.Line
import Tabular.Proofs.Tmdl.Outline
import Tabular.Proofs.Tmdl.Passage
import Tabular.Proofs.Tmdl.Record
import Tabular.Proofs.Tmdl.Rendering
import Tabular.Proofs.Tmdl.Reword
import Tabular.Proofs.Tmdl.Stanza
import Tabular.Proofs.Tmdl.Table
import Tabular.Terminal.Colours
import Tabular.Terminal.Layout
import Tabular.Terminal.Style
import Tabular.Text.Ascii
import Tabular.Text.Blank
import Tabular.Text.CaseTable
import Tabular.Text.CodePoint
import Tabular.Text.Integer
import Tabular.Text.Letter
import Tabular.Text.LetterCase
import Tabular.Text.Lines
import Tabular.Text.Quoted
import Tabular.Text.Search
import Tabular.Text.Utf8
import Tabular.Tmdl.Expression
import Tabular.Tmdl.Fence
import Tabular.Tmdl.Line
import Tabular.Tmdl.ModelName
import Tabular.Tmdl.Property
import Tabular.Tmdl.Relationship
import Tabular.Tmdl.Table
import Tabular.Toml.Document
import Tabular.Toml.Moment
import Tabular.Toml.Number
import Tabular.Toml.Quoted
import Tabular.Toml.Settings
import Tabular.Toml.Table
import Tabular.Yaml.Cursor
import Tabular.Yaml.Document
import Tabular.Yaml.Scalar
import Tabular.Yaml.Token
import Tabular.Proofs.Cache.Reference
import Tabular.Proofs.Cache.Refinement
import Tabular.Proofs.Formula.Bracket
import Tabular.Proofs.Text.LetterCase
import Tabular.Proofs.Tmdl.Relationship
import Tabular.Proofs.Graph.Node
import Tabular.Proofs.Analysis.Counts
import Tabular.Proofs.Graph.Lookup
import Tabular.Proofs.Analysis.Invisible
import Tabular.Proofs.Cache.Store
import Tabular.Proofs.Formula.Contents
import Tabular.Proofs.Formula.Enclosed
import Tabular.Proofs.Formula.Match
import Tabular.Proofs.Formula.Token
import Tabular.Proofs.Graph.Depth
import Tabular.Proofs.Graph.Rearrangement
import Tabular.Proofs.Graph.Separate
import Tabular.Proofs.Project.Session
import Tabular.Proofs.Text.Search
import Tabular.Proofs.Text.Utf8
import Tabular.Proofs.Analysis.Score
import Tabular.Proofs.Graph.Chain
import Tabular.Proofs.Graph.Repeated
import Tabular.Proofs.Formula.Reported
import Tabular.Proofs.Formula.Lexeme
import Tabular.Proofs.Formula.Called
import Tabular.Proofs.Formula.Parenthesis
import Tabular.Proofs.Formula.Piece
import Tabular.Proofs.Formula.LoneName
import Tabular.Proofs.Formula.Sum
import Tabular.Proofs.Analysis.Division
import Tabular.Proofs.Analysis.Growth
import Tabular.Proofs.Files.Memory
import Tabular.Proofs.Project.Absent
import Tabular.Proofs.Formula.CallRow
import Tabular.Proofs.Formula.Constant
import Tabular.Proofs.Analysis.Rule
import Tabular.Proofs.Analysis.Suggestion
import Tabular.Proofs.Analysis.Keyword
import Tabular.Proofs.Analysis.Isolated
import Tabular.Proofs.Export
import Tabular.Proofs.Graph.Unused
import Tabular.Proofs.Analysis.Quality
import Tabular.Proofs.Tmdl.Ignored
import Tabular.Proofs.Encoding.Decode
import Tabular.Proofs.Formula.Stripped
import Tabular.Proofs.Formula.Offset
import Tabular.Proofs.Tmdl.Dedent
