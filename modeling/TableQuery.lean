import TableQuery.Arity
import TableQuery.Calendar
import TableQuery.ClientError
import TableQuery.ColumnDetails
import TableQuery.Connection
import TableQuery.DataType
import TableQuery.DataType.Json
import TableQuery.Ddl
import TableQuery.Dialect
import TableQuery.EditDistance
import TableQuery.ExecutionMode
import TableQuery.Expr.Basic
import TableQuery.Expr.Build
import TableQuery.Expr.Inspect
import TableQuery.Fault.Basic
import TableQuery.Fault.Code
import TableQuery.Fault.Context
import TableQuery.Fault.OfSqlError
import TableQuery.Identifier.Basic
import TableQuery.Identifier.Reserved
import TableQuery.Json.Basic
import TableQuery.Json.Decode
import TableQuery.Json.Reader
import TableQuery.Json.Writer
import TableQuery.Literal
import TableQuery.Literal.Json
import TableQuery.LoadMethod
import TableQuery.Number.Binary64
import TableQuery.Number.Reading
import TableQuery.Number.Shortest
import TableQuery.Number.Word
import TableQuery.Operation
import TableQuery.Pattern.Basic
import TableQuery.Pattern.Reader
import TableQuery.Plan
import TableQuery.Proofs.Plan.Meaning
import TableQuery.Proofs.Relation.Nodes
import TableQuery.Proofs.Text.Lexeme
import TableQuery.Proofs.Text.Phrase
import TableQuery.QueryText.Quoted
import TableQuery.QueryText.Statement
import TableQuery.QueryText.Terminator
import TableQuery.QueryText.Token
import TableQuery.Relation
import TableQuery.Retry
import TableQuery.Rewrite.Basic
import TableQuery.Rewrite.Template
import TableQuery.Schema
import TableQuery.Scope
import TableQuery.Script.Basic
import TableQuery.Script.Expr
import TableQuery.Script.Relation
import TableQuery.Session.Basic
import TableQuery.Session.Define
import TableQuery.Session.Dialogue
import TableQuery.Session.Function
import TableQuery.Session.Query
import TableQuery.Session.Scripted
import TableQuery.Settings.Basic
import TableQuery.Settings.Check
import TableQuery.Settings.Format
import TableQuery.Settings.Json
import TableQuery.Settings.Load
import TableQuery.Settings.Path
import TableQuery.Settings.Tree
import TableQuery.Spelling.Basic
import TableQuery.Spelling.Standard
import TableQuery.Sql.Clause
import TableQuery.Sql.Expr
import TableQuery.Sql.JoinChain
import TableQuery.Sql.Literal
import TableQuery.Sql.Statement
import TableQuery.SqlError
import TableQuery.Text.Blank
import TableQuery.Text.Casing
import TableQuery.Text.CasingTable
import TableQuery.Text.CharRange
import TableQuery.Text.CombiningTable
import TableQuery.Text.Composition
import TableQuery.Text.DigitTable
import TableQuery.Text.DirectionTable
import TableQuery.Text.GlyphTable
import TableQuery.Text.Inspect
import TableQuery.Text.LetterTable
import TableQuery.Text.Lines
import TableQuery.Text.Numeral
import TableQuery.TypeName
import TableQuery.Udf
import TableQuery.Url.Address
import TableQuery.Url.Basic
import TableQuery.Url.JoiningTable
import TableQuery.Url.Label
import TableQuery.Url.Mapping
import TableQuery.Url.MappingTable
import TableQuery.Url.Punycode
import TableQuery.Yaml.Block
import TableQuery.Yaml.Cursor
import TableQuery.Yaml.Document
import TableQuery.Yaml.Gap
import TableQuery.Yaml.Layout
import TableQuery.Yaml.Node
import TableQuery.Yaml.Plain
import TableQuery.Yaml.Quoted
import TableQuery.Yaml.Scalar
import TableQuery.Yaml.Tag
import TableQuery.Proofs.Text.Indent
import TableQuery.Proofs.Sql.Atom
import TableQuery.Proofs.Sql.Spelling
import TableQuery.Proofs.Expr.Quotes
import TableQuery.Proofs.Scope.Resolve
import TableQuery.Proofs.Sql.Expr
import TableQuery.Proofs.Sql.Clause
import TableQuery.Proofs.Sql.Statement
import TableQuery.Proofs.Sql.Compile
import TableQuery.Proofs.Relation.Carry
import TableQuery.Proofs.Sql.Progress
import TableQuery.Proofs.Expr.Refs
import TableQuery.Proofs.Script.Identity
import TableQuery.Proofs.Scope.Select
import TableQuery.Proofs.Scope.Sound
import TableQuery.Proofs.Plan.Order
import TableQuery.Proofs.Expr.Context
import TableQuery.Proofs.Sql.Tree
import TableQuery.Proofs.Scope.Alias
import TableQuery.Proofs.Sql.Success
import TableQuery.Proofs.Plan.Columns
import TableQuery.Proofs.Sql.Extension
import TableQuery.Proofs.Sql.Use
import TableQuery.Proofs.Rewrite.Value
import TableQuery.Proofs.Sql.WellFormed
import TableQuery.Proofs.Expr.Canonical
import TableQuery.Proofs.Sql.Reader
import TableQuery.Proofs.Sql.ReaderLaws
import TableQuery.Proofs.Sql.Readback
import TableQuery.Proofs.Sql.Allowance
import TableQuery.Proofs.Sql.Coverage
import TableQuery.Proofs.Scope.Rollback
import TableQuery.Proofs.Sql.Ordinary
import TableQuery.Proofs.Sql.Nesting
import TableQuery.Proofs.Plan.Exports
import TableQuery.Proofs.Session.Lifetime
import TableQuery.Proofs.Numbering.Reuse
import TableQuery.Proofs.Fault.RoundTrip
import TableQuery.Proofs.Session.Statement
import TableQuery.Proofs.Scope.View
import TableQuery.Proofs.Sql.Truncation
import TableQuery.Proofs.Condition.Clause
import TableQuery.Proofs.Scope.Joined
import TableQuery.Proofs.Sql.Chain
import TableQuery.Proofs.Number.Shortest
import TableQuery.Proofs.Sql.Name
import TableQuery.Proofs.Scope.Order
import TableQuery.Proofs.Scope.Group
import TableQuery.Proofs.Identifier.Token
import TableQuery.Proofs.Sql.Literal
import TableQuery.Proofs.Session.Database
import TableQuery.Proofs.QueryText.Leftover
import TableQuery.Proofs.EditDistance.Nearest
import TableQuery.Proofs.Retry
import TableQuery.Proofs.Ddl
import TableQuery.Proofs.Udf
import TableQuery.Proofs.Sql.Wrapping
import TableQuery.Proofs.Ddl.Encoding
import TableQuery.Proofs.Fault.Code
import TableQuery.Proofs.EditDistance.Table
import TableQuery.Proofs.Expr.Traversal
