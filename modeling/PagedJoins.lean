import PagedJoins.Binary.Basic
import PagedJoins.Binary.Layout
import PagedJoins.Binary.Numeral
import PagedJoins.Binary.Rounding
import PagedJoins.Binary.Shortest
import PagedJoins.Compile.Fragment
import PagedJoins.Compile.Link
import PagedJoins.Compile.Relation
import PagedJoins.Compile.Tree
import PagedJoins.Error
import PagedJoins.Json.Numeral
import PagedJoins.Json.Reader
import PagedJoins.Json.Record
import PagedJoins.Json.Text
import PagedJoins.Outcome
import PagedJoins.Page.Cursor
import PagedJoins.Page.Keyset
import PagedJoins.Page.Offset
import PagedJoins.Page.OffsetCursor
import PagedJoins.Page.Paging
import PagedJoins.Page.Policy
import PagedJoins.Page.Seek
import PagedJoins.Page.Traversal
import PagedJoins.Proofs.Json.Gives
import PagedJoins.Proofs.Json.Numeral
import PagedJoins.Proofs.Json.Reading
import PagedJoins.Proofs.Json.Text
import PagedJoins.Proofs.Page.Cursor
import PagedJoins.Proofs.Page.Decoded
import PagedJoins.Proofs.Page.RowOrder
import PagedJoins.Proofs.Text.Base64
import PagedJoins.Proofs.Text.Numeral
import PagedJoins.Proofs.Value.ExactOrder
import PagedJoins.Proofs.Value.Json
import PagedJoins.Relation.Args
import PagedJoins.Relation.Column
import PagedJoins.Relation.Inspect
import PagedJoins.Relation.Node
import PagedJoins.Relation.Template
import PagedJoins.Sql.Batch
import PagedJoins.Sql.Cast
import PagedJoins.Sql.Condition
import PagedJoins.Sql.Conditions
import PagedJoins.Sql.Dialect
import PagedJoins.Sql.Identifier
import PagedJoins.Sql.Join
import PagedJoins.Sql.Literal
import PagedJoins.Sql.Order
import PagedJoins.Sql.PagedSelect
import PagedJoins.Sql.Window
import PagedJoins.Text.Base64
import PagedJoins.Text.Blank
import PagedJoins.Text.CharTable
import PagedJoins.Text.Decimal
import PagedJoins.Text.DecimalDigit
import PagedJoins.Text.Inspect
import PagedJoins.Text.Printable
import PagedJoins.Text.Quoted
import PagedJoins.Text.Utf8
import PagedJoins.Value.Basic
import PagedJoins.Value.Json
import PagedJoins.Value.Order
import PagedJoins.Proofs.Page.Traversal
import PagedJoins.Proofs.Binary.Layout
import PagedJoins.Proofs.Binary.Rounding
import PagedJoins.Proofs.Sql.Literal
import PagedJoins.Proofs.Sql.LiteralForm
import PagedJoins.Proofs.Sql.Quoting
import PagedJoins.Proofs.Sql.Shape
import PagedJoins.Proofs.Sql.Truth
import PagedJoins.Proofs.Sql.Reading
import PagedJoins.Proofs.Page.Seek
import PagedJoins.Proofs.Compile.Answers
import PagedJoins.Proofs.Compile.Conditions
import PagedJoins.Proofs.Compile.Protocol
import PagedJoins.Proofs.Compile.Shape
import PagedJoins.Proofs.Compile.Walk
import PagedJoins.Proofs.Compile.Clause
import PagedJoins.Proofs.Compile.Rounds
import PagedJoins.Proofs.Sql.Window
import PagedJoins.Proofs.Page.OffsetCursor
import PagedJoins.Proofs.Page.Tiling
import PagedJoins.Proofs.Page.Request
import PagedJoins.Proofs.Compile.Scope
import PagedJoins.Proofs.Compile.Dialects
import PagedJoins.Proofs.Compile.Blank
import PagedJoins.Proofs.Compile.Paged
import PagedJoins.Proofs.Sql.Lexeme
import PagedJoins.Proofs.Sql.Precedence
import PagedJoins.Proofs.Sql.Conjunction
import PagedJoins.Proofs.Sql.Conditions
import PagedJoins.Proofs.Sql.Composed
import PagedJoins.Proofs.Compile.Span
import PagedJoins.Proofs.Compile.Layout
import PagedJoins.Proofs.Page.SeekOrder
import PagedJoins.Proofs.Value.Decimal
import PagedJoins.Proofs.Page.FloatCursor
import PagedJoins.Proofs.Page.Alignment
import PagedJoins.Proofs.Sql.Identifier
import PagedJoins.Proofs.Text.Listing
import PagedJoins.Proofs.Sql.Batch
import PagedJoins.Proofs.Compile.Batch
