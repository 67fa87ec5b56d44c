import SqlToolkit.Action
import SqlToolkit.Builder.Compose
import SqlToolkit.Builder.Descriptor
import SqlToolkit.Builder.Execute
import SqlToolkit.Builder.Results
import SqlToolkit.Builder.State
import SqlToolkit.Client.Basic
import SqlToolkit.Client.Statement
import SqlToolkit.Condition
import SqlToolkit.Connect
import SqlToolkit.Connection.Basic
import SqlToolkit.Connection.Scripted
import SqlToolkit.Debug.Entry
import SqlToolkit.Dialect.Basic
import SqlToolkit.Dialect.Columns
import SqlToolkit.Dialect.Delete
import SqlToolkit.Dialect.Registry
import SqlToolkit.Entries
import SqlToolkit.Facade.Basic
import SqlToolkit.Facade.ColumnCache
import SqlToolkit.Facade.CountFields
import SqlToolkit.Fault
import SqlToolkit.Join
import SqlToolkit.Lexer.Pattern
import SqlToolkit.Lexer.Rules
import SqlToolkit.Lexer.Token
import SqlToolkit.Limit
import SqlToolkit.Log
import SqlToolkit.Number.Binary64
import SqlToolkit.Number.Decimal
import SqlToolkit.Number.Numeral
import SqlToolkit.Pages.Links
import SqlToolkit.Pages.Number
import SqlToolkit.Pages.Options
import SqlToolkit.Pages.Pager
import SqlToolkit.Parameters
import SqlToolkit.Rows
import SqlToolkit.Settings.Basic
import SqlToolkit.Settings.OdbcString
import SqlToolkit.Settings.PercentText
import SqlToolkit.Settings.Port
import SqlToolkit.Settings.Url
import SqlToolkit.Statement.ColumnKey
import SqlToolkit.Statement.CountProbe
import SqlToolkit.Statement.Interpolation
import SqlToolkit.Statement.Keyword
import SqlToolkit.Statement.Marker
import SqlToolkit.Statement.Parser
import SqlToolkit.Text.Blank
import SqlToolkit.Text.CaseFold
import SqlToolkit.Text.CaseMap
import SqlToolkit.Text.Digit
import SqlToolkit.Text.Printable
import SqlToolkit.Text.Quoted
import SqlToolkit.Text.Ranges
import SqlToolkit.Text.Scan
import SqlToolkit.Text.Utf8
import SqlToolkit.Text.Word
import SqlToolkit.Text.WordEnd
import SqlToolkit.Value.Attribute
import SqlToolkit.Value.Basic
import SqlToolkit.Value.Binding
import SqlToolkit.Value.Order
import SqlToolkit.Value.Printing
import SqlToolkit.Proofs.Action
import SqlToolkit.Proofs.Written
import SqlToolkit.Proofs.Client.Calls
import SqlToolkit.Proofs.Builder.Bookkeeping
import SqlToolkit.Proofs.Builder.Client
import SqlToolkit.Proofs.Session.Operation
import SqlToolkit.Proofs.Transaction.Frame
import SqlToolkit.Proofs.Transaction.Scope
import SqlToolkit.Proofs.Builder.Execute
import SqlToolkit.Proofs.Transaction.Write
import SqlToolkit.Proofs.Transaction.Lasting
import SqlToolkit.Proofs.Builder.Descriptor
import SqlToolkit.Proofs.Builder.Sending
import SqlToolkit.Proofs.Entries
import SqlToolkit.Proofs.Condition
import SqlToolkit.Proofs.Condition.Freshness
import SqlToolkit.Proofs.Builder.Compose
import SqlToolkit.Proofs.Builder.Rejected
import SqlToolkit.Proofs.Builder.Operation
import SqlToolkit.Proofs.Text.Blank
import SqlToolkit.Proofs.Text.Scan
import SqlToolkit.Proofs.Lexer.Origin
import SqlToolkit.Proofs.Statement.MarkerValues
import SqlToolkit.Proofs.Join
import SqlToolkit.Proofs.Dialect.Rewrite
import SqlToolkit.Proofs.SearchCondition.Truth
import SqlToolkit.Proofs.SearchCondition.Tree
import SqlToolkit.Proofs.SearchCondition.Splice
import SqlToolkit.Proofs.SearchCondition.Reading
import SqlToolkit.Proofs.Condition.Conjunction
import SqlToolkit.Proofs.Condition.Naming
import SqlToolkit.Proofs.Condition.Keyed
import SqlToolkit.Proofs.Dialect.Deletion
import SqlToolkit.Proofs.Dialect.DeletedRows
import SqlToolkit.Proofs.Dialect.JoinDelete
import SqlToolkit.Proofs.Text.Capital
import SqlToolkit.Proofs.Statement.LeadingKeyword
import SqlToolkit.Proofs.Session.Layers
import SqlToolkit.Proofs.Statement.ColumnNames
import SqlToolkit.Proofs.Builder.ColumnWrite
import SqlToolkit.Proofs.Builder.Supplied
import SqlToolkit.Proofs.Connection.Reached
import SqlToolkit.Proofs.Transaction.Settling
import SqlToolkit.Proofs.Session.Autocommit
import SqlToolkit.Proofs.Facade.Call
import SqlToolkit.Proofs.Transaction.Block
import SqlToolkit.Proofs.Connection.Refusal
import SqlToolkit.Proofs.Statement.Interpolation
import SqlToolkit.Proofs.Builder.Sound
import SqlToolkit.Proofs.Builder.Failure
import SqlToolkit.Proofs.Builder.Modes
import SqlToolkit.Proofs.Builder.OneShot
import SqlToolkit.Proofs.Facade.OneShot
import SqlToolkit.Proofs.TwoRuns
import SqlToolkit.Proofs.Connection.Alike
import SqlToolkit.Proofs.Builder.Alike
import SqlToolkit.Proofs.Builder.Past
import SqlToolkit.Proofs.Builder.Rows
import SqlToolkit.Proofs.Builder.Delivery
import SqlToolkit.Proofs.Number.CeilDiv
import SqlToolkit.Proofs.Facade.Selection
import SqlToolkit.Proofs.Number.Numeral
import SqlToolkit.Proofs.Facade.Reading
import SqlToolkit.Proofs.Pages.Sending
import SqlToolkit.Proofs.Text.Pieces
import SqlToolkit.Proofs.Statement.Limited
import SqlToolkit.Proofs.Builder.Reading
import SqlToolkit.Proofs.Pages.Selecting
import SqlToolkit.Proofs.Pages.Figures
import SqlToolkit.Proofs.Text.Substitution
import SqlToolkit.Proofs.Text.Boundary
import SqlToolkit.Proofs.Text.Ampersand
import SqlToolkit.Proofs.Pages.PageParameter
import SqlToolkit.Proofs.Pages.Stripping
import SqlToolkit.Proofs.Pages.LinkRoundTrip
import SqlToolkit.Proofs.Pages.Places
import SqlToolkit.Proofs.Pages.Summary
import SqlToolkit.Proofs.Pages.Source
import SqlToolkit.Proofs.Pages.Tiling
import SqlToolkit.Proofs.Statement.Selecting
import SqlToolkit.Proofs.Pages.Counting
import SqlToolkit.Proofs.Builder.Statements
import SqlToolkit.Proofs.Pages.SharedSource
import SqlToolkit.Proofs.Dialect.Columns
import SqlToolkit.Proofs.Facade.Lookup
import SqlToolkit.Proofs.Builder.InsertId
import SqlToolkit.Proofs.Builder.Captured
import SqlToolkit.Proofs.Builder.Account
import SqlToolkit.Proofs.Builder.PrefixedWrite
import SqlToolkit.Proofs.Settings.OdbcGrammar
import SqlToolkit.Proofs.Connecting
import SqlToolkit.Proofs.Statement.Directives
import SqlToolkit.Proofs.Condition.Allocation
import SqlToolkit.Proofs.Condition.Shapes
import SqlToolkit.Proofs.Statement.CountingForm
import SqlToolkit.Proofs.Builder.Counting
import SqlToolkit.Proofs.Builder.RowCount
import SqlToolkit.Proofs.Builder.CountFrame
import SqlToolkit.Proofs.Connection.Acceptance
import SqlToolkit.Proofs.Builder.RejectedCount
import SqlToolkit.Proofs.Transaction.Raised
import SqlToolkit.Proofs.Text.Phrase
import SqlToolkit.Proofs.Statement.PlainSelect
import SqlToolkit.Proofs.Builder.Trimmed
import SqlToolkit.Proofs.Builder.PlainCount
import SqlToolkit.Proofs.Text.Utf8
import SqlToolkit.Proofs.Pages.Markup
import SqlToolkit.Proofs.Pages.Navigation
import SqlToolkit.Proofs.Settings.PercentText
import SqlToolkit.Proofs.Settings.UrlRoundTrip
import SqlToolkit.Proofs.Value.Order
import SqlToolkit.Proofs.Value.Literal
import SqlToolkit.Proofs.Statement.MarkerPasses
import SqlToolkit.Proofs.Statement.Template
import SqlToolkit.Proofs.Statement.QuestionMarks
import SqlToolkit.Proofs.Statement.Simultaneous
import SqlToolkit.Proofs.Dialect.TableName
import SqlToolkit.Proofs.Limit
import SqlToolkit.Proofs.Builder.FirstWord
import SqlToolkit.Proofs.Statement.ImplicitCommit
import SqlToolkit.Proofs.Builder.ImplicitCommit
import SqlToolkit.Proofs.Parameters
import SqlToolkit.Proofs.Settings.Password
import SqlToolkit.Proofs.Facade.CountFields
