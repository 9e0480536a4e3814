import PreparedSql.Text.Blank
import PreparedSql.Text.Hex
import PreparedSql.Text.BigEndian
import PreparedSql.Decimal.Integer
import PreparedSql.Decimal.Shortest
import PreparedSql.Decimal.Layout
import PreparedSql.Ieee.Format
import PreparedSql.Ieee.Binary
import PreparedSql.Ieee.Scaling
import PreparedSql.Time.Date
import PreparedSql.Time.Instant
import PreparedSql.Time.Rfc3339
import PreparedSql.Uuid
import PreparedSql.Json.Basic
import PreparedSql.Json.Printer
import PreparedSql.Json.Reader
import PreparedSql.Value.Basic
import PreparedSql.Value.Conversion
import PreparedSql.Value.Document
import PreparedSql.Value.ParamType
import PreparedSql.Value.Encoding
import PreparedSql.Comparison
import PreparedSql.Fault
import PreparedSql.Error
import PreparedSql.Fragment
import PreparedSql.Predicate.Basic
import PreparedSql.Predicate.Render
import PreparedSql.Predicate.Build
import PreparedSql.Predicate.Growth
import PreparedSql.Assignment
import PreparedSql.Statement.Basic
import PreparedSql.Statement.Render
import PreparedSql.Statement.Chain
import PreparedSql.Page.Request
import PreparedSql.Page.Result
import PreparedSql.Event
import PreparedSql.Prepared
import PreparedSql.Session.Row
import PreparedSql.Session.Client
import PreparedSql.Session.Connection
import PreparedSql.Session.Execution
import PreparedSql.Session.Paging
import PreparedSql.Session.Script
import PreparedSql.Duration
import PreparedSql.Retry
import PreparedSql.Proofs.Template.Basic
import PreparedSql.Proofs.Template.Predicate
import PreparedSql.Proofs.Template.Statement
import PreparedSql.Proofs.Statement.Numbering
import PreparedSql.Proofs.Statement.Redaction
import PreparedSql.Proofs.Template.Redaction
import PreparedSql.Proofs.Statement.Separation
import PreparedSql.Proofs.Predicate.Leaves
import PreparedSql.Proofs.Predicate.Condition
import PreparedSql.Proofs.Predicate.Readable
import PreparedSql.Proofs.Predicate.Reading
import PreparedSql.Proofs.Predicate.Truth
import PreparedSql.Proofs.Predicate.Writable
import PreparedSql.Proofs.Predicate.Bound
import PreparedSql.Proofs.Predicate.Relocation
import PreparedSql.Proofs.Predicate.Build
import PreparedSql.Proofs.Predicate.Grouping
import PreparedSql.Proofs.Statement.Prefixes
import PreparedSql.Proofs.Statement.BoundValues
import PreparedSql.Proofs.Statement.Extension
import PreparedSql.Proofs.Statement.Assignments
import PreparedSql.Proofs.Statement.ClauseOrder
import PreparedSql.Proofs.Statement.Grammar
import PreparedSql.Proofs.Statement.Precedence
import PreparedSql.Proofs.Statement.Legality
import PreparedSql.Proofs.Page.Prepared
import PreparedSql.Proofs.Page.Changes
import PreparedSql.Proofs.Page.Count
import PreparedSql.Proofs.Page.Exchange
import PreparedSql.Proofs.Page.Window
import PreparedSql.Proofs.Retry.Delay
import PreparedSql.Proofs.Retry.Attempts
import PreparedSql.Proofs.Session.Failures
import PreparedSql.Proofs.Session.Conversions
import PreparedSql.Proofs.Session.Conflict
import PreparedSql.Proofs.Session.EntryPoints
import PreparedSql.Proofs.Ieee.Exact
import PreparedSql.Proofs.Ieee.Fields
import PreparedSql.Proofs.Time.Rfc3339
import PreparedSql.Proofs.Time.Order
import PreparedSql.Proofs.Value.Document
import PreparedSql.Proofs.Value.Buffer
import PreparedSql.Proofs.Value.Integers
import PreparedSql.Proofs.Value.Floats
import PreparedSql.Proofs.Value.Timestamps
import PreparedSql.Proofs.Value.Binding
