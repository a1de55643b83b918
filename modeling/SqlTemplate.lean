import SqlTemplate.Text.CodeRange
import SqlTemplate.Text.Word
import SqlTemplate.Text.Printable
import SqlTemplate.Text.Quoted
import SqlTemplate.Scalar.Double
import SqlTemplate.Scalar.Decimal
import SqlTemplate.Scalar.ExactDecimal
import SqlTemplate.Value.Kind
import SqlTemplate.Value.Basic
import SqlTemplate.Value.Key
import SqlTemplate.Value.Written
import SqlTemplate.Value.Conversion
import SqlTemplate.Error
import SqlTemplate.NamedValues
import SqlTemplate.Template.Placeholder
import SqlTemplate.Template.Block
import SqlTemplate.Template.Rendering
import SqlTemplate.Dialect.Basic
import SqlTemplate.Dialect.Detection
import SqlTemplate.LogRecord
import SqlTemplate.Connection.Trace
import SqlTemplate.Connection.Basic
import SqlTemplate.Connection.Row
import SqlTemplate.Statement.Assignment
import SqlTemplate.Statement.Basic
import SqlTemplate.Database
import SqlTemplate.Query
import SqlTemplate.Table.Sql
import SqlTemplate.Table.Basic
import SqlTemplate.Session.Reply
import SqlTemplate.Session.Basic
import SqlTemplate.Proofs.Exchange
import SqlTemplate.Proofs.Rounding
import SqlTemplate.Proofs.Conversions
import SqlTemplate.Proofs.Refusals
import SqlTemplate.Proofs.Slots
import SqlTemplate.Proofs.Course
import SqlTemplate.Proofs.Handover
import SqlTemplate.Proofs.QueryBinding
import SqlTemplate.Proofs.TableBinding
import SqlTemplate.Proofs.SlotHistory
import SqlTemplate.Proofs.SessionSteps
import SqlTemplate.Proofs.CursorScope
import SqlTemplate.Proofs.Scanning
import SqlTemplate.Proofs.PercentReading
import SqlTemplate.Proofs.Confinement
import SqlTemplate.Proofs.NamedStatements
import SqlTemplate.Proofs.Agreement
import SqlTemplate.Proofs.Closing
import SqlTemplate.Proofs.Junctions
import SqlTemplate.Proofs.TemplateParts
import SqlTemplate.Proofs.FirstFailure
import SqlTemplate.Proofs.Contributions
import SqlTemplate.Proofs.StepEvents
import SqlTemplate.Proofs.Ownership
import SqlTemplate.Proofs.LogAccount
import SqlTemplate.Proofs.BlockListing
import SqlTemplate.Proofs.DriverValues
import SqlTemplate.Proofs.ReportedRefusals
import SqlTemplate.Proofs.NearestNumbers
import SqlTemplate.Proofs.SinglePrecision
import SqlTemplate.Proofs.RowMapping
import SqlTemplate.Proofs.RewrittenTexts
import SqlTemplate.Proofs.NameMarkers
import SqlTemplate.Proofs.Passes
import SqlTemplate.Proofs.EarlyRefusals
import SqlTemplate.Proofs.Lines
import SqlTemplate.Proofs.Resolving
import SqlTemplate.Proofs.Segments
