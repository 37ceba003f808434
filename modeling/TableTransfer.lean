import TableTransfer.Arithmetic
import TableTransfer.Binary.Basic
import TableTransfer.Binary.Reader
import TableTransfer.Binary.Shortest
import TableTransfer.Calendar.Basic
import TableTransfer.Calendar.Internet
import TableTransfer.Calendar.Printer
import TableTransfer.Calendar.Reader
import TableTransfer.CommandLine.Help
import TableTransfer.CommandLine.Options
import TableTransfer.CommandLine.Request
import TableTransfer.CommandLine.Run
import TableTransfer.Config.Basic
import TableTransfer.Config.Validation
import TableTransfer.Decimal.Basic
import TableTransfer.Decimal.Binary
import TableTransfer.Decimal.Rescale
import TableTransfer.Decimal.Text
import TableTransfer.Decimal.Unscaled
import TableTransfer.Dialect.Basic
import TableTransfer.Dialect.Catalog
import TableTransfer.Dialect.Db2
import TableTransfer.Dialect.MySql
import TableTransfer.Dialect.MySqlSource
import TableTransfer.Dialect.Oracle
import TableTransfer.Dialect.Postgres
import TableTransfer.Dialect.SqlServer
import TableTransfer.Dialect.Values
import TableTransfer.Document.Basic
import TableTransfer.Document.Json
import TableTransfer.Document.JsonReader
import TableTransfer.Document.Members
import TableTransfer.Document.Plain
import TableTransfer.Document.Settled
import TableTransfer.Document.Yaml.Input
import TableTransfer.Document.Yaml.Reader
import TableTransfer.Document.Yaml.Scalar
import TableTransfer.Document.Yaml.Token
import TableTransfer.Error
import TableTransfer.FieldReader
import TableTransfer.FieldWriter
import TableTransfer.Identifier
import TableTransfer.Inference
import TableTransfer.Main
import TableTransfer.Marshaller
import TableTransfer.Memory.Connection
import TableTransfer.Memory.Cursor
import TableTransfer.Memory.Statement
import TableTransfer.Param
import TableTransfer.Proofs.Binary.Nearest
import TableTransfer.Proofs.Binary.Widen
import TableTransfer.Proofs.Calendar.Civil
import TableTransfer.Proofs.Calendar.Internet
import TableTransfer.Proofs.Calendar.Spaced
import TableTransfer.Proofs.Catalog.Advertised
import TableTransfer.Proofs.Catalog.Registered
import TableTransfer.Proofs.Catalog.Resolved
import TableTransfer.Proofs.Config.Accepted
import TableTransfer.Proofs.Cursor.Agreement
import TableTransfer.Proofs.Cursor.Read
import TableTransfer.Proofs.Cursor.Rows
import TableTransfer.Proofs.Decimal.Exact
import TableTransfer.Proofs.Decimal.Numeral
import TableTransfer.Proofs.Decimal.Places
import TableTransfer.Proofs.Decimal.Power
import TableTransfer.Proofs.Decimal.Printed
import TableTransfer.Proofs.Decimal.Reading
import TableTransfer.Proofs.Decimal.Rounded
import TableTransfer.Proofs.Decimal.Unscaled
import TableTransfer.Proofs.Decimal.WholeText
import TableTransfer.Proofs.Field.Binding
import TableTransfer.Proofs.Field.Cell
import TableTransfer.Proofs.Field.DecimalForms
import TableTransfer.Proofs.Field.Delivered
import TableTransfer.Proofs.Field.Getter
import TableTransfer.Proofs.Field.Inferred
import TableTransfer.Proofs.Field.Located
import TableTransfer.Proofs.Field.Marshalled
import TableTransfer.Proofs.Field.Missing
import TableTransfer.Proofs.Field.Moment
import TableTransfer.Proofs.Field.Numeric
import TableTransfer.Proofs.Field.NumericText
import TableTransfer.Proofs.Field.OffsetText
import TableTransfer.Proofs.Field.Outcome
import TableTransfer.Proofs.Field.Readable
import TableTransfer.Proofs.Field.RoundTrip
import TableTransfer.Proofs.Field.Storage
import TableTransfer.Proofs.Field.Unsigned
import TableTransfer.Proofs.Field.UnsignedRange
import TableTransfer.Proofs.Field.VendorText
import TableTransfer.Proofs.Field.Whole
import TableTransfer.Proofs.Field.Width
import TableTransfer.Proofs.Field.Writable
import TableTransfer.Proofs.Identifier.Checked
import TableTransfer.Proofs.Identifier.Scan
import TableTransfer.Proofs.Inference.Accepted
import TableTransfer.Proofs.Inference.Bound
import TableTransfer.Proofs.Inference.Decimal
import TableTransfer.Proofs.Inference.MySql
import TableTransfer.Proofs.Inference.MySqlSource
import TableTransfer.Proofs.Inference.Validated
import TableTransfer.Proofs.Insert.Statement
import TableTransfer.Proofs.Insert.Tokens
import TableTransfer.Proofs.Keyed
import TableTransfer.Proofs.Marshaller.Atomic
import TableTransfer.Proofs.Marshaller.BindsOnce
import TableTransfer.Proofs.Marshaller.Checked
import TableTransfer.Proofs.Marshaller.Columns
import TableTransfer.Proofs.Marshaller.Complete
import TableTransfer.Proofs.Marshaller.Found
import TableTransfer.Proofs.Marshaller.Nulls
import TableTransfer.Proofs.Marshaller.Permuted
import TableTransfer.Proofs.Pairing
import TableTransfer.Proofs.Registry.Counting
import TableTransfer.Proofs.Schema.Decoded
import TableTransfer.Proofs.Schema.Described
import TableTransfer.Proofs.Schema.Reported
import TableTransfer.Proofs.Schema.RoundTrip
import TableTransfer.Proofs.Split.Nulls
import TableTransfer.Proofs.Split.Partition
import TableTransfer.Proofs.Split.Substituted
import TableTransfer.Proofs.Split.Words
import TableTransfer.Proofs.Text.Ascii
import TableTransfer.Proofs.Text.Cut
import TableTransfer.Proofs.Text.Digits
import TableTransfer.Proofs.Transfer.Batches
import TableTransfer.Proofs.Transfer.Captured
import TableTransfer.Proofs.Transfer.Consistent
import TableTransfer.Proofs.Transfer.Course
import TableTransfer.Proofs.Transfer.Delivery
import TableTransfer.Proofs.Transfer.Host
import TableTransfer.Proofs.Transfer.MemoryHost
import TableTransfer.Proofs.Transfer.Pipeline
import TableTransfer.Proofs.Transfer.Progress
import TableTransfer.Proofs.Transfer.Released
import TableTransfer.Proofs.Transfer.Run
import TableTransfer.Proofs.Transfer.Writer
import TableTransfer.Proofs.Value.Conforms
import TableTransfer.Proofs.Value.Epoch
import TableTransfer.Proofs.Value.History
import TableTransfer.Proofs.Value.Record
import TableTransfer.Proofs.Value.Temporal
import TableTransfer.Proofs.Value.TimeOfDay
import TableTransfer.Proofs.Value.Whole
import TableTransfer.Registry
import TableTransfer.Schema.Column
import TableTransfer.Schema.Exchange
import TableTransfer.Schema.Node
import TableTransfer.Schema.Type
import TableTransfer.Schema.TypeCode
import TableTransfer.Text.Basic
import TableTransfer.Text.Lowercase
import TableTransfer.Text.Number
import TableTransfer.Text.Quoted
import TableTransfer.Text.Unicode
import TableTransfer.Transfer.Bounds
import TableTransfer.Transfer.Pipeline
import TableTransfer.Transfer.Report
import TableTransfer.Transfer.Sink
import TableTransfer.Transfer.Source
import TableTransfer.Transfer.Split
import TableTransfer.Validation
import TableTransfer.Value.Basic
import TableTransfer.Value.Coercion
import TableTransfer.Value.Narrow
import TableTransfer.Value.Sql
import TableTransfer.Value.Temporal
