import TableFeed.Base64
import TableFeed.Calendar.Date
import TableFeed.Calendar.Moment
import TableFeed.Calendar.Zoned
import TableFeed.Command.Inquiry
import TableFeed.Command.Options
import TableFeed.Command.Outcome
import TableFeed.Config.Basic
import TableFeed.Config.Environment
import TableFeed.Config.Loading
import TableFeed.Config.Reader
import TableFeed.Config.Seed
import TableFeed.Config.TopicMap
import TableFeed.Connector
import TableFeed.Decimal
import TableFeed.Delivery.Buffer
import TableFeed.Delivery.Run
import TableFeed.Delivery.Sink
import TableFeed.Destination
import TableFeed.Entries
import TableFeed.Error
import TableFeed.Event
import TableFeed.Json.Basic
import TableFeed.Json.Document
import TableFeed.Json.Printer
import TableFeed.Json.Reader
import TableFeed.Json.Record
import TableFeed.Main
import TableFeed.Number.Binary64
import TableFeed.Number.Power
import TableFeed.Number.Shortest
import TableFeed.Proofs.Base64
import TableFeed.Proofs.Calendar.Date
import TableFeed.Proofs.Calendar.Instant
import TableFeed.Proofs.Calendar.Order
import TableFeed.Proofs.Calendar.Stamp
import TableFeed.Proofs.Calendar.Written
import TableFeed.Proofs.Connector.Framing
import TableFeed.Proofs.Connector.Isolation
import TableFeed.Proofs.Connector.Reach
import TableFeed.Proofs.Connector.Refusal
import TableFeed.Proofs.Connector.Replay
import TableFeed.Proofs.Connector.Transform
import TableFeed.Proofs.Decimal
import TableFeed.Proofs.Delivery.Batches
import TableFeed.Proofs.Delivery.Buffer
import TableFeed.Proofs.Delivery.Content
import TableFeed.Proofs.Delivery.DeadLines
import TableFeed.Proofs.Delivery.Deposit
import TableFeed.Proofs.Delivery.Intake
import TableFeed.Proofs.Delivery.Limit
import TableFeed.Proofs.Delivery.Rows
import TableFeed.Proofs.Delivery.Script
import TableFeed.Proofs.Delivery.Sink
import TableFeed.Proofs.Delivery.Threshold
import TableFeed.Proofs.Destination.Additions
import TableFeed.Proofs.Destination.Coherence
import TableFeed.Proofs.Destination.Confinement
import TableFeed.Proofs.Destination.Convergence
import TableFeed.Proofs.Destination.Dialogue
import TableFeed.Proofs.Destination.Ensured
import TableFeed.Proofs.Destination.Failure
import TableFeed.Proofs.Destination.History
import TableFeed.Proofs.Destination.Isolation
import TableFeed.Proofs.Destination.Outcome
import TableFeed.Proofs.Destination.ReadOnly
import TableFeed.Proofs.Destination.Ready
import TableFeed.Proofs.Destination.Refresh
import TableFeed.Proofs.Destination.Repeated
import TableFeed.Proofs.Destination.Retry
import TableFeed.Proofs.Event.Decoding
import TableFeed.Proofs.Event.Fields
import TableFeed.Proofs.Event.Images
import TableFeed.Proofs.Event.Partition
import TableFeed.Proofs.Event.Reading
import TableFeed.Proofs.Except
import TableFeed.Proofs.Json.Controls
import TableFeed.Proofs.Json.Extent
import TableFeed.Proofs.Json.Numerals
import TableFeed.Proofs.Json.ReadBack
import TableFeed.Proofs.Json.Scalars
import TableFeed.Proofs.Json.Trees
import TableFeed.Proofs.Number.Plain
import TableFeed.Proofs.Number.Shortest
import TableFeed.Proofs.Schema.DecimalNumber
import TableFeed.Proofs.Schema.Descent
import TableFeed.Proofs.Schema.Rendering
import TableFeed.Proofs.Schema.RoundTrip
import TableFeed.Proofs.Schema.Site
import TableFeed.Proofs.Schema.Violation
import TableFeed.Proofs.Table.Calls
import TableFeed.Proofs.Table.Clause
import TableFeed.Proofs.Table.Columns
import TableFeed.Proofs.Table.Growth
import TableFeed.Proofs.Table.Journal
import TableFeed.Proofs.Table.Statement
import TableFeed.Proofs.Text.Digits
import TableFeed.Proofs.Text.Utf8
import TableFeed.Proofs.ValueType.Builtin
import TableFeed.Proofs.ValueType.ColumnType
import TableFeed.Proofs.ValueType.Epoch
import TableFeed.Proofs.ValueType.Plain
import TableFeed.Proofs.ValueType.Precision
import TableFeed.Proofs.ValueType.Scaled
import TableFeed.Proofs.ValueType.Sized
import TableFeed.Proofs.ValueType.TimeOfDay
import TableFeed.Proofs.ValueType.Zoned
import TableFeed.Record.Basic
import TableFeed.Record.Line
import TableFeed.Registry
import TableFeed.Schema.Basic
import TableFeed.Schema.Error
import TableFeed.Schema.Kind
import TableFeed.Schema.Printer
import TableFeed.Schema.Reader
import TableFeed.Schema.Struct
import TableFeed.Shape
import TableFeed.SortedMap
import TableFeed.Table.Cache
import TableFeed.Table.Catalog
import TableFeed.Table.Column
import TableFeed.Table.Connection
import TableFeed.Table.Reader
import TableFeed.Table.Statement
import TableFeed.Text.Alphanumeric
import TableFeed.Text.Blank
import TableFeed.Text.Digits
import TableFeed.Text.Pieces
import TableFeed.Text.Quoted
import TableFeed.Text.Unprintable
import TableFeed.Text.Utf8
import TableFeed.ValueType.Basic
import TableFeed.ValueType.Plain
import TableFeed.ValueType.Scaled
import TableFeed.ValueType.Temporal
import TableFeed.Yaml.BlockScalar
import TableFeed.Yaml.Cursor
import TableFeed.Yaml.FlowScalar
import TableFeed.Yaml.Node
import TableFeed.Yaml.Scalar
import TableFeed.Yaml.Tag
import TableFeed.Yaml.Token
import TableFeed.Yaml.Tree
import TableFeed.Proofs.Config.TopicMap
import TableFeed.Proofs.Config.RoundTrip
import TableFeed.Proofs.Config.Forms
