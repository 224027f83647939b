import Telemetry.Aggregation
import Telemetry.Aggregation.Buffer
import Telemetry.Aggregation.Series
import Telemetry.Attributes
import Telemetry.Batch
import Telemetry.Binary64
import Telemetry.Channel.Buffer
import Telemetry.Channel.Capacity
import Telemetry.Channel.Counters
import Telemetry.Channel.Delay
import Telemetry.Channel.Folding
import Telemetry.Channel.Receiver
import Telemetry.Channel.Script
import Telemetry.Channel.Shared
import Telemetry.Channel.System
import Telemetry.CommandLine.Help
import Telemetry.CommandLine.Interface
import Telemetry.CommandLine.Reading
import Telemetry.CommandLine.Similarity
import Telemetry.CommandLine.Style
import Telemetry.Config
import Telemetry.Config.Endpoint
import Telemetry.Config.Headers
import Telemetry.Config.Protocol
import Telemetry.Console.Line
import Telemetry.Console.Output
import Telemetry.Decimal.Digits
import Telemetry.Decimal.Number
import Telemetry.Decimal.Numeral
import Telemetry.Decimal.Shortest
import Telemetry.Demo.Program
import Telemetry.Demo.Settings
import Telemetry.Environment
import Telemetry.Error
import Telemetry.Export.Error
import Telemetry.Instrument
import Telemetry.Json.Printer
import Telemetry.Json.Value
import Telemetry.Level
import Telemetry.Log.Logger
import Telemetry.Log.Record
import Telemetry.Log.Sink
import Telemetry.Log.Value
import Telemetry.Main
import Telemetry.Meter
import Telemetry.Otlp.Exporter
import Telemetry.Otlp.LogQueue
import Telemetry.Otlp.Logs
import Telemetry.Otlp.Message
import Telemetry.Otlp.Metrics
import Telemetry.Otlp.Origin
import Telemetry.Otlp.Wire
import Telemetry.Proofs.Aggregation.Buckets
import Telemetry.Proofs.Aggregation.Fill
import Telemetry.Proofs.Aggregation.Grouped
import Telemetry.Proofs.Aggregation.Limit
import Telemetry.Proofs.Aggregation.Merge
import Telemetry.Proofs.Aggregation.Regrouping
import Telemetry.Proofs.Aggregation.Shows
import Telemetry.Proofs.Attributes.Canonical
import Telemetry.Proofs.Attributes.Union
import Telemetry.Proofs.Batch
import Telemetry.Proofs.Binary64
import Telemetry.Proofs.Channel.Abandon
import Telemetry.Proofs.Channel.Admission
import Telemetry.Proofs.Channel.Backoff
import Telemetry.Proofs.Channel.Barrier
import Telemetry.Proofs.Channel.Conservation
import Telemetry.Proofs.Channel.Drain
import Telemetry.Proofs.Channel.Flush
import Telemetry.Proofs.Channel.Invocations
import Telemetry.Proofs.Channel.Ledger
import Telemetry.Proofs.Channel.Loop
import Telemetry.Proofs.Channel.Progress
import Telemetry.Proofs.Channel.Retries
import Telemetry.Proofs.Channel.Rooms
import Telemetry.Proofs.Channel.Sends
import Telemetry.Proofs.Channel.Step
import Telemetry.Proofs.Channel.Ticks
import Telemetry.Proofs.Channel.Watchers
import Telemetry.Proofs.Config.Endpoint
import Telemetry.Proofs.Config.Environment
import Telemetry.Proofs.Config.Headers
import Telemetry.Proofs.Console.SharedBuffer
import Telemetry.Proofs.Decimal.Numeral
import Telemetry.Proofs.Decimal.Shortest
import Telemetry.Proofs.Grouping
import Telemetry.Proofs.Instrument
import Telemetry.Proofs.Json.Number
import Telemetry.Proofs.Json.Parser
import Telemetry.Proofs.Json.RoundTrip
import Telemetry.Proofs.Json.Visible
import Telemetry.Proofs.Log.FanOut
import Telemetry.Proofs.Otlp.JsonForm
import Telemetry.Proofs.Otlp.Logs
import Telemetry.Proofs.Otlp.Loss
import Telemetry.Proofs.Otlp.Metrics
import Telemetry.Proofs.Otlp.Origin
import Telemetry.Proofs.Otlp.Reader
import Telemetry.Proofs.Otlp.Schema
import Telemetry.Proofs.Otlp.Wire
import Telemetry.Proofs.Provider.Attempts
import Telemetry.Proofs.Provider.Callers
import Telemetry.Proofs.Provider.Cancellation
import Telemetry.Proofs.Provider.ChannelPart
import Telemetry.Proofs.Provider.Completion
import Telemetry.Proofs.Provider.Cumulative
import Telemetry.Proofs.Provider.Delta
import Telemetry.Proofs.Provider.Endings
import Telemetry.Proofs.Provider.Flushed
import Telemetry.Proofs.Provider.Lifecycle
import Telemetry.Proofs.Provider.Outcome
import Telemetry.Proofs.Provider.Presented
import Telemetry.Proofs.Provider.Recordings
import Telemetry.Proofs.Provider.Step
import Telemetry.Proofs.Provider.Tiling
import Telemetry.Proofs.Provider.Verdict
import Telemetry.Proofs.Provider.Waiting
import Telemetry.Proofs.Provider.Windows
import Telemetry.Proofs.Reading
import Telemetry.Proofs.Registry
import Telemetry.Proofs.Resource.AttributeText
import Telemetry.Proofs.Resource.Precedence
import Telemetry.Proofs.Resource.ServiceName
import Telemetry.Proofs.Shutdown.Deadline
import Telemetry.Proofs.Sorted
import Telemetry.Proofs.Tally
import Telemetry.Proofs.Text.Percent
import Telemetry.Proofs.Text.Pieces
import Telemetry.Proofs.Text.Utf8
import Telemetry.Proofs.Transport.Address
import Telemetry.Proofs.Transport.Body
import Telemetry.Proofs.Transport.Sends
import Telemetry.Proofs.Transport.Verdict
import Telemetry.Provider.Caller
import Telemetry.Provider.Counters
import Telemetry.Provider.Notice
import Telemetry.Provider.Script
import Telemetry.Provider.State
import Telemetry.Provider.System
import Telemetry.Provider.Timed
import Telemetry.Provider.Worker
import Telemetry.Resource
import Telemetry.Scope
import Telemetry.Shutdown.Coordinator
import Telemetry.Shutdown.Outcome
import Telemetry.Sorted
import Telemetry.Temporality
import Telemetry.Text.Blank
import Telemetry.Text.ControlSequence
import Telemetry.Text.Percent
import Telemetry.Text.Printable
import Telemetry.Text.Quoted
import Telemetry.Text.Utf8
import Telemetry.Time.Calendar
import Telemetry.Time.Duration
import Telemetry.Time.Instant
import Telemetry.Time.Text
import Telemetry.Time.Timeline
import Telemetry.Time.Timestamp
import Telemetry.Transition
import Telemetry.Transport.Connection
import Telemetry.Transport.Content
import Telemetry.Transport.Counters
import Telemetry.Transport.Cursor
import Telemetry.Transport.Fault
import Telemetry.Transport.Response
import Telemetry.Transport.Uri
