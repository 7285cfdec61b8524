import Courier.Allowance
import Courier.Batch
import Courier.Buffer
import Courier.Calendar
import Courier.Calendar.HttpDate
import Courier.Client
import Courier.Client.Scripted
import Courier.Clock
import Courier.Collected.Exponential
import Courier.Collected.Instrument
import Courier.Collected.LogRecord
import Courier.Collected.Metric
import Courier.Collected.Span
import Courier.Collected.Value
import Courier.Decimal.Shortest
import Courier.Delivery
import Courier.Double
import Courier.Double.Text
import Courier.Duration
import Courier.Environment
import Courier.Exporter
import Courier.Failure
import Courier.Gather
import Courier.Grpc.Client
import Courier.Grpc.Target
import Courier.Header
import Courier.Header.Listing
import Courier.Http.Client
import Courier.Http.Target
import Courier.Limits
import Courier.LogRecord
import Courier.Metric
import Courier.Payload.Envelope
import Courier.Payload.Logs
import Courier.Payload.Metrics
import Courier.Payload.Traces
import Courier.Payload.Values
import Courier.Proofs.Answered
import Courier.Proofs.Batch
import Courier.Proofs.Batch.Ended
import Courier.Proofs.Batch.Frame
import Courier.Proofs.Batch.Losses
import Courier.Proofs.Batch.Scopes
import Courier.Proofs.Batch.Slots
import Courier.Proofs.Batch.Texts
import Courier.Proofs.Batch.Times
import Courier.Proofs.Buffer.Growth
import Courier.Proofs.Buffer.Tries
import Courier.Proofs.Calendar
import Courier.Proofs.Calendar.HttpDate
import Courier.Proofs.Collected.Envelope
import Courier.Proofs.Collected.Logs
import Courier.Proofs.Collected.Metrics
import Courier.Proofs.Collected.Records
import Courier.Proofs.Collected.Traces
import Courier.Proofs.Collected.Values
import Courier.Proofs.Deferrals
import Courier.Proofs.Double
import Courier.Proofs.Endpoint
import Courier.Proofs.Exporter.Payload
import Courier.Proofs.Exporter.Shut
import Courier.Proofs.Exporter.Workload
import Courier.Proofs.Gather
import Courier.Proofs.Header.Listing
import Courier.Proofs.Header.Orders
import Courier.Proofs.Header.Values
import Courier.Proofs.Http.Sent
import Courier.Proofs.Limits
import Courier.Proofs.Partition
import Courier.Proofs.Payload.Answered
import Courier.Proofs.Payload.Answered.Records
import Courier.Proofs.Payload.Composed
import Courier.Proofs.Payload.Envelope
import Courier.Proofs.Payload.Fields
import Courier.Proofs.Payload.Logs
import Courier.Proofs.Payload.Metrics
import Courier.Proofs.Payload.Pruned
import Courier.Proofs.Payload.Traces
import Courier.Proofs.Payload.Values
import Courier.Proofs.Precedence
import Courier.Proofs.Received.Arrived
import Courier.Proofs.Received.Envelope
import Courier.Proofs.Received.Fields
import Courier.Proofs.Received.Kept
import Courier.Proofs.Received.Logs
import Courier.Proofs.Received.Metrics
import Courier.Proofs.Received.Placed
import Courier.Proofs.Received.Points
import Courier.Proofs.Received.Times
import Courier.Proofs.Received.Traces
import Courier.Proofs.Received.Value
import Courier.Proofs.Retry.After
import Courier.Proofs.Retry.Hints
import Courier.Proofs.Retry.Judgement
import Courier.Proofs.Retry.Windows
import Courier.Proofs.Steady
import Courier.Proofs.Text.Bytes
import Courier.Proofs.Text.Number
import Courier.Proofs.Text.Percent
import Courier.Proofs.Transmission.Attempts
import Courier.Proofs.Transmission.Backoff
import Courier.Proofs.Transmission.Deadline
import Courier.Proofs.Transmission.Delivered
import Courier.Proofs.Transmission.Demand
import Courier.Proofs.Transmission.History
import Courier.Proofs.Transmission.InTime
import Courier.Proofs.Transmission.Overflow
import Courier.Proofs.Transmission.Report
import Courier.Proofs.Transmission.Shutdown
import Courier.Proofs.Transmission.Throttle
import Courier.Proofs.Transmission.Traffic
import Courier.Proofs.Uri
import Courier.Proofs.Wire.Bits
import Courier.Proofs.Wire.Composed
import Courier.Proofs.Wire.Emission
import Courier.Proofs.Wire.Ended
import Courier.Proofs.Wire.Inverse
import Courier.Proofs.Wire.Paired
import Courier.Proofs.Wire.Parts
import Courier.Proofs.Wire.Shortest
import Courier.Protocol
import Courier.Response
import Courier.Retry.Decision
import Courier.Retry.Verdict
import Courier.Retry.Window
import Courier.Scope
import Courier.Settings
import Courier.Signal
import Courier.Span
import Courier.Status
import Courier.Status.RetryInfo
import Courier.Text.Base64
import Courier.Text.Blank
import Courier.Text.Number
import Courier.Text.Percent
import Courier.Text.Printable
import Courier.Text.Quoted
import Courier.Timestamp
import Courier.Transmission
import Courier.Uri
import Courier.Value
import Courier.Value.Text
import Courier.Wire.Cursor
import Courier.Wire.Field
import Courier.Wire.Reader
import Courier.Wire.Schema
import Courier.Wire.Varint
