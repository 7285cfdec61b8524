import Courier.Payload.Traces
import Courier.LogRecord
/-!
# Logs - how log records are written

A record that was not seen at a time of its own was seen when it was made.  A body that cannot be written
is absent.
-/
namespace Courier
namespace Payload

open Wire

def putTime? (field : Nat) : Option Timestamp → Write Unit
  | some t => putFixed64 field t.wireNanos
  | none => pure ()

def putSeverity? : Option Severity → Write Unit
  | some s => putNumber Schema.LogRecord.severity s.number
  | none => pure ()

def putBody? (length : Option Nat) : Option Value → Write Unit
  | some v => do
    let _ ← putValue length Schema.LogRecord.body v
  | none => pure ()

def putTraceFlags? : Option UInt8 → Write Unit
  | some f => putFixed32 Schema.LogRecord.flags f.toUInt32
  | none => pure ()

/-- Writes the span that a record belongs to, if there is one. -/
def putContext? : Option LogContext → Write Unit
  | some c => do
    putTraceFlags? c.flags
    putBytes Schema.LogRecord.traceId (idBytes c.traceId)
    putBytes Schema.LogRecord.spanId (idBytes c.spanId)
  | none => pure ()

def putLogRecord (limits : Limits) (field : Nat) (r : LogRecord) : Write Unit :=
  message field do
    putTime? Schema.LogRecord.time r.time
    putSeverity? r.severity
    putString? Schema.LogRecord.severityText r.severityText
    putBody? limits.log.length r.body
    putCounted limits.log Schema.LogRecord.attributes Schema.LogRecord.dropped 0 r.attributes
    putContext? r.context
    putTime? Schema.LogRecord.observed (r.observed.or r.time)
    putString? Schema.LogRecord.eventName r.eventName

def putLogs (limits : Limits) (r : Resource) (records : List LogRecord) : Write Unit :=
  putRequest limits.generic (putLogRecord limits) r (Scope.group LogRecord.scope records)

end Payload
end Courier
