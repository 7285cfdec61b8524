import Courier.Proofs.Payload.Traces
/-!
# Logs - the parts of log records

Main statements: a steady log record is put as `logRecordParts` (`puts_logRecord`), and so a request with log
records as the request of these (`puts_logs`).
-/
namespace Courier
namespace Payload

open Wire
open Received (Attribute.kept Attribute.dropped)

/-- The message of a log record. -/
def logRecordParts (limits : Limits) (r : LogRecord) : Parts :=
  [(1, r.time.toList.map fun t => .fixed64 t.wireNanos),
    (2, r.severity.toList.map fun s => .varint (UInt64.ofNat s.number)),
    (3, r.severityText.toList.map textPiece),
    (5, (r.body.bind (Received.Value.of? limits.log.length)).toList.map valuePiece),
    (6, (Attribute.kept limits.log r.attributes).map attributePiece),
    (7, countPieces (Attribute.dropped limits.log 0 r.attributes)),
    (8, (r.context.bind LogContext.flags).toList.map fun f => .fixed32 f.toUInt32),
    (9, r.context.toList.map fun c => .bytes c.traceId.toList),
    (10, r.context.toList.map fun c => .bytes c.spanId.toList),
    (11, (r.observed.or r.time).toList.map fun t => .fixed64 t.wireNanos),
    (12, r.eventName.toList.map textPiece)]

theorem puts_severity? (o : Option Severity) :
    Puts (putSeverity? o) [(2, o.toList.map fun s => .varint (UInt64.ofNat s.number))] := by
  cases o with
  | none => exact puts_nothing 2
  | some s => exact puts_number 2 (by have := s.le_last; omega)

theorem puts_body? (length : Option Nat) {o : Option Value} (h : ∀ v ∈ o, v.Steady) :
    Puts (putBody? length o) [(5, (o.bind (Received.Value.of? length)).toList.map valuePiece)] := by
  cases o with
  | none => exact puts_nothing 5
  | some v =>
    have hv := (emits_value length 5 v (h v rfl)).andThen (emits_pure ())
    rw [List.append_nil] at hv
    rw [Puts, encodeParts_singleton, Option.bind_some]
    exact hv

theorem puts_context? (o : Option LogContext) :
    Puts (putContext? o) [(8, (o.bind LogContext.flags).toList.map fun f => .fixed32 f.toUInt32),
      (9, o.toList.map fun c => .bytes c.traceId.toList), (10, o.toList.map fun c => .bytes c.spanId.toList)] := by
  cases o with
  | none => exact emits_pure ()
  | some c =>
    have hf : Puts (putTraceFlags? c.flags) [(8, c.flags.toList.map fun f => .fixed32 f.toUInt32)] := by
      cases c.flags with
      | none => exact puts_nothing 8
      | some f => exact puts_fixed32 8 f.toUInt32
    exact hf.cons ((puts_id 9 c.traceId).cons (puts_id 10 c.spanId))

/-- **A steady log record is put as its parts.** -/
theorem puts_logRecord (limits : Limits) (field : Nat) {r : LogRecord} (h : r.Steady) :
    Puts (putLogRecord limits field r) [(field, [.message (encodeParts (logRecordParts limits r))])] := by
  -- From the last field back to the first.
  have hend := (puts_time? 11 (r.observed.or r.time)).cons (puts_string? 12 r.eventName)
  have hcontext := (puts_context? r.context).append hend
  have hattributes := (puts_counted limits.log 6 7 0 h.attributes).append hcontext
  have hbody := (puts_body? limits.log.length h.body).cons hattributes
  have htime := (puts_time? 1 r.time).cons ((puts_severity? r.severity).cons ((puts_string? 3 r.severityText).cons hbody))
  exact htime.message field

theorem puts_logs (limits : Limits) {r : Resource} {records : List LogRecord} (hr : r.Steady)
    (h : ∀ x ∈ records, x.Steady) :
    Puts (putLogs limits r records)
      (requestParts limits.generic (logRecordParts limits) r (Scope.group LogRecord.scope records)) :=
  puts_grouped hr (fun x hx => (h x hx).scope) fun x hx => puts_logRecord limits 2 (h x hx)

end Payload
end Courier
