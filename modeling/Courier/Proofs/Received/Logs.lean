import Courier.Proofs.Batch
import Courier.Proofs.Received.Envelope
/-!
# Logs - log records as a collector receives them

Main statement: the bytes of a write of log records that ended are read as the records under the limits
(`logs_decode`).
-/
namespace Courier
namespace Received

open Wire Payload

structure LogRecord where
  time : UInt64
  severity : Int32
  severityText : String
  body : Option Value
  attributes : List Attribute
  dropped : UInt32
  flags : UInt32
  traceId : List UInt8
  spanId : List UInt8
  observed : UInt64
  eventName : String

namespace LogRecord

def read? (levels : Nat) (fs : List Field) : Option LogRecord := do
  let time ← single? 1 fixed64? 0 fs
  let severity ← single? 2 enum? 0 fs
  let severityText ← single? 3 Reader.text? "" fs
  let body ← embedded? 5 (Value.read? levels) fs
  let attributes ← each? 6 (Attribute.read? levels) fs
  let dropped ← single? 7 uint32? 0 fs
  let flags ← single? 8 fixed32? 0 fs
  let traceId ← single? 9 Reader.bytes? [] fs
  let spanId ← single? 10 Reader.bytes? [] fs
  let observed ← single? 11 fixed64? 0 fs
  let eventName ← single? 12 Reader.text? "" fs
  return ⟨time, severity, severityText, body, attributes, dropped, flags, traceId, spanId, observed, eventName⟩

/-- A record that was not seen at a time of its own was seen when it was made, and a body that fails is absent. -/
def of (limits : Limits) (r : Courier.LogRecord) : LogRecord where
  time := (r.time.map Timestamp.wireNanos).getD 0
  severity := (r.severity.map fun s => Int32.ofNat s.number).getD 0
  severityText := r.severityText.getD ""
  body := r.body.bind (Value.of? limits.log.length)
  attributes := Attribute.kept limits.log r.attributes
  dropped := Attribute.dropped limits.log 0 r.attributes
  flags := ((r.context.bind LogContext.flags).map UInt8.toUInt32).getD 0
  traceId := (r.context.map fun c => c.traceId.toList).getD []
  spanId := (r.context.map fun c => c.spanId.toList).getD []
  observed := ((r.observed.or r.time).map Timestamp.wireNanos).getD 0
  eventName := r.eventName.getD ""

end LogRecord

theorem enum?_severity (s : Severity) :
    enum? (Piece.varint (UInt64.ofNat s.number)).content = some (Int32.ofNat s.number) := by
  have hle := s.le_last
  have h64 : (UInt64.ofNat s.number).toNat = s.number := by rw [UInt64.toNat_ofNat']; omega
  simp only [enum?, uint32?, Reader.varint?, Piece.content, Option.map_some, h64]
  rfl

/-- **A log record is read back from its parts.** -/
theorem LogRecord.reads (levels : Nat) (limits : Limits) (r : Courier.LogRecord) :
    Reads levels (read? levels) (logRecordParts limits r) (of limits r) where
  numbered := rfl
  read hf := by
    have h1 := single?_toList hf 1 0 rfl fun t => fixed64?_fixed64 (Timestamp.wireNanos t)
    have h2 := single?_toList hf 2 0 rfl enum?_severity
    have h3 := single?_optionalText hf 3 rfl
    have h5 := embedded?_toList hf 5 rfl fun v _ => Value.reads v levels
    have h6 := each?_attributes hf 6 rfl
    have h7 := single?_count hf 7 rfl
    have h8 := single?_toList hf 8 0 rfl fun f => fixed32?_fixed32 (UInt8.toUInt32 f)
    have h9 := single?_toList hf 9 [] rfl fun c => bytes?_bytes (Vector.toList (LogContext.traceId c))
    have h10 := single?_toList hf 10 [] rfl fun c => bytes?_bytes (Vector.toList (LogContext.spanId c))
    have h11 := single?_toList hf 11 0 rfl fun t => fixed64?_fixed64 (Timestamp.wireNanos t)
    have h12 := single?_optionalText hf 12 rfl
    rw [Option.map_id'] at h5
    rw [read?, h1, h2, h3, h5, h6, h7, h8, h9, h10, h11, h12]
    rfl

/-- **Logs decode back.** What a write of log records leaves behind its offset is a request that a collector reads,
and it has one resource, a scope group for each scope, and in it the records of the scope as the limits leave them. -/
theorem logs_decode (limits : Limits) {resource : Courier.Resource} {records : List Courier.LogRecord}
    (hr : resource.Steady) (hs : ∀ r ∈ records, r.Steady) {buffer : ByteArray} {offset finish : Nat}
    (hbuffer : buffer.size ≤ Buffer.maxSize)
    (h : ((Batch.logs records).write limits resource offset buffer).1 = .written finish) :
    Request.read? LogRecord.read?
        (((Batch.logs records).write limits resource offset buffer).2.extract offset finish).data.toList =
      some (Request.of limits.generic (LogRecord.of limits) resource
        (Scope.group Courier.LogRecord.scope records)) := by
  obtain ⟨hbytes, hle⟩ := Batch.write_written hr (show (Batch.logs records).Steady from hs) hbuffer h
  rw [hbytes]
  exact read?_requestParts limits.generic resource (fun levels _ _ r _ => LogRecord.reads levels limits r)
    (Nat.lt_of_le_of_lt hle (by decide))

/-- A record with deferred texts in its body and its attributes, some of which fail. -/
def pairRecord : Courier.LogRecord :=
  { body := some (.list [.int (-1), .deferred ⟨2, fun _ => .failed⟩]), attributes := deferredPair }

theorem steady_pairRecord : pairRecord.Steady where
  scope := Scope.steady_empty
  body v hv := by
    cases hv
    refine .list (List.forall_mem_cons.2 ⟨.int (-1), List.forall_mem_singleton.2 (.deferred ?_)⟩)
    exact ⟨fun _ => rfl, fun _ h => by cases h⟩
  attributes := steady_deferredPair

theorem logs_decode_pairRecord :
    ((Batch.logs [pairRecord]).write {} {} 1 (List.replicate 90 7).toByteArray).1 = .written 72 ∧
    Request.read? LogRecord.read?
        (((Batch.logs [pairRecord]).write {} {} 1 (List.replicate 90 7).toByteArray).2.extract 1 72).data.toList =
      some (Request.of (Limits.generic {}) (LogRecord.of {}) {}
        (Scope.group Courier.LogRecord.scope [pairRecord])) := by
  have hs : ∀ r ∈ [pairRecord], r.Steady := List.forall_mem_singleton.2 steady_pairRecord
  have h : ((Batch.logs [pairRecord]).write {} {} 1 (List.replicate 90 7).toByteArray).1 = .written 72 :=
    Batch.write_of_finish (by decide +kernel)
  exact ⟨h, logs_decode _ Resource.steady_empty hs (by rw [List.size_toByteArray]; decide) h⟩

end Received
end Courier
