import Courier.Proofs.Payload.Envelope
/-!
# Traces - the parts of spans

Main statements: a steady span is put as `spanParts` (`puts_span`), and so a request with spans as the request of
these (`puts_traces`).
-/
namespace Courier
namespace Payload

open Wire
open Received (Attribute.kept Attribute.dropped)

def eventParts (allowance : Allowance) (e : SpanEvent) : Parts :=
  [(1, [.fixed64 e.time.wireNanos]), (2, [textPiece e.name]),
    (3, (Attribute.kept allowance e.attributes).map attributePiece),
    (4, countPieces (Attribute.dropped allowance e.dropped e.attributes))]

def linkParts (allowance : Allowance) (l : SpanLink) : Parts :=
  [(1, [.bytes l.traceId.toList]), (2, [.bytes l.spanId.toList]),
    (3, (nonempty l.traceState).toList.map textPiece),
    (4, (Attribute.kept allowance l.attributes).map attributePiece),
    (5, countPieces (Attribute.dropped allowance l.dropped l.attributes)),
    (6, [.fixed32 (referenceFlags l.flags l.remote)])]

/-- The message of a status, unless it is unset. -/
def statusParts? : SpanStatus → Option Parts
  | .unset => none
  | .ok => some [(2, []), (3, [.varint 1])]
  | .error description => some [(2, (nonempty (some description)).toList.map textPiece), (3, [.varint 2])]

/-- The id of the parent, if there is one. -/
def parentPieces (parent : SpanId) : List Piece := if parent = .none then [] else [.bytes parent.toList]

/-- The message of a span. -/
def spanParts (limits : Limits) (s : Span) : Parts :=
  [(1, [.bytes s.traceId.toList]), (2, [.bytes s.spanId.toList]),
    (3, (nonempty s.traceState).toList.map textPiece), (4, parentPieces s.parent), (5, [textPiece s.name]),
    (6, [.varint (UInt64.ofNat (spanKindCode s.kind))]),
    (7, [.fixed64 s.start.wireNanos]), (8, [.fixed64 s.finish.wireNanos]),
    (9, (Attribute.kept limits.span s.attributes).map attributePiece),
    (10, countPieces (Attribute.dropped limits.span s.droppedAttributes s.attributes)),
    (11, (s.events.take limits.eventCount.toNat).map fun e => .message (encodeParts (eventParts limits.event e))),
    (12, countPieces (droppedPast limits.eventCount s.events.length s.droppedEvents)),
    (13, (s.links.take limits.linkCount.toNat).map fun l => .message (encodeParts (linkParts limits.link l))),
    (14, countPieces (droppedPast limits.linkCount s.links.length s.droppedLinks)),
    (15, (statusParts? s.status).toList.map fun parts => .message (encodeParts parts)),
    (16, [.fixed32 (referenceFlags s.flags s.parentRemote)])]

theorem puts_id {n : Nat} (field : Nat) (id : Vector UInt8 n) :
    Puts (putBytes field (idBytes id)) [(field, [.bytes id.toList])] := puts_bytes field (idBytes id)

theorem puts_event (allowance : Allowance) {e : SpanEvent} (h : e.Steady) :
    Puts (putEvent allowance e) [(11, [.message (encodeParts (eventParts allowance e))])] := by
  have hb := (puts_fixed64 1 e.time.wireNanos).cons ((puts_string 2 e.name).cons
    (puts_counted allowance 3 4 e.dropped h))
  exact hb.message 11

theorem puts_link (allowance : Allowance) {l : SpanLink} (h : l.Steady) :
    Puts (putLink allowance l) [(13, [.message (encodeParts (linkParts allowance l))])] := by
  have hc := (puts_counted allowance 4 5 l.dropped h).append (puts_fixed32 6 (referenceFlags l.flags l.remote))
  have hb := (puts_id 1 l.traceId).cons ((puts_id 2 l.spanId).cons ((puts_nonempty 3 l.traceState).cons hc))
  exact hb.message 13

theorem puts_status (status : SpanStatus) :
    Puts (putSpanStatus status) [(15, (statusParts? status).toList.map fun parts => .message (encodeParts parts))] := by
  cases status with
  | unset => exact puts_nothing 15
  | ok => exact (puts_number 3 (by decide) : Puts (putNumber 3 1) [(3, [.varint 1])]).message 15
  | error description =>
    have hb := (puts_nonempty 2 (some description)).cons (puts_number 3 (n := 2) (by decide))
    exact hb.message 15

theorem puts_parent (parent : SpanId) : Puts (putParent parent) [(4, parentPieces parent)] := by
  unfold putParent parentPieces
  by_cases h : parent = .none
  · rw [if_pos h, if_pos h]
    exact puts_nothing 4
  · rw [if_neg h, if_neg h]
    exact puts_id 4 parent

theorem spanKindCode_lt (kind : SpanKind) : spanKindCode kind < 0x10000000000000000 := by
  cases kind <;> decide

/-- **A steady span is put as its parts.** -/
theorem puts_span (limits : Limits) (field : Nat) {s : Span} (h : s.Steady) :
    Puts (putSpan limits field s) [(field, [.message (encodeParts (spanParts limits s))])] := by
  have hevents := puts_all 11 (putEvent limits.event) (s.events.take limits.eventCount.toNat)
    fun e he => puts_event limits.event (h.events e (List.mem_of_mem_take he))
  have hlinks := puts_all 13 (putLink limits.link) (s.links.take limits.linkCount.toNat)
    fun l hl => puts_link limits.link (h.links l (List.mem_of_mem_take hl))
  -- From the last field back to the first.
  have hend := (puts_status s.status).cons (puts_fixed32 16 (referenceFlags s.flags s.parentRemote))
  have hlists := hevents.cons ((puts_count 12 (droppedPast limits.eventCount s.events.length s.droppedEvents)).cons
    (hlinks.cons ((puts_count 14 (droppedPast limits.linkCount s.links.length s.droppedLinks)).cons hend)))
  have hattributes := (puts_counted limits.span 9 10 s.droppedAttributes h.attributes).append hlists
  have htimes := (puts_fixed64 7 s.start.wireNanos).cons ((puts_fixed64 8 s.finish.wireNanos).cons hattributes)
  have hname := (puts_string 5 s.name).cons ((puts_number 6 (spanKindCode_lt s.kind)).cons htimes)
  have hids := (puts_id 1 s.traceId).cons ((puts_id 2 s.spanId).cons ((puts_nonempty 3 s.traceState).cons
    ((puts_parent s.parent).cons hname)))
  exact hids.message field

theorem puts_traces (limits : Limits) {r : Resource} {spans : List Span} (hr : r.Steady) (h : ∀ s ∈ spans, s.Steady) :
    Puts (putTraces limits r spans)
      (requestParts limits.generic (spanParts limits) r (Scope.group Span.scope spans)) :=
  puts_grouped hr (fun s hs => (h s hs).scope) fun s hs => puts_span limits 2 (h s hs)

end Payload
end Courier
