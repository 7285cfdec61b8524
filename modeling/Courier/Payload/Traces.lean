import Courier.Payload.Envelope
import Courier.Span
/-!
# Traces - how spans are written

A span keeps its first events and links, as many as the limits allow.  Flags tell on top of the trace's
own flags that it is known whether the other span is remote, and whether it is.
-/
namespace Courier
namespace Payload

open Wire

def idBytes {n : Nat} (id : Vector UInt8 n) : ByteArray := ⟨id.toArray⟩

def spanKindCode : SpanKind → Nat
  | .internal => 1
  | .server => 2
  | .client => 3
  | .producer => 4
  | .consumer => 5

/-- The flags of a reference to a span: the trace's, and whether the span is remote. -/
def referenceFlags (flags : UInt8) (remote : Bool) : UInt32 :=
  flags.toUInt32 ||| 0x100 ||| if remote then 0x200 else 0

/-- The number of members past a limit, with those left out before. -/
def droppedPast (limit : UInt64) (length : Nat) (before : UInt32) : UInt32 :=
  totalDropped (length - limit.toNat) before

def putEvent (allowance : Allowance) (e : SpanEvent) : Write Unit :=
  message Schema.Span.events do
    putFixed64 Schema.SpanEvent.time e.time.wireNanos
    putString Schema.SpanEvent.name e.name
    putCounted allowance Schema.SpanEvent.attributes Schema.SpanEvent.dropped e.dropped e.attributes

def putLink (allowance : Allowance) (l : SpanLink) : Write Unit :=
  message Schema.Span.links do
    putBytes Schema.SpanLink.traceId (idBytes l.traceId)
    putBytes Schema.SpanLink.spanId (idBytes l.spanId)
    putNonempty Schema.SpanLink.traceState l.traceState
    putCounted allowance Schema.SpanLink.attributes Schema.SpanLink.dropped l.dropped l.attributes
    putFixed32 Schema.SpanLink.flags (referenceFlags l.flags l.remote)

def putSpanStatus : SpanStatus → Write Unit
  | .unset => pure ()
  | .ok => message Schema.Span.status (putNumber Schema.SpanStatus.code 1)
  | .error description => message Schema.Span.status do
    putNonempty Schema.SpanStatus.message (some description)
    putNumber Schema.SpanStatus.code 2

def putParent (parent : SpanId) : Write Unit :=
  if parent = .none then pure () else putBytes Schema.Span.parent (idBytes parent)

def putSpan (limits : Limits) (field : Nat) (s : Span) : Write Unit :=
  message field do
    putBytes Schema.Span.traceId (idBytes s.traceId)
    putBytes Schema.Span.spanId (idBytes s.spanId)
    putNonempty Schema.Span.traceState s.traceState
    putParent s.parent
    putString Schema.Span.name s.name
    putNumber Schema.Span.kind (spanKindCode s.kind)
    putFixed64 Schema.Span.start s.start.wireNanos
    putFixed64 Schema.Span.finish s.finish.wireNanos
    putCounted limits.span Schema.Span.attributes Schema.Span.droppedAttributes s.droppedAttributes
      s.attributes
    putAll (putEvent limits.event) (s.events.take limits.eventCount.toNat)
    putCount Schema.Span.droppedEvents (droppedPast limits.eventCount s.events.length s.droppedEvents)
    putAll (putLink limits.link) (s.links.take limits.linkCount.toNat)
    putCount Schema.Span.droppedLinks (droppedPast limits.linkCount s.links.length s.droppedLinks)
    putSpanStatus s.status
    putFixed32 Schema.Span.flags (referenceFlags s.flags s.parentRemote)

def putTraces (limits : Limits) (r : Resource) (spans : List Span) : Write Unit :=
  putRequest limits.generic (putSpan limits) r (Scope.group Span.scope spans)

end Payload
end Courier
