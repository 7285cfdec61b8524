import Courier.Collected.Span
import Courier.Proofs.Collected.Envelope
import Courier.Proofs.Received.Traces
/-!
# Traces - what a collector receives of the spans of a collecting library

Main statement: once such spans are written, a collector reads one span for each, under its scope
(`Span.traces_arrive`).
-/
namespace Courier
namespace Collected

open Received (traceFlags kindNumber)

/-- The entries of a trace state arrive in one line. -/
def TraceStateArrives (c : SpanContext) (line : String) : Prop :=
  line = String.intercalate "," (c.traceState.map fun e => e.1 ++ "=" ++ e.2)

structure SpanEvent.Arrives (allowance : Allowance) (e : SpanEvent) (w : Received.Event) : Prop where
  name : w.name = e.name
  time : e.time.Arrives w.time
  attributes : AttributesArrive Value.Arrives allowance e.dropped e.attributes w.attributes w.dropped

structure SpanLink.Arrives (allowance : Allowance) (l : SpanLink) (w : Received.Link) : Prop where
  traceId : w.traceId = l.context.traceId.toList
  spanId : w.spanId = l.context.spanId.toList
  traceState : TraceStateArrives l.context w.traceState
  flags : w.flags = traceFlags l.context.flags l.context.remote
  attributes : AttributesArrive Value.Arrives allowance l.dropped l.attributes w.attributes w.dropped

/-- A span arrives with its first events and links, and the others are counted. -/
structure Span.Arrives (limits : Limits) (s : Span) (w : Received.Span) : Prop where
  traceId : w.traceId = s.context.traceId.toList
  spanId : w.spanId = s.context.spanId.toList
  traceState : TraceStateArrives s.context w.traceState
  flags : w.flags = traceFlags s.context.flags s.parentRemote
  parent : w.parent = if s.parent = .none then [] else s.parent.toList
  name : w.name = s.name
  kind : w.kind = kindNumber s.kind
  start : s.start.Arrives w.start
  finish : s.finish.Arrives w.finish
  attributes : AttributesArrive Value.Arrives limits.span s.droppedAttributes s.attributes w.attributes
    w.droppedAttributes
  events : FirstArrive (SpanEvent.Arrives limits.event) limits.eventCount.toNat s.droppedEvents s.events w.events
    w.droppedEvents
  links : FirstArrive (SpanLink.Arrives limits.link) limits.linkCount.toNat s.droppedLinks s.links w.links
    w.droppedLinks
  status : w.status = Received.Status.of? s.status

theorem SpanContext.stateText_arrives (c : SpanContext) : TraceStateArrives c (c.stateText?.getD "") := by
  unfold TraceStateArrives stateText?
  simp only
  split
  · rename_i h
    exact h.symm
  · rfl

theorem SpanEvent.arrives (allowance : Allowance) (e : SpanEvent) :
    e.Arrives allowance (Received.Event.of allowance e.exported) where
  name := rfl
  time := e.time.arrives
  attributes := exportedAll_arrive allowance e.dropped e.attributes

theorem SpanLink.arrives (allowance : Allowance) (l : SpanLink) :
    l.Arrives allowance (Received.Link.of allowance l.exported) where
  traceId := rfl
  spanId := rfl
  traceState := l.context.stateText_arrives
  flags := rfl
  attributes := exportedAll_arrive allowance l.dropped l.attributes

/-- **A span arrives.** -/
theorem Span.arrives (limits : Limits) (s : Span) : s.Arrives limits (Received.Span.of limits s.exported) where
  traceId := rfl
  spanId := rfl
  traceState := s.context.stateText_arrives
  flags := rfl
  parent := rfl
  name := rfl
  kind := rfl
  start := s.start.arrives
  finish := s.finish.arrives
  attributes := exportedAll_arrive limits.span s.droppedAttributes s.attributes
  events := .of (SpanEvent.arrives limits.event) limits.eventCount.toNat s.droppedEvents s.events
  links := .of (SpanLink.arrives limits.link) limits.linkCount.toNat s.droppedLinks s.links
  status := rfl

theorem Span.steady (s : Span) : s.exported.Steady where
  scope := s.scope.steady
  attributes := exportedAll_steady _
  events := List.forall_mem_map.2 fun _ _ => exportedAll_steady _
  links := List.forall_mem_map.2 fun _ _ => exportedAll_steady _

def SpansArrive (limits : Limits) (spans : List Span) (scopes : List (Received.ScopeGroup Received.Span)) : Prop :=
  Grouped (fun s => s.scope.key) (fun members g => ∃ s, members.head? = some s ∧
    GroupArrives limits.generic (Span.Arrives limits) s.scope members g) spans scopes

/-- **Spans arrive.** -/
theorem Span.traces_arrive (limits : Limits) (resource : Resource) (spans : List Span) {buffer : ByteArray}
    (hbuffer : buffer.size ≤ Buffer.maxSize) (offset : Nat) :
    BatchArrives limits resource (.traces (spans.map exported)) buffer offset Received.Span.read?
      (SpansArrive limits spans) := by
  intro finish h
  have hs : ∀ s ∈ spans.map exported, s.Steady := List.forall_mem_map.2 fun s _ => s.steady
  refine ⟨_, Received.traces_decode limits resource.steady hs hbuffer h, _, rfl, resource.arrives _, ?_⟩
  exact .of exported (fun _ => rfl) (Span.arrives limits) spans

end Collected
end Courier
