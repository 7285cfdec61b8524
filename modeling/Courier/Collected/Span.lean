import Courier.Collected.Value
import Courier.Span
/-!
# Span - timed operations as a collecting library keeps them
-/
namespace Courier
namespace Collected

/-- What a span passes on to the spans that it causes. -/
structure SpanContext where
  traceId : TraceId := .none
  spanId : SpanId := .none
  flags : UInt8 := 1
  remote : Bool := false
  /-- Entries of the vendors along the way. -/
  traceState : List (String × String) := []
deriving DecidableEq, Inhabited

/-- The entries of a trace state in one line, if there are any. -/
def SpanContext.stateText? (c : SpanContext) : Option String :=
  let line := String.intercalate "," (c.traceState.map fun (k, v) => k ++ "=" ++ v)
  if line = "" then none else some line

structure SpanEvent where
  name : String := ""
  time : Timestamp := .epoch
  attributes : List Attribute := []
  dropped : UInt32 := 0
deriving DecidableEq, Inhabited

def SpanEvent.exported (e : SpanEvent) : Courier.SpanEvent :=
  { name := e.name, time := e.time, attributes := exportedAll e.attributes, dropped := e.dropped }

structure SpanLink where
  context : SpanContext := {}
  attributes : List Attribute := []
  dropped : UInt32 := 0
deriving DecidableEq, Inhabited

def SpanLink.exported (l : SpanLink) : Courier.SpanLink :=
  { traceId := l.context.traceId, spanId := l.context.spanId, traceState := l.context.stateText?,
    flags := l.context.flags, remote := l.context.remote, attributes := exportedAll l.attributes,
    dropped := l.dropped }

structure Span where
  context : SpanContext := {}
  parent : SpanId := .none
  parentRemote : Bool := false
  kind : SpanKind := .internal
  name : String := ""
  start : Timestamp := .epoch
  finish : Timestamp := .epoch
  attributes : List Attribute := []
  droppedAttributes : UInt32 := 0
  events : List SpanEvent := []
  droppedEvents : UInt32 := 0
  links : List SpanLink := []
  droppedLinks : UInt32 := 0
  status : SpanStatus := .unset
  scope : Scope := {}
deriving DecidableEq, Inhabited

def Span.exported (s : Span) : Courier.Span :=
  { name := s.name, scope := s.scope.exported, traceId := s.context.traceId, spanId := s.context.spanId,
    traceState := s.context.stateText?, flags := s.context.flags, parent := s.parent,
    parentRemote := s.parentRemote, kind := s.kind, start := s.start, finish := s.finish,
    attributes := exportedAll s.attributes, droppedAttributes := s.droppedAttributes,
    events := s.events.map SpanEvent.exported, droppedEvents := s.droppedEvents,
    links := s.links.map SpanLink.exported, droppedLinks := s.droppedLinks, status := s.status }

end Collected
end Courier
