import Courier.Scope
import Courier.Timestamp
/-!
# Span - timed operations, with their events and links
-/
namespace Courier

abbrev TraceId : Type := Vector UInt8 16

abbrev SpanId : Type := Vector UInt8 8

/-- The id that stands for no trace. -/
def TraceId.none : TraceId := Vector.replicate 16 0

/-- The id that stands for no span. -/
def SpanId.none : SpanId := Vector.replicate 8 0

/-- The part a span plays in a call. -/
inductive SpanKind
  | internal | server | client | producer | consumer
deriving Repr, DecidableEq, Inhabited

/-- How the operation of a span ended. -/
inductive SpanStatus
  | unset
  | ok
  | error (description : String)
deriving Repr, DecidableEq, Inhabited

structure SpanEvent where
  name : String := ""
  time : Timestamp := .epoch
  attributes : List Attribute := []
  /-- Attributes that were left out before. -/
  dropped : UInt32 := 0
deriving Inhabited

structure SpanLink where
  traceId : TraceId := .none
  spanId : SpanId := .none
  traceState : Option String := none
  flags : UInt8 := 1
  /-- The other span is of another process. -/
  remote : Bool := true
  attributes : List Attribute := []
  dropped : UInt32 := 0
deriving Inhabited

structure Span where
  name : String := ""
  scope : Scope := {}
  traceId : TraceId := .none
  spanId : SpanId := .none
  traceState : Option String := none
  flags : UInt8 := 1
  /-- The span it is part of, which may be `SpanId.none`. -/
  parent : SpanId := .none
  /-- The parent is of another process. -/
  parentRemote : Bool := false
  kind : SpanKind := .internal
  start : Timestamp := .epoch
  finish : Timestamp := .epoch
  attributes : List Attribute := []
  droppedAttributes : UInt32 := 0
  events : List SpanEvent := []
  droppedEvents : UInt32 := 0
  links : List SpanLink := []
  droppedLinks : UInt32 := 0
  status : SpanStatus := .unset
deriving Inhabited

end Courier
