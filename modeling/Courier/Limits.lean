import Courier.Environment
/-!
# Limits - how many attributes, events and links a record keeps, and how long its texts may be

A length limit counts characters and may be absent.  Two generic limits stand in for the specific
ones that the environment leaves open.
-/
namespace Courier

/-- The number of entries kept where nothing else is said. -/
def defaultCount : UInt64 := 128

/-- The limits applied while a batch is written. -/
structure Limits where
  /-- Characters kept of a text value where no specific limit applies. -/
  valueLength : Option UInt64 := none
  /-- Attributes kept where no specific limit applies. -/
  attributeCount : UInt64 := defaultCount
  /-- Characters kept of the text values of spans, their events and their links. -/
  spanValueLength : Option UInt64 := none
  /-- Attributes kept on a span. -/
  spanAttributeCount : UInt64 := defaultCount
  /-- Events kept on a span. -/
  eventCount : UInt64 := defaultCount
  /-- Links kept on a span. -/
  linkCount : UInt64 := defaultCount
  /-- Attributes kept on an event. -/
  eventAttributeCount : UInt64 := defaultCount
  /-- Attributes kept on a link. -/
  linkAttributeCount : UInt64 := defaultCount
  /-- Attributes kept on a log record. -/
  logAttributeCount : UInt64 := defaultCount
  /-- Characters kept of the text values of log records. -/
  logValueLength : Option UInt64 := none
deriving Repr, DecidableEq, Inhabited

namespace Limits

def ofEnvironment (env : Environment) : Limits :=
  let valueLength := env.number? "OTEL_ATTRIBUTE_VALUE_LENGTH_LIMIT"
  let attributeCount := (env.number? "OTEL_ATTRIBUTE_COUNT_LIMIT").getD defaultCount
  let spanAttributeCount := (env.number? "OTEL_SPAN_ATTRIBUTE_COUNT_LIMIT").getD attributeCount
  { valueLength
    attributeCount
    spanValueLength := (env.number? "OTEL_SPAN_ATTRIBUTE_VALUE_LENGTH_LIMIT").or valueLength
    spanAttributeCount
    eventCount := (env.number? "OTEL_SPAN_EVENT_COUNT_LIMIT").getD defaultCount
    linkCount := (env.number? "OTEL_SPAN_LINK_COUNT_LIMIT").getD defaultCount
    eventAttributeCount := (env.number? "OTEL_EVENT_ATTRIBUTE_COUNT_LIMIT").getD spanAttributeCount
    linkAttributeCount := (env.number? "OTEL_LINK_ATTRIBUTE_COUNT_LIMIT").getD spanAttributeCount
    logAttributeCount := (env.number? "OTEL_LOGRECORD_ATTRIBUTE_COUNT_LIMIT").getD attributeCount
    logValueLength := (env.number? "OTEL_LOGRECORD_ATTRIBUTE_VALUE_LENGTH_LIMIT").or valueLength }

/-- One length limit for texts wherever they stand. -/
def withValueLength (l : Limits) (n : UInt64) : Limits :=
  { l with valueLength := some n, spanValueLength := some n, logValueLength := some n }

/-- One count limit for attributes wherever they stand. -/
def withAttributeCount (l : Limits) (n : UInt64) : Limits :=
  { l with
    attributeCount := n
    spanAttributeCount := n
    eventAttributeCount := n
    linkAttributeCount := n
    logAttributeCount := n }

end Limits
end Courier
