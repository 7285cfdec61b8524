/-!
# Schema - the field numbers of the messages a collector receives

One namespace per message.
-/
namespace Courier
namespace Schema

-- An export request, what it holds per resource, and what that holds per scope, alike for every signal.
namespace Envelope
def perResource : Nat := 1
def resource : Nat := 1
def perScope : Nat := 2
def resourceUrl : Nat := 3
def scope : Nat := 1
def records : Nat := 2
def scopeUrl : Nat := 3
end Envelope

namespace AnyValue
def string : Nat := 1
def bool : Nat := 2
def int : Nat := 3
def double : Nat := 4
def array : Nat := 5
def keyValues : Nat := 6
def bytes : Nat := 7
/-- The elements of an array and the entries of a list of key-values. -/
def values : Nat := 1
end AnyValue

namespace KeyValue
def key : Nat := 1
def value : Nat := 2
end KeyValue

namespace Scope
def name : Nat := 1
def version : Nat := 2
def attributes : Nat := 3
def dropped : Nat := 4
end Scope

namespace Resource
def attributes : Nat := 1
def dropped : Nat := 2
end Resource

namespace Span
def traceId : Nat := 1
def spanId : Nat := 2
def traceState : Nat := 3
def parent : Nat := 4
def name : Nat := 5
def kind : Nat := 6
def start : Nat := 7
def finish : Nat := 8
def attributes : Nat := 9
def droppedAttributes : Nat := 10
def events : Nat := 11
def droppedEvents : Nat := 12
def links : Nat := 13
def droppedLinks : Nat := 14
def status : Nat := 15
def flags : Nat := 16
end Span

namespace SpanEvent
def time : Nat := 1
def name : Nat := 2
def attributes : Nat := 3
def dropped : Nat := 4
end SpanEvent

namespace SpanLink
def traceId : Nat := 1
def spanId : Nat := 2
def traceState : Nat := 3
def attributes : Nat := 4
def dropped : Nat := 5
def flags : Nat := 6
end SpanLink

namespace SpanStatus
def message : Nat := 2
def code : Nat := 3
end SpanStatus

namespace LogRecord
def time : Nat := 1
def severity : Nat := 2
def severityText : Nat := 3
def body : Nat := 5
def attributes : Nat := 6
def dropped : Nat := 7
def flags : Nat := 8
def traceId : Nat := 9
def spanId : Nat := 10
def observed : Nat := 11
def eventName : Nat := 12
end LogRecord

namespace Metric
def name : Nat := 1
def description : Nat := 2
def unit : Nat := 3
def gauge : Nat := 5
def sum : Nat := 7
def histogram : Nat := 9
def exponential : Nat := 10
def summary : Nat := 11
/-- The points of a metric of any kind. -/
def points : Nat := 1
def temporality : Nat := 2
def monotonic : Nat := 3
end Metric

-- The start and the time of a point of any kind.
namespace Point
def start : Nat := 2
def time : Nat := 3
end Point

namespace NumberPoint
def double : Nat := 4
def exemplars : Nat := 5
def int : Nat := 6
def attributes : Nat := 7
end NumberPoint

namespace HistogramPoint
def count : Nat := 4
def sum : Nat := 5
def bucketCounts : Nat := 6
def bounds : Nat := 7
def exemplars : Nat := 8
def attributes : Nat := 9
def min : Nat := 11
def max : Nat := 12
end HistogramPoint

namespace ExponentialPoint
def attributes : Nat := 1
def count : Nat := 4
def sum : Nat := 5
def scale : Nat := 6
def zeroCount : Nat := 7
def positive : Nat := 8
def negative : Nat := 9
def exemplars : Nat := 11
def min : Nat := 12
def max : Nat := 13
def zeroThreshold : Nat := 14
end ExponentialPoint

namespace ExponentialBuckets
def offset : Nat := 1
def counts : Nat := 2
end ExponentialBuckets

namespace SummaryPoint
def count : Nat := 4
def sum : Nat := 5
def quantiles : Nat := 6
def attributes : Nat := 7
end SummaryPoint

namespace QuantileValue
def quantile : Nat := 1
def value : Nat := 2
end QuantileValue

namespace Exemplar
def time : Nat := 2
def double : Nat := 3
def spanId : Nat := 4
def traceId : Nat := 5
def int : Nat := 6
def attributes : Nat := 7
end Exemplar

end Schema
end Courier
