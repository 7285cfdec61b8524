import Courier.Span
/-!
# Metric - named measurements and their points
-/
namespace Courier

/-- A point tells the whole since the start, or what came since the last report. -/
inductive Temporality
  | delta | cumulative
deriving Repr, DecidableEq, Inhabited

inductive NumberValue
  | int (value : Int64)
  | double (value : Double)
deriving Repr, DecidableEq, Inhabited

/-- A single measurement kept as an example. -/
structure Exemplar where
  attributes : List Attribute := []
  time : Timestamp := .epoch
  value : NumberValue
  spanId : SpanId := .none
  traceId : TraceId := .none
deriving Inhabited

/-- A point of a gauge or a sum. -/
structure NumberPoint where
  attributes : List Attribute := []
  start : Option Timestamp := none
  time : Timestamp := .epoch
  value : NumberValue
  exemplars : List Exemplar := []
deriving Inhabited

/-- A point of a histogram with explicit bounds. -/
structure HistogramPoint where
  attributes : List Attribute := []
  start : Option Timestamp := none
  time : Timestamp := .epoch
  count : UInt64 := 0
  sum : Option Double := none
  bucketCounts : List UInt64 := []
  bounds : List Double := []
  min : Option Double := none
  max : Option Double := none
  exemplars : List Exemplar := []
deriving Inhabited

structure ExponentialBuckets where
  /-- The index of the first bucket. -/
  offset : Int32 := 0
  counts : List UInt64 := []
deriving Repr, DecidableEq, Inhabited

/-- A point of a histogram with exponential bounds. -/
structure ExponentialPoint where
  attributes : List Attribute := []
  start : Option Timestamp := none
  time : Timestamp := .epoch
  count : UInt64 := 0
  sum : Option Double := none
  scale : Int8 := 0
  zeroCount : UInt64 := 0
  positive : ExponentialBuckets := {}
  negative : ExponentialBuckets := {}
  min : Option Double := none
  max : Option Double := none
  zeroThreshold : Double := .zero
  exemplars : List Exemplar := []
deriving Inhabited

/-- The value below which a share of the measurements lies. -/
structure QuantileValue where
  quantile : Double
  value : Double
deriving Repr, DecidableEq, Inhabited

structure SummaryPoint where
  attributes : List Attribute := []
  start : Option Timestamp := none
  time : Timestamp := .epoch
  count : UInt64 := 0
  sum : Double := .zero
  quantiles : List QuantileValue := []
deriving Inhabited

inductive MetricData
  | gauge (points : List NumberPoint)
  | sum (points : List NumberPoint) (temporality : Temporality) (monotonic : Bool)
  | histogram (points : List HistogramPoint) (temporality : Temporality)
  | exponential (points : List ExponentialPoint) (temporality : Temporality)
  | summary (points : List SummaryPoint)
deriving Inhabited

structure Metric where
  name : String := ""
  description : String := ""
  unit : String := ""
  data : MetricData
deriving Inhabited

structure ScopeMetrics where
  scope : Scope := {}
  metrics : List Metric := []
deriving Inhabited

end Courier
