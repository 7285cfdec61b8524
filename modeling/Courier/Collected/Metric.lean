import Courier.Collected.Value
import Courier.Metric
/-!
# Metric - metrics as a collecting library keeps them

The numbers of a metric are unsigned, signed or floating-point.  Exported points hold signed or
floating-point numbers, so an unsigned one beyond the signed range is exported as the largest signed one.
Exported histograms hold floating-point sums and extremes.
-/
namespace Courier
namespace Collected

inductive Number
  | natural (value : UInt64)
  | integer (value : Int64)
  | double (value : Double)
deriving Repr, DecidableEq, Inhabited

namespace Number

/-- The largest signed number. -/
def largestInteger : Nat := 0x7fffffffffffffff

def exported : Number → NumberValue
  | .natural n => .int (Int64.ofNat (min n.toNat largestInteger))
  | .integer n => .int n
  | .double x => .double x

def toDouble : Number → Double
  | .natural n => .ofNat n.toNat
  | .integer n => .ofInt n.toInt
  | .double x => x

end Number

/-- How points relate to those of the last report. -/
inductive Temporality
  | cumulative | delta
  /-- Whichever takes less memory. -/
  | lowMemory
deriving Repr, DecidableEq, Inhabited

def Temporality.exported : Temporality → Courier.Temporality
  | .delta => .delta
  | _ => .cumulative

structure Exemplar where
  attributes : List Attribute := []
  time : Timestamp := .epoch
  value : Number
  spanId : SpanId := .none
  traceId : TraceId := .none
deriving DecidableEq, Inhabited

def Exemplar.exported (e : Exemplar) : Courier.Exemplar :=
  { attributes := exportedAll e.attributes, time := e.time, value := e.value.exported, spanId := e.spanId,
    traceId := e.traceId }

structure NumberPoint where
  attributes : List Attribute := []
  value : Number
  exemplars : List Exemplar := []
deriving DecidableEq, Inhabited

structure HistogramPoint where
  attributes : List Attribute := []
  count : UInt64 := 0
  bounds : List Double := []
  bucketCounts : List UInt64 := []
  min : Option Number := none
  max : Option Number := none
  sum : Number
  exemplars : List Exemplar := []
deriving DecidableEq, Inhabited

structure ExponentialPoint where
  attributes : List Attribute := []
  count : UInt64 := 0
  min : Option Number := none
  max : Option Number := none
  sum : Number
  scale : Int8 := 0
  zeroCount : UInt64 := 0
  positive : ExponentialBuckets := {}
  negative : ExponentialBuckets := {}
  zeroThreshold : Double := .zero
  exemplars : List Exemplar := []
deriving DecidableEq, Inhabited

inductive MetricData
  | gauge (points : List NumberPoint)
  | sum (points : List NumberPoint) (temporality : Temporality) (monotonic : Bool)
  | histogram (points : List HistogramPoint) (temporality : Temporality)
  | exponential (points : List ExponentialPoint) (temporality : Temporality)
deriving DecidableEq, Inhabited

/-- A metric.  All its points cover the same time. -/
structure Metric where
  name : String := ""
  description : String := ""
  unit : String := ""
  start : Option Timestamp := none
  time : Timestamp := .epoch
  data : MetricData
deriving DecidableEq, Inhabited

namespace Metric

def exportedNumber (m : Metric) (p : NumberPoint) : Courier.NumberPoint :=
  { attributes := exportedAll p.attributes, start := m.start, time := m.time, value := p.value.exported,
    exemplars := p.exemplars.map Exemplar.exported }

def exportedHistogram (m : Metric) (p : HistogramPoint) : Courier.HistogramPoint :=
  { attributes := exportedAll p.attributes, start := m.start, time := m.time, count := p.count,
    sum := some p.sum.toDouble, bucketCounts := p.bucketCounts, bounds := p.bounds,
    min := p.min.map Number.toDouble, max := p.max.map Number.toDouble,
    exemplars := p.exemplars.map Exemplar.exported }

def exportedExponential (m : Metric) (p : ExponentialPoint) : Courier.ExponentialPoint :=
  { attributes := exportedAll p.attributes, start := m.start, time := m.time, count := p.count,
    sum := some p.sum.toDouble, scale := p.scale, zeroCount := p.zeroCount, positive := p.positive,
    negative := p.negative, min := p.min.map Number.toDouble, max := p.max.map Number.toDouble,
    zeroThreshold := p.zeroThreshold, exemplars := p.exemplars.map Exemplar.exported }

def exportedData (m : Metric) : Courier.MetricData :=
  match m.data with
  | .gauge ps => .gauge (ps.map m.exportedNumber)
  | .sum ps t monotonic => .sum (ps.map m.exportedNumber) t.exported monotonic
  | .histogram ps t => .histogram (ps.map m.exportedHistogram) t.exported
  | .exponential ps t => .exponential (ps.map m.exportedExponential) t.exported

def exported (m : Metric) : Courier.Metric :=
  { name := m.name, description := m.description, unit := m.unit, data := m.exportedData }

end Metric

structure ScopeMetrics where
  scope : Scope := {}
  metrics : List Metric := []
deriving DecidableEq, Inhabited

def ScopeMetrics.exported (s : ScopeMetrics) : Courier.ScopeMetrics :=
  { scope := s.scope.exported, metrics := s.metrics.map Metric.exported }

end Collected
end Courier
