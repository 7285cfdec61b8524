import Courier.Payload.Logs
import Courier.Metric
/-!
# Metrics - how metrics are written

Metrics come grouped by scope and stay in that order.  Lists of numbers are written as one field; an empty
one is absent.  The attributes that a point does not keep are not counted.
-/
namespace Courier
namespace Payload

open Wire

def temporalityCode : Temporality → Nat
  | .delta => 1
  | .cumulative => 2

/-- Writes the attributes of a point that are allowed. -/
def putKept (allowance : Allowance) (field : Nat) (attributes : List Attribute) : Write Unit := do
  let _ ← putAttributes allowance field attributes

/-- Writes a number in one of two fields, by its kind. -/
def putNumberValue (doubleField intField : Nat) : NumberValue → Write Unit
  | .double x => putDouble doubleField x
  | .int n => putSfixed64 intField n

/-- Writes numbers as one field, unless there are none. -/
def putPacked {α : Type} (field : Nat) (put : α → Write Unit) (xs : List α) : Write Unit :=
  if xs.isEmpty then pure () else message field (putAll put xs)

def putTimes (start : Option Timestamp) (time : Timestamp) : Write Unit := do
  putTime? Schema.Point.start start
  putFixed64 Schema.Point.time time.wireNanos

def putExemplar (allowance : Allowance) (field : Nat) (e : Exemplar) : Write Unit :=
  message field do
    putKept allowance Schema.Exemplar.attributes e.attributes
    putFixed64 Schema.Exemplar.time e.time.wireNanos
    putNumberValue Schema.Exemplar.double Schema.Exemplar.int e.value
    putBytes Schema.Exemplar.spanId (idBytes e.spanId)
    putBytes Schema.Exemplar.traceId (idBytes e.traceId)

def putNumberPoint (allowance : Allowance) (p : NumberPoint) : Write Unit :=
  message Schema.Metric.points do
    putKept allowance Schema.NumberPoint.attributes p.attributes
    putTimes p.start p.time
    putNumberValue Schema.NumberPoint.double Schema.NumberPoint.int p.value
    putAll (putExemplar allowance Schema.NumberPoint.exemplars) p.exemplars

def putHistogramPoint (allowance : Allowance) (p : HistogramPoint) : Write Unit :=
  message Schema.Metric.points do
    putKept allowance Schema.HistogramPoint.attributes p.attributes
    putTimes p.start p.time
    putFixed64 Schema.HistogramPoint.count p.count
    putDouble? Schema.HistogramPoint.sum p.sum
    putPacked Schema.HistogramPoint.bucketCounts (fun n => putRaw (fixed64 n)) p.bucketCounts
    putPacked Schema.HistogramPoint.bounds (fun x => putRaw (fixed64 x.bits)) p.bounds
    putAll (putExemplar allowance Schema.HistogramPoint.exemplars) p.exemplars
    putDouble? Schema.HistogramPoint.min p.min
    putDouble? Schema.HistogramPoint.max p.max

def putBuckets (field : Nat) (b : ExponentialBuckets) : Write Unit :=
  message field do
    putSint32 Schema.ExponentialBuckets.offset b.offset
    putPacked Schema.ExponentialBuckets.counts (fun n => putVarint n.toNat) b.counts

def putExponentialPoint (allowance : Allowance) (p : ExponentialPoint) : Write Unit :=
  message Schema.Metric.points do
    putKept allowance Schema.ExponentialPoint.attributes p.attributes
    putTimes p.start p.time
    putFixed64 Schema.ExponentialPoint.count p.count
    putDouble? Schema.ExponentialPoint.sum p.sum
    putSint32 Schema.ExponentialPoint.scale p.scale.toInt32
    putFixed64 Schema.ExponentialPoint.zeroCount p.zeroCount
    putBuckets Schema.ExponentialPoint.positive p.positive
    putBuckets Schema.ExponentialPoint.negative p.negative
    putAll (putExemplar allowance Schema.ExponentialPoint.exemplars) p.exemplars
    putDouble? Schema.ExponentialPoint.min p.min
    putDouble? Schema.ExponentialPoint.max p.max
    putDouble Schema.ExponentialPoint.zeroThreshold p.zeroThreshold

def putQuantile (q : QuantileValue) : Write Unit :=
  message Schema.SummaryPoint.quantiles do
    putDouble Schema.QuantileValue.quantile q.quantile
    putDouble Schema.QuantileValue.value q.value

def putSummaryPoint (allowance : Allowance) (p : SummaryPoint) : Write Unit :=
  message Schema.Metric.points do
    putKept allowance Schema.SummaryPoint.attributes p.attributes
    putTimes p.start p.time
    putFixed64 Schema.SummaryPoint.count p.count
    putDouble Schema.SummaryPoint.sum p.sum
    putAll putQuantile p.quantiles

def putTemporality (t : Temporality) : Write Unit :=
  putNumber Schema.Metric.temporality (temporalityCode t)

/-- Writes the points of a metric and how they were aggregated. -/
def putMetricData (allowance : Allowance) : MetricData → Write Unit
  | .gauge ps => message Schema.Metric.gauge (putAll (putNumberPoint allowance) ps)
  | .sum ps t monotonic => message Schema.Metric.sum do
    putAll (putNumberPoint allowance) ps
    putTemporality t
    if monotonic then putBool Schema.Metric.monotonic true else pure ()
  | .histogram ps t => message Schema.Metric.histogram do
    putAll (putHistogramPoint allowance) ps
    putTemporality t
  | .exponential ps t => message Schema.Metric.exponential do
    putAll (putExponentialPoint allowance) ps
    putTemporality t
  | .summary ps => message Schema.Metric.summary (putAll (putSummaryPoint allowance) ps)

def putMetric (allowance : Allowance) (field : Nat) (m : Metric) : Write Unit :=
  message field do
    putString Schema.Metric.name m.name
    putNonempty Schema.Metric.description (some m.description)
    putNonempty Schema.Metric.unit (some m.unit)
    putMetricData allowance m.data

def putMetrics (limits : Limits) (r : Resource) (scopes : List ScopeMetrics) : Write Unit :=
  putRequest limits.generic (putMetric limits.generic) r (scopes.map fun s => (s.scope, s.metrics))

end Payload
end Courier
