import Courier.Proofs.Payload.Logs
/-!
# Metrics - the parts of metrics and of their points

Main statements: a steady metric is put as `metricParts` (`puts_metric`), and so a request with metrics as the
request of these (`puts_metrics`).
-/
namespace Courier
namespace Payload

open Wire
open Received (Attribute.kept)

/-! ## Parts -/

def keptPieces (allowance : Allowance) (attributes : List Attribute) : List Piece :=
  (Attribute.kept allowance attributes).map attributePiece

def doublePieces : NumberValue → List Piece
  | .double x => [.fixed64 x.bits]
  | .int _ => []

/-- The pieces of a number in the field for integers. -/
def intPieces : NumberValue → List Piece
  | .double _ => []
  | .int n => [.fixed64 n.toUInt64]

def optionalPieces (o : Option Double) : List Piece := o.toList.map fun x => .fixed64 x.bits

def startPieces (o : Option Timestamp) : List Piece := o.toList.map fun t => .fixed64 t.wireNanos

def exemplarParts (allowance : Allowance) (e : Exemplar) : Parts :=
  [(7, keptPieces allowance e.attributes), (2, [.fixed64 e.time.wireNanos]), (3, doublePieces e.value),
    (6, intPieces e.value), (4, [.bytes e.spanId.toList]), (5, [.bytes e.traceId.toList])]

def exemplarPieces (allowance : Allowance) (es : List Exemplar) : List Piece :=
  es.map fun e => .message (encodeParts (exemplarParts allowance e))

def numberPointParts (allowance : Allowance) (p : NumberPoint) : Parts :=
  [(7, keptPieces allowance p.attributes), (2, startPieces p.start), (3, [.fixed64 p.time.wireNanos]),
    (4, doublePieces p.value), (6, intPieces p.value), (5, exemplarPieces allowance p.exemplars)]

def histogramPointParts (allowance : Allowance) (p : HistogramPoint) : Parts :=
  [(9, keptPieces allowance p.attributes), (2, startPieces p.start), (3, [.fixed64 p.time.wireNanos]),
    (4, [.fixed64 p.count]), (5, optionalPieces p.sum),
    (6, runPieces (fun n => littleEndian 8 n.toNat) p.bucketCounts),
    (7, runPieces (fun x => littleEndian 8 x.bits.toNat) p.bounds),
    (8, exemplarPieces allowance p.exemplars), (11, optionalPieces p.min), (12, optionalPieces p.max)]

def zigzagPiece (n : Int32) : Piece := .varint (UInt64.ofNat (zigzag n.toInt))

def bucketsParts (b : ExponentialBuckets) : Parts :=
  [(1, [zigzagPiece b.offset]), (2, runPieces (fun n => Varint.encode n.toNat) b.counts)]

def exponentialPointParts (allowance : Allowance) (p : ExponentialPoint) : Parts :=
  [(1, keptPieces allowance p.attributes), (2, startPieces p.start), (3, [.fixed64 p.time.wireNanos]),
    (4, [.fixed64 p.count]), (5, optionalPieces p.sum), (6, [zigzagPiece p.scale.toInt32]),
    (7, [.fixed64 p.zeroCount]), (8, [.message (encodeParts (bucketsParts p.positive))]),
    (9, [.message (encodeParts (bucketsParts p.negative))]), (11, exemplarPieces allowance p.exemplars),
    (12, optionalPieces p.min), (13, optionalPieces p.max), (14, [.fixed64 p.zeroThreshold.bits])]

def quantileParts (q : QuantileValue) : Parts :=
  [(1, [.fixed64 q.quantile.bits]), (2, [.fixed64 q.value.bits])]

def summaryPointParts (allowance : Allowance) (p : SummaryPoint) : Parts :=
  [(7, keptPieces allowance p.attributes), (2, startPieces p.start), (3, [.fixed64 p.time.wireNanos]),
    (4, [.fixed64 p.count]), (5, [.fixed64 p.sum.bits]),
    (6, p.quantiles.map fun q => .message (encodeParts (quantileParts q)))]

def pointPieces {α : Type} (point : Allowance → α → Parts) (allowance : Allowance) (ps : List α) : List Piece :=
  ps.map fun p => .message (encodeParts (point allowance p))

def temporalityPiece (t : Temporality) : Piece := .varint (UInt64.ofNat (temporalityCode t))

/-- The number of a kind of metric, and the message of its points. -/
def dataParts (allowance : Allowance) : MetricData → Nat × Parts
  | .gauge ps => (5, [(1, pointPieces numberPointParts allowance ps)])
  | .sum ps t monotonic => (7, [(1, pointPieces numberPointParts allowance ps), (2, [temporalityPiece t]),
      (3, if monotonic then [.varint 1] else [])])
  | .histogram ps t => (9, [(1, pointPieces histogramPointParts allowance ps), (2, [temporalityPiece t])])
  | .exponential ps t => (10, [(1, pointPieces exponentialPointParts allowance ps), (2, [temporalityPiece t])])
  | .summary ps => (11, [(1, pointPieces summaryPointParts allowance ps)])

/-- The message of a metric. -/
def metricParts (allowance : Allowance) (m : Metric) : Parts :=
  [(1, [textPiece m.name]), (2, (nonempty (some m.description)).toList.map textPiece),
    (3, (nonempty (some m.unit)).toList.map textPiece),
    ((dataParts allowance m.data).1, [.message (encodeParts (dataParts allowance m.data).2)])]

/-! ## Writers -/

theorem puts_numberValue (doubleField intField : Nat) (v : NumberValue) :
    Puts (putNumberValue doubleField intField v) [(doubleField, doublePieces v), (intField, intPieces v)] := by
  cases v with
  | double x => exact puts_fixed64 doubleField x.bits
  | int n => exact puts_fixed64 intField n.toUInt64

theorem puts_times (start : Option Timestamp) (time : Timestamp) :
    Puts (putTimes start time) [(2, startPieces start), (3, [.fixed64 time.wireNanos])] :=
  (puts_time? 2 start).cons (puts_fixed64 3 time.wireNanos)

theorem puts_zigzag (field : Nat) (n : Int32) : Puts (putSint32 field n) [(field, [zigzagPiece n])] := by
  have := n.toInt_lt
  have := n.le_toInt
  refine puts_number field ?_
  unfold zigzag
  split <;> omega

theorem puts_exemplar (allowance : Allowance) (field : Nat) {e : Exemplar} (h : e.Steady) :
    Puts (putExemplar allowance field e) [(field, [.message (encodeParts (exemplarParts allowance e))])] := by
  have hvalue := (puts_numberValue 3 6 e.value).append ((puts_id 4 e.spanId).cons (puts_id 5 e.traceId))
  have hb := (puts_kept allowance 7 h).cons ((puts_fixed64 2 e.time.wireNanos).cons hvalue)
  exact hb.message field

theorem puts_exemplars (allowance : Allowance) (field : Nat) {es : List Exemplar} (h : ∀ e ∈ es, e.Steady) :
    Puts (putAll (putExemplar allowance field) es) [(field, exemplarPieces allowance es)] :=
  puts_all field (putExemplar allowance field) es fun e he => puts_exemplar allowance field (h e he)

theorem puts_numberPoint (allowance : Allowance) {p : NumberPoint} (h : p.Steady) :
    Puts (putNumberPoint allowance p) [(1, [.message (encodeParts (numberPointParts allowance p))])] := by
  have hvalue := (puts_numberValue 4 6 p.value).append (puts_exemplars allowance 5 h.exemplars)
  have hb := (puts_kept allowance 7 h.attributes).cons ((puts_times p.start p.time).append hvalue)
  exact hb.message 1

theorem puts_fixedRun {α : Type} (field : Nat) (word : α → UInt64) (xs : List α) :
    Puts (putPacked field (fun x => putRaw (fixed64 (word x))) xs)
      [(field, runPieces (fun x => littleEndian 8 (word x).toNat) xs)] :=
  puts_packed field xs fun x => (fills_fixed64 (word x)).emits

theorem puts_histogramPoint (allowance : Allowance) {p : HistogramPoint} (h : p.Steady) :
    Puts (putHistogramPoint allowance p) [(1, [.message (encodeParts (histogramPointParts allowance p))])] := by
  have hend := (puts_exemplars allowance 8 h.exemplars).cons ((puts_double? 11 p.min).cons (puts_double? 12 p.max))
  have hruns := (puts_fixedRun 6 (fun n => n) p.bucketCounts).cons ((puts_fixedRun 7 Double.bits p.bounds).cons hend)
  have hcount := (puts_fixed64 4 p.count).cons ((puts_double? 5 p.sum).cons hruns)
  have hb := (puts_kept allowance 9 h.attributes).cons ((puts_times p.start p.time).append hcount)
  exact hb.message 1

theorem puts_buckets (field : Nat) (b : ExponentialBuckets) :
    Puts (putBuckets field b) [(field, [.message (encodeParts (bucketsParts b))])] := by
  have hb := (puts_zigzag 1 b.offset).cons (puts_packed 2 b.counts fun n => (fills_putVarint n.toNat).emits)
  exact hb.message field

theorem puts_exponentialPoint (allowance : Allowance) {p : ExponentialPoint} (h : p.Steady) :
    Puts (putExponentialPoint allowance p)
      [(1, [.message (encodeParts (exponentialPointParts allowance p))])] := by
  -- From the last field back to the first.
  have hend := (puts_double? 12 p.min).cons ((puts_double? 13 p.max).cons (puts_fixed64 14 p.zeroThreshold.bits))
  have hbuckets := (puts_buckets 8 p.positive).cons ((puts_buckets 9 p.negative).cons
    ((puts_exemplars allowance 11 h.exemplars).cons hend))
  have hzero := (puts_zigzag 6 p.scale.toInt32).cons ((puts_fixed64 7 p.zeroCount).cons hbuckets)
  have hcount := (puts_fixed64 4 p.count).cons ((puts_double? 5 p.sum).cons hzero)
  have hb := (puts_kept allowance 1 h.attributes).cons ((puts_times p.start p.time).append hcount)
  exact hb.message 1

theorem puts_quantile (q : QuantileValue) :
    Puts (putQuantile q) [(6, [.message (encodeParts (quantileParts q))])] :=
  ((puts_fixed64 1 q.quantile.bits).cons (puts_fixed64 2 q.value.bits)).message 6

theorem puts_summaryPoint (allowance : Allowance) {p : SummaryPoint} (h : p.Steady) :
    Puts (putSummaryPoint allowance p) [(1, [.message (encodeParts (summaryPointParts allowance p))])] := by
  have hquantiles := puts_all 6 putQuantile p.quantiles fun q _ => puts_quantile q
  have hcount := (puts_fixed64 4 p.count).cons ((puts_fixed64 5 p.sum.bits).cons hquantiles)
  have hb := (puts_kept allowance 7 h).cons ((puts_times p.start p.time).append hcount)
  exact hb.message 1

theorem puts_temporality (t : Temporality) : Puts (putTemporality t) [(2, [temporalityPiece t])] :=
  puts_number 2 (by cases t <;> decide)

theorem puts_monotonic (monotonic : Bool) :
    Puts (if monotonic then putBool 3 true else pure ()) [(3, if monotonic then [.varint 1] else [])] := by
  cases monotonic
  · exact puts_nothing 3
  · exact puts_bool 3 true

theorem puts_metricData (allowance : Allowance) {d : MetricData} (h : d.Steady) :
    Puts (putMetricData allowance d)
      [((dataParts allowance d).1, [.message (encodeParts (dataParts allowance d).2)])] := by
  cases d with
  | gauge ps =>
    have hp := puts_all 1 (putNumberPoint allowance) ps fun p hp => puts_numberPoint allowance (h p hp)
    exact hp.message 5
  | sum ps t monotonic =>
    have hp := puts_all 1 (putNumberPoint allowance) ps fun p hp => puts_numberPoint allowance (h p hp)
    exact (hp.cons ((puts_temporality t).cons (puts_monotonic monotonic))).message 7
  | histogram ps t =>
    have hp := puts_all 1 (putHistogramPoint allowance) ps fun p hp => puts_histogramPoint allowance (h p hp)
    exact (hp.cons (puts_temporality t)).message 9
  | exponential ps t =>
    have hp := puts_all 1 (putExponentialPoint allowance) ps fun p hp => puts_exponentialPoint allowance (h p hp)
    exact (hp.cons (puts_temporality t)).message 10
  | summary ps =>
    have hp := puts_all 1 (putSummaryPoint allowance) ps fun p hp => puts_summaryPoint allowance (h p hp)
    exact hp.message 11

/-- **A steady metric is put as its parts.** -/
theorem puts_metric (allowance : Allowance) (field : Nat) {m : Metric} (h : m.data.Steady) :
    Puts (putMetric allowance field m) [(field, [.message (encodeParts (metricParts allowance m))])] := by
  have hb := (puts_string 1 m.name).cons ((puts_nonempty 2 (some m.description)).cons
    ((puts_nonempty 3 (some m.unit)).cons (puts_metricData allowance h)))
  exact hb.message field

theorem puts_metrics (limits : Limits) {r : Resource} {scopes : List ScopeMetrics} (hr : r.Steady)
    (h : ∀ s ∈ scopes, s.Steady) :
    Puts (putMetrics limits r scopes)
      (requestParts limits.generic (metricParts limits.generic) r (scopes.map fun s => (s.scope, s.metrics))) := by
  refine puts_request hr fun g hg => ?_
  obtain ⟨s, hs, rfl⟩ := List.mem_map.1 hg
  exact ⟨(h s hs).scope, fun m hm => puts_metric limits.generic 2 ((h s hs).metrics m hm)⟩

end Payload
end Courier
