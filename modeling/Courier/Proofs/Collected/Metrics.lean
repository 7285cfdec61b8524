import Courier.Collected.Metric
import Courier.Proofs.Collected.Envelope
import Courier.Proofs.Double
import Courier.Proofs.Received.Metrics
/-!
# Metrics - what a collector receives of the metrics of a collecting library

The value of a point arrives whole, but for an unsigned number beyond the signed range, and the sums and extremes of
histograms arrive as the nearest doubles.  Main statement: once such metrics are written, a collector reads one
metric for each, under its scope (`ScopeMetrics.metrics_arrive`).
-/
namespace Courier
namespace Collected

/-! ## Numbers -/

namespace Number

/-- What becomes of the value of a point. -/
inductive Arrives : Number → NumberValue → Prop
  | natural (n : UInt64) {k : Int64} (h : k.toInt = min n.toNat 0x7fffffffffffffff) : Arrives (.natural n) (.int k)
  | integer (n : Int64) : Arrives (.integer n) (.int n)
  | double (x : Double) : Arrives (.double x) (.double x)

/-- What becomes of the sum or an extreme of a histogram. -/
inductive Converts : Number → Double → Prop
  | natural (n : UInt64) {x : Double} (m : Nat) (hm : Double.IsNearest n.toNat m) (hx : x.Whole false m) :
    Converts (.natural n) x
  | integer (n : Int64) {x : Double} (m : Nat) (hm : Double.IsNearest n.toInt.natAbs m)
    (hx : x.Whole (decide (n.toInt < 0)) m) : Converts (.integer n) x
  | double (x : Double) : Converts (.double x) x

theorem arrives (n : Number) : n.Arrives n.exported := by
  cases n with
  | natural n =>
    refine .natural n ?_
    have hle : min n.toNat largestInteger ≤ 0x7fffffffffffffff := Nat.min_le_right _ _
    rw [Int64.toInt_ofNat_of_lt (by omega)]
    simp [largestInteger]
  | integer n => exact .integer n
  | double x => exact .double x

theorem converts (n : Number) : n.Converts n.toDouble := by
  cases n with
  | natural n => exact .natural n _ (Double.isNearest_nearest _) (Double.whole_ofNat n.toNat_lt)
  | integer n =>
    have hlow := n.le_toInt
    have hhigh := n.toInt_lt
    exact .integer n _ (Double.isNearest_nearest _) (Double.whole_ofInt (by omega))
  | double x => exact .double x

theorem Arrives.nonneg {n : UInt64} {k : Int64} (h : Arrives (.natural n) (.int k)) : 0 ≤ k.toInt := by
  cases h with
  | natural _ h => omega

theorem Arrives.mono {m n : UInt64} {j k : Int64} (hm : Arrives (.natural m) (.int j))
    (hn : Arrives (.natural n) (.int k)) (hle : m ≤ n) : j ≤ k := by
  have hle := UInt64.le_iff_toNat_le.1 hle
  cases hm with
  | natural _ hj =>
    cases hn with
    | natural _ hk =>
      refine Int64.le_iff_toInt_le.2 ?_
      omega

end Number

/-! ## Points -/

structure Exemplar.Arrives (allowance : Allowance) (e : Exemplar) (w : Received.Exemplar) : Prop where
  attributes : KeptArrive Value.Arrives allowance e.attributes w.attributes
  time : e.time.Arrives w.time
  value : ∃ v, w.value = some v ∧ e.value.Arrives v
  spanId : w.spanId = e.spanId.toList
  traceId : w.traceId = e.traceId.toList

variable (allowance : Allowance) (m : Metric)

/-- What the points of every kind have arrives. -/
structure PointArrives (attributes : List Attribute) (exemplars : List Exemplar) (kept : List Received.Attribute)
    (start time : UInt64) (received : List Received.Exemplar) : Prop where
  attributes : KeptArrive Value.Arrives allowance attributes kept
  start : OptionalTimeArrives m.start start
  time : m.time.Arrives time
  exemplars : List.Forall₂ (Exemplar.Arrives allowance) exemplars received

/-- What the histograms of both kinds sum up arrives. -/
structure SpreadArrives (sum : Number) (min max : Option Number) (sum' min' max' : Option Double) : Prop where
  sum : ∃ x, sum' = some x ∧ sum.Converts x
  min : Option.Rel Number.Converts min min'
  max : Option.Rel Number.Converts max max'

structure NumberPoint.Arrives (p : NumberPoint) (w : Received.NumberPoint) : Prop where
  point : PointArrives allowance m p.attributes p.exemplars w.attributes w.start w.time w.exemplars
  value : ∃ v, w.value = some v ∧ p.value.Arrives v

structure HistogramPoint.Arrives (p : HistogramPoint) (w : Received.HistogramPoint) : Prop where
  point : PointArrives allowance m p.attributes p.exemplars w.attributes w.start w.time w.exemplars
  count : w.count = p.count
  bounds : w.bounds = p.bounds
  bucketCounts : w.bucketCounts = p.bucketCounts
  spread : SpreadArrives p.sum p.min p.max w.sum w.min w.max

structure ExponentialPoint.Arrives (p : ExponentialPoint) (w : Received.ExponentialPoint) : Prop where
  point : PointArrives allowance m p.attributes p.exemplars w.attributes w.start w.time w.exemplars
  count : w.count = p.count
  scale : w.scale.toInt = p.scale.toInt
  zeroCount : w.zeroCount = p.zeroCount
  positive : w.positive = some ⟨p.positive.offset, p.positive.counts⟩
  negative : w.negative = some ⟨p.negative.offset, p.negative.counts⟩
  zeroThreshold : w.zeroThreshold = p.zeroThreshold
  spread : SpreadArrives p.sum p.min p.max w.sum w.min w.max

/-- Only what came since the last report arrives as such. -/
def Temporality.Arrives (t : Temporality) (number : Int32) : Prop := number = if t = .delta then 1 else 2

/-- What becomes of the points of a metric. -/
inductive MetricData.Arrives : MetricData → Received.MetricData → Prop
  | gauge {ps : List NumberPoint} {ws : List Received.NumberPoint}
    (h : List.Forall₂ (NumberPoint.Arrives allowance m) ps ws) : Arrives (.gauge ps) (.gauge ws)
  | sum {ps : List NumberPoint} {ws : List Received.NumberPoint} {t : Temporality} {number : Int32}
    (h : List.Forall₂ (NumberPoint.Arrives allowance m) ps ws) (ht : t.Arrives number) (monotonic : Bool) :
    Arrives (.sum ps t monotonic) (.sum ws number monotonic)
  | histogram {ps : List HistogramPoint} {ws : List Received.HistogramPoint} {t : Temporality} {number : Int32}
    (h : List.Forall₂ (HistogramPoint.Arrives allowance m) ps ws) (ht : t.Arrives number) :
    Arrives (.histogram ps t) (.histogram ws number)
  | exponential {ps : List ExponentialPoint} {ws : List Received.ExponentialPoint} {t : Temporality} {number : Int32}
    (h : List.Forall₂ (ExponentialPoint.Arrives allowance m) ps ws) (ht : t.Arrives number) :
    Arrives (.exponential ps t) (.exponential ws number)

structure Metric.Arrives (w : Received.Metric) : Prop where
  name : w.name = m.name
  description : w.description = m.description
  unit : w.unit = m.unit
  data : ∃ d, w.data = some d ∧ MetricData.Arrives allowance m m.data d

/-! ## They arrive -/

theorem Exemplar.arrives (e : Exemplar) : e.Arrives allowance (Received.Exemplar.of allowance e.exported) where
  attributes := exportedAll_keptArrive allowance e.attributes
  time := e.time.arrives
  value := ⟨_, rfl, e.value.arrives⟩
  spanId := rfl
  traceId := rfl

theorem point_arrives (attributes : List Attribute) (exemplars : List Exemplar) :
    PointArrives allowance m attributes exemplars (Received.Attribute.kept allowance (exportedAll attributes))
      (Received.startNanos m.start) m.time.wireNanos
      ((exemplars.map Exemplar.exported).map (Received.Exemplar.of allowance)) where
  attributes := exportedAll_keptArrive allowance attributes
  start := optionalTime_arrives m.start
  time := m.time.arrives
  exemplars := forall₂_map_map (Exemplar.arrives allowance) exemplars

theorem optional_converts (n : Option Number) : Option.Rel Number.Converts n (n.map Number.toDouble) := by
  cases n with
  | none => exact .none
  | some n => exact .some n.converts

theorem spread_arrives (sum : Number) (min max : Option Number) :
    SpreadArrives sum min max (some sum.toDouble) (min.map Number.toDouble) (max.map Number.toDouble) :=
  ⟨⟨_, rfl, sum.converts⟩, optional_converts min, optional_converts max⟩

theorem NumberPoint.arrives (p : NumberPoint) :
    p.Arrives allowance m (Received.NumberPoint.of allowance (m.exportedNumber p)) where
  point := point_arrives allowance m p.attributes p.exemplars
  value := ⟨_, rfl, p.value.arrives⟩

theorem HistogramPoint.arrives (p : HistogramPoint) :
    p.Arrives allowance m (Received.HistogramPoint.of allowance (m.exportedHistogram p)) where
  point := point_arrives allowance m p.attributes p.exemplars
  count := rfl
  bounds := rfl
  bucketCounts := rfl
  spread := spread_arrives p.sum p.min p.max

theorem ExponentialPoint.arrives (p : ExponentialPoint) :
    p.Arrives allowance m (Received.ExponentialPoint.of allowance (m.exportedExponential p)) where
  point := point_arrives allowance m p.attributes p.exemplars
  count := rfl
  scale := Int8.toInt_toInt32 p.scale
  zeroCount := rfl
  positive := rfl
  negative := rfl
  zeroThreshold := rfl
  spread := spread_arrives p.sum p.min p.max

theorem Temporality.arrives (t : Temporality) : t.Arrives (Received.temporalityNumber t.exported) := by
  cases t <;> rfl

theorem Metric.data_arrives : m.data.Arrives allowance m (Received.MetricData.of allowance m.exportedData) := by
  unfold exportedData
  cases m.data with
  | gauge ps => exact .gauge (forall₂_map_map (NumberPoint.arrives allowance m) ps)
  | sum ps t monotonic => exact .sum (forall₂_map_map (NumberPoint.arrives allowance m) ps) t.arrives monotonic
  | histogram ps t => exact .histogram (forall₂_map_map (HistogramPoint.arrives allowance m) ps) t.arrives
  | exponential ps t => exact .exponential (forall₂_map_map (ExponentialPoint.arrives allowance m) ps) t.arrives

/-- **A metric arrives.** -/
theorem Metric.arrives : m.Arrives allowance (Received.Metric.of allowance m.exported) where
  name := rfl
  description := rfl
  unit := rfl
  data := ⟨_, rfl, m.data_arrives allowance⟩

/-! ## Requests -/

theorem exemplars_steady (es : List Exemplar) : ∀ e ∈ es.map Exemplar.exported, e.Steady :=
  List.forall_mem_map.2 fun _ _ => exportedAll_steady _

theorem Metric.steady : m.exportedData.Steady := by
  unfold exportedData
  cases m.data with
  | gauge ps => exact List.forall_mem_map.2 fun _ _ => ⟨exportedAll_steady _, exemplars_steady _⟩
  | sum ps t monotonic => exact List.forall_mem_map.2 fun _ _ => ⟨exportedAll_steady _, exemplars_steady _⟩
  | histogram ps t => exact List.forall_mem_map.2 fun _ _ => ⟨exportedAll_steady _, exemplars_steady _⟩
  | exponential ps t => exact List.forall_mem_map.2 fun _ _ => ⟨exportedAll_steady _, exemplars_steady _⟩

theorem ScopeMetrics.steady (s : ScopeMetrics) : s.exported.Steady where
  scope := s.scope.steady
  metrics := List.forall_mem_map.2 fun m _ => m.steady

def MetricsArrive (limits : Limits) (scopes : List ScopeMetrics) (groups : List (Received.ScopeGroup Received.Metric)) :
    Prop :=
  List.Forall₂ (fun s g => GroupArrives limits.generic (Metric.Arrives limits.generic) s.scope s.metrics g) scopes
    groups

/-- **Metrics arrive.** -/
theorem ScopeMetrics.metrics_arrive (limits : Limits) (resource : Resource) (scopes : List ScopeMetrics)
    {buffer : ByteArray} (hbuffer : buffer.size ≤ Buffer.maxSize) (offset : Nat) :
    BatchArrives limits resource (.metrics (scopes.map exported)) buffer offset Received.Metric.read?
      (MetricsArrive limits scopes) := by
  intro finish h
  have hs : ∀ s ∈ scopes.map exported, s.Steady := List.forall_mem_map.2 fun s _ => s.steady
  refine ⟨_, Received.metrics_decode limits resource.steady hs hbuffer h, _, rfl, resource.arrives _, ?_⟩
  refine List.forall₂_map_right_iff.2 (forall₂_map_map ?_ scopes)
  exact fun s => .of s.scope (Metric.arrives limits.generic)

end Collected
end Courier
