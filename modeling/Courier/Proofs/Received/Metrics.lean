import Courier.Proofs.Batch
import Courier.Proofs.Received.Points
/-!
# Metrics - metrics as a collector receives them

Main statement: the bytes of a write of metrics that ended are read as the metrics, with the attributes that the
limits keep (`metrics_decode`).
-/
namespace Courier
namespace Received

open Wire Payload

inductive MetricData
  | gauge (points : List NumberPoint)
  | sum (points : List NumberPoint) (temporality : Int32) (monotonic : Bool)
  | histogram (points : List HistogramPoint) (temporality : Int32)
  | exponential (points : List ExponentialPoint) (temporality : Int32)
  | summary (points : List SummaryPoint)

structure Metric where
  name : String
  description : String
  unit : String
  data : Option MetricData
  metadata : List Attribute

/-! ## Readers -/

namespace MetricData

/-- The kinds of a metric by their numbers. -/
def member? (levels : Nat) : Nat → Option (List Content → Option MetricData)
  | 5 => some fun cs => (joined? cs).bind fun fs => (each? 1 (NumberPoint.read? levels) fs).map gauge
  | 7 => some fun cs => (joined? cs).bind fun fs => do
    let points ← each? 1 (NumberPoint.read? levels) fs
    let temporality ← single? 2 enum? 0 fs
    let monotonic ← single? 3 bool? false fs
    return sum points temporality monotonic
  | 9 => some fun cs => (joined? cs).bind fun fs => do
    let points ← each? 1 (HistogramPoint.read? levels) fs
    let temporality ← single? 2 enum? 0 fs
    return histogram points temporality
  | 10 => some fun cs => (joined? cs).bind fun fs => do
    let points ← each? 1 (ExponentialPoint.read? levels) fs
    let temporality ← single? 2 enum? 0 fs
    return exponential points temporality
  | 11 => some fun cs => (joined? cs).bind fun fs => (each? 1 (SummaryPoint.read? levels) fs).map summary
  | _ => none

end MetricData

def Metric.read? (levels : Nat) (fs : List Field) : Option Metric := do
  let name ← single? 1 Reader.text? "" fs
  let description ← single? 2 Reader.text? "" fs
  let unit ← single? 3 Reader.text? "" fs
  let data ← choice? (MetricData.member? levels) fs
  let metadata ← each? 12 (Attribute.read? levels) fs
  return ⟨name, description, unit, data, metadata⟩

/-! ## What is received -/

def temporalityNumber : Temporality → Int32
  | .delta => 1
  | .cumulative => 2

def MetricData.of (allowance : Allowance) : Courier.MetricData → MetricData
  | .gauge ps => .gauge (ps.map (NumberPoint.of allowance))
  | .sum ps t monotonic => .sum (ps.map (NumberPoint.of allowance)) (temporalityNumber t) monotonic
  | .histogram ps t => .histogram (ps.map (HistogramPoint.of allowance)) (temporalityNumber t)
  | .exponential ps t => .exponential (ps.map (ExponentialPoint.of allowance)) (temporalityNumber t)
  | .summary ps => .summary (ps.map (SummaryPoint.of allowance))

def Metric.of (allowance : Allowance) (m : Courier.Metric) : Metric where
  name := m.name
  description := m.description
  unit := m.unit
  data := some (MetricData.of allowance m.data)
  metadata := []

/-! ## Reading back -/

variable {levels : Nat}

theorem enum?_temporality (t : Temporality) : enum? (temporalityPiece t).content = some (temporalityNumber t) := by
  cases t <;> rfl

theorem single?_monotonic {parts : Parts} (h : Fits levels parts) {monotonic : Bool}
    (hp : piecesOf 3 parts = if monotonic then [.varint 1] else []) :
    single? 3 bool? false (fieldsOf parts) = some monotonic := by
  cases monotonic
  · exact single?_none h 3 bool? false hp
  · exact single?_one h 3 false hp (bool?_varint true)

theorem choice?_data (allowance : Allowance) (m : Courier.Metric) (hf : Fits levels (metricParts allowance m)) :
    choice? (MetricData.member? levels) (fieldsOf (metricParts allowance m)) =
      some (some (MetricData.of allowance m.data)) := by
  obtain ⟨name, description, unit, data⟩ := m
  cases data with
  | gauge ps =>
    have hin : Fits levels (dataParts allowance (.gauge ps)).2 := hf.nested 5 (List.mem_singleton.2 rfl) rfl
    have hp := each?_map hin 1 rfl fun p _ => NumberPoint.reads levels allowance p
    refine choice?_message rfl rfl hin ?_
    rw [hp]
    rfl
  | sum ps t monotonic =>
    have hin : Fits levels (dataParts allowance (.sum ps t monotonic)).2 :=
      hf.nested 7 (List.mem_singleton.2 rfl) rfl
    have hp := each?_map hin 1 rfl fun p _ => NumberPoint.reads levels allowance p
    have ht := single?_one hin 2 0 rfl (enum?_temporality t)
    have hm := single?_monotonic hin rfl
    refine choice?_message rfl rfl hin ?_
    rw [hp, ht, hm]
    rfl
  | histogram ps t =>
    have hin : Fits levels (dataParts allowance (.histogram ps t)).2 := hf.nested 9 (List.mem_singleton.2 rfl) rfl
    have hp := each?_map hin 1 rfl fun p _ => HistogramPoint.reads levels allowance p
    have ht := single?_one hin 2 0 rfl (enum?_temporality t)
    refine choice?_message rfl rfl hin ?_
    rw [hp, ht]
    rfl
  | exponential ps t =>
    have hin : Fits levels (dataParts allowance (.exponential ps t)).2 := hf.nested 10 (List.mem_singleton.2 rfl) rfl
    have hp := each?_map hin 1 rfl fun p _ => ExponentialPoint.reads levels allowance p
    have ht := single?_one hin 2 0 rfl (enum?_temporality t)
    refine choice?_message rfl rfl hin ?_
    rw [hp, ht]
    rfl
  | summary ps =>
    have hin : Fits levels (dataParts allowance (.summary ps)).2 := hf.nested 11 (List.mem_singleton.2 rfl) rfl
    have hp := each?_map hin 1 rfl fun p _ => SummaryPoint.reads levels allowance p
    refine choice?_message rfl rfl hin ?_
    rw [hp]
    rfl

theorem numbered_metricParts (allowance : Allowance) (m : Courier.Metric) :
    wellNumbered ((metricParts allowance m).map Prod.fst) = true := by
  obtain ⟨name, description, unit, data⟩ := m
  cases data <;> rfl

theorem piecesOf_metadata (allowance : Allowance) (m : Courier.Metric) :
    piecesOf 12 (metricParts allowance m) = ([] : List Attribute).map attributePiece := by
  obtain ⟨name, description, unit, data⟩ := m
  cases data <;> rfl

/-- **A metric is read back from its parts.** -/
theorem Metric.reads (levels : Nat) (allowance : Allowance) (m : Courier.Metric) :
    Reads levels (read? levels) (metricParts allowance m) (of allowance m) where
  numbered := numbered_metricParts allowance m
  read hf := by
    have hn := single?_text hf 1 rfl
    have hd := single?_nonempty hf 2 rfl
    have hu := single?_nonempty hf 3 rfl
    have hdata := choice?_data allowance m hf
    have hmeta := each?_attributes hf 12 (piecesOf_metadata allowance m)
    rw [read?, hn, hd, hu, hdata, hmeta]
    rfl

/-- **Metrics decode back.** What a write of metrics leaves behind its offset is a request that a collector reads,
and it has one resource, the scopes in their order, and the metrics of each with their points, numbers bit for bit. -/
theorem metrics_decode (limits : Limits) {resource : Courier.Resource} {scopes : List ScopeMetrics}
    (hr : resource.Steady) (hs : ∀ s ∈ scopes, s.Steady) {buffer : ByteArray} {offset finish : Nat}
    (hbuffer : buffer.size ≤ Buffer.maxSize)
    (h : ((Batch.metrics scopes).write limits resource offset buffer).1 = .written finish) :
    Request.read? Metric.read?
        (((Batch.metrics scopes).write limits resource offset buffer).2.extract offset finish).data.toList =
      some (Request.of limits.generic (Metric.of limits.generic) resource
        (scopes.map fun s => (s.scope, s.metrics))) := by
  obtain ⟨hbytes, hle⟩ := Batch.write_written hr (show (Batch.metrics scopes).Steady from hs) hbuffer h
  rw [hbytes]
  exact read?_requestParts limits.generic resource (fun levels _ _ m _ => Metric.reads levels limits.generic m)
    (Nat.lt_of_le_of_lt hle (by decide))

/-- A gauge with a point of which one attribute fails. -/
def pairMetrics : ScopeMetrics :=
  { metrics := [{ name := "m", data := .gauge [{ attributes := deferredPair, value := .int (-1) }] }] }

theorem steady_pairMetrics : pairMetrics.Steady where
  scope := Scope.steady_empty
  metrics := by
    refine List.forall_mem_singleton.2 (List.forall_mem_singleton.2 ⟨steady_deferredPair, ?_⟩)
    exact List.forall_mem_nil _

theorem metrics_decode_pairMetrics :
    ((Batch.metrics [pairMetrics]).write {} {} 1 (List.replicate 80 7).toByteArray).1 = .written 75 ∧
    Request.read? Metric.read?
        (((Batch.metrics [pairMetrics]).write {} {} 1 (List.replicate 80 7).toByteArray).2.extract 1 75).data.toList =
      some (Request.of (Limits.generic {}) (Metric.of (Limits.generic {})) {}
        ([pairMetrics].map fun s => (s.scope, s.metrics))) := by
  have hs : ∀ s ∈ [pairMetrics], s.Steady := List.forall_mem_singleton.2 steady_pairMetrics
  have h : ((Batch.metrics [pairMetrics]).write {} {} 1 (List.replicate 80 7).toByteArray).1 = .written 75 :=
    Batch.write_of_finish (by decide +kernel)
  exact ⟨h, metrics_decode _ Resource.steady_empty hs (by rw [List.size_toByteArray]; decide) h⟩

end Received
end Courier
