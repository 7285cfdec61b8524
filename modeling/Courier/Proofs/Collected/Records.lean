import Courier.Proofs.Collected.Logs
import Courier.Proofs.Collected.Metrics
import Courier.Proofs.Collected.Traces
/-!
# Records - what a collector receives of a collecting library

Main statement: whatever is written of the spans, log records and metrics of a collecting library is read as one of
each, in their order under their scopes, and unsigned numbers never turn negative or change places
(`records_arrive`).
-/
namespace Courier
namespace Collected

/-- **Records arrive.** -/
theorem records_arrive (limits : Limits) (resource : Resource) {buffer : ByteArray}
    (hbuffer : buffer.size ≤ Buffer.maxSize) (offset : Nat) :
    (∀ spans : List Span, BatchArrives limits resource (.traces (spans.map Span.exported)) buffer offset
      Received.Span.read? (SpansArrive limits spans)) ∧
    (∀ records : List LogRecord, BatchArrives limits resource (.logs (records.map LogRecord.exported)) buffer offset
      Received.LogRecord.read? (LogRecord.AllArrive limits records)) ∧
    (∀ scopes : List ScopeMetrics, BatchArrives limits resource (.metrics (scopes.map ScopeMetrics.exported)) buffer
      offset Received.Metric.read? (MetricsArrive limits scopes)) ∧
    ∀ (m n : UInt64) (j k : NumberValue), (Number.natural m).Arrives j → (Number.natural n).Arrives k → m ≤ n →
      ∃ i l : Int64, j = .int i ∧ k = .int l ∧ 0 ≤ i ∧ i ≤ l := by
  refine ⟨fun spans => Span.traces_arrive limits resource spans hbuffer offset,
    fun records => LogRecord.logs_arrive limits resource records hbuffer offset,
    fun scopes => ScopeMetrics.metrics_arrive limits resource scopes hbuffer offset, fun m n j k hj hk hle => ?_⟩
  cases hj with
  | natural _ hi =>
    cases hk with
    | natural _ hl =>
      refine ⟨_, _, rfl, rfl, ?_, ?_⟩
      · exact Int64.le_iff_toInt_le.2 (Number.Arrives.natural m hi).nonneg
      · exact (Number.Arrives.natural m hi).mono (.natural n hl) hle

def overfullSpan : Span := { attributes := [("a", .int 1)], events := [{}], droppedEvents := 1 }

def aimedRecord : LogRecord := { target := some "x", body := some (.map [("k", .list [.int (-1)])]) }

def hugeMetrics : ScopeMetrics :=
  { metrics := [{ data := .sum [{ value := .natural 0xffffffffffffffff }] .lowMemory true }] }

theorem records_arrive_samples :
    (∃ q, Received.Request.read? Received.Span.read?
        (((Batch.traces [overfullSpan.exported]).write { eventCount := 0 } (Resource.exported {}) 0
          (List.replicate 100 7).toByteArray).2.extract 0 100).data.toList = some q ∧
      RequestArrives {} (SpansArrive { eventCount := 0 } [overfullSpan]) q) ∧
    (∃ q, Received.Request.read? Received.LogRecord.read?
        (((Batch.logs [aimedRecord.exported]).write {} (Resource.exported {}) 0
          (List.replicate 72 7).toByteArray).2.extract 0 72).data.toList = some q ∧
      RequestArrives {} (LogRecord.AllArrive {} [aimedRecord]) q) ∧
    ∃ q, Received.Request.read? Received.Metric.read?
        (((Batch.metrics [hugeMetrics.exported]).write {} (Resource.exported {}) 0
          (List.replicate 61 7).toByteArray).2.extract 0 61).data.toList = some q ∧
      RequestArrives {} (MetricsArrive {} [hugeMetrics]) q := by
  have hsize (n : Nat) (h : n ≤ 100) : (List.replicate n (7 : UInt8)).toByteArray.size ≤ Buffer.maxSize := by
    rw [List.size_toByteArray, List.length_replicate]
    exact Nat.le_trans h (by decide)
  refine ⟨?_, ?_, ?_⟩
  · have h := (records_arrive { eventCount := 0 } {} (hsize 100 (by decide)) 0).1 [overfullSpan]
    exact h 100 (Batch.write_of_finish (by decide +kernel))
  · have h := (records_arrive {} {} (hsize 72 (by decide)) 0).2.1 [aimedRecord]
    exact h 72 (Batch.write_of_finish (by decide +kernel))
  · have h := (records_arrive {} {} (hsize 61 (by decide)) 0).2.2.1 [hugeMetrics]
    exact h 61 (Batch.write_of_finish (by decide +kernel))

def scopedRecord : LogRecord := { scope := { name := "x", attributes := [("a", .int 1)] } }

def namedRecord : LogRecord := { target := some "x" }

/-- **A target can come with the attributes of a scope**: both records arrive under the scope of the first. -/
theorem target_under_attributes : ∃ resource w first second,
    Received.Request.read? Received.LogRecord.read?
        (((Batch.logs ([scopedRecord, namedRecord].map LogRecord.exported)).write {} (Resource.exported {}) 0
          (List.replicate 48 7).toByteArray).2.extract 0 48).data.toList =
      some [⟨resource, [⟨some w, [first, second], ""⟩], ""⟩] ∧ w.attributes = [("a", some (.int 1))] := by
  have hs : ∀ r ∈ [scopedRecord, namedRecord].map LogRecord.exported, r.Steady :=
    List.forall_mem_map.2 fun r _ => r.steady
  have hwrite : ((Batch.logs ([scopedRecord, namedRecord].map LogRecord.exported)).write {} (Resource.exported {}) 0
      (List.replicate 48 7).toByteArray).1 = .written 48 := Batch.write_of_finish (by decide +kernel)
  have hgroup : Courier.Scope.group Courier.LogRecord.scope ([scopedRecord, namedRecord].map LogRecord.exported) =
      [(scopedRecord.scope.exported, [scopedRecord.exported, namedRecord.exported])] := by
    show Courier.Scope.group _ [scopedRecord.exported, namedRecord.exported] = _
    rw [Courier.Scope.group_cons]
    show _ :: Courier.Scope.group _ [] = _
    rw [Courier.Scope.group_nil]
    rfl
  have hdecode := Received.logs_decode {} (Resource.steady {}) hs (by rw [List.size_toByteArray]; decide) hwrite
  rw [hgroup] at hdecode
  exact ⟨_, _, _, _, hdecode, rfl⟩

end Collected
end Courier
