import Courier.Proofs.Buffer.Growth
import Courier.Proofs.Payload.Metrics
/-!
# Batch - a payload is a function of its batch

Main statements: a steady batch is put as `Batch.parts` (`Batch.puts`), so that what a write leaves in a buffer and
how it ends depend on where it starts only through the room that is left (`Batch.growth_transparent`,
`Batch.write_written`).
-/
namespace Courier
namespace Batch

open Wire Payload

/-- The request that carries a batch. -/
def parts (limits : Limits) (resource : Resource) : Batch → Parts
  | .traces spans =>
    requestParts limits.generic (spanParts limits) resource (Courier.Scope.group Span.scope spans)
  | .metrics scopes =>
    requestParts limits.generic (metricParts limits.generic) resource (scopes.map fun s => (s.scope, s.metrics))
  | .logs records =>
    requestParts limits.generic (logRecordParts limits) resource (Courier.Scope.group LogRecord.scope records)

variable {limits : Limits} {resource : Resource} {batch : Batch}

theorem puts (limits : Limits) (hr : resource.Steady) (hb : batch.Steady) :
    Puts (batch.put limits resource) (batch.parts limits resource) := by
  cases batch with
  | traces spans => exact puts_traces limits hr hb
  | metrics scopes => exact puts_metrics limits hr hb
  | logs records => exact puts_logs limits hr hb

theorem put_stopsOutside (limits : Limits) (resource : Resource) (batch : Batch) :
    StopsOutside (batch.put limits resource) := by
  cases batch with
  | traces spans => exact message_stopsOutside 1 _
  | metrics scopes => exact message_stopsOutside 1 _
  | logs records => exact message_stopsOutside 1 _

/-- The bytes of a request and the room that writing it takes decide how it ends. -/
theorem write_cases {room : Nat} {bytes : List UInt8} (hw : EmitsIn room (batch.put limits resource) () bytes)
    {buffer : ByteArray} (offset : Nat) (hbuffer : buffer.size ≤ Buffer.maxSize) :
    (offset + room ≤ Buffer.maxSize →
      (batch.write limits resource offset buffer).1 = .written (offset + bytes.length) ∧
      ((batch.write limits resource offset buffer).2.extract offset (offset + bytes.length)).data.toList = bytes) ∧
    (Buffer.maxSize < offset + room → (batch.write limits resource offset buffer).1 = .tooLarge) := by
  have ho := put_stopsOutside limits resource batch
  constructor
  · intro hfit
    obtain ⟨buffer', hfill, hbytes⟩ := Buffer.fill_fits hw ho hfit buffer {}
    rw [write, hfill]
    exact ⟨rfl, hbytes⟩
  · intro hfit
    exact Buffer.fill_tooLarge (.of_emits hw ho) hfit hbuffer {}

/-- **Growth is transparent.** The payload of a steady batch and the room that writing it takes depend on nothing
but the batch and its limits: from whatever buffer and offset a write starts, it ends with these bytes at the
offset if the room is there in the largest buffer, and else it does not fit. -/
theorem growth_transparent (limits : Limits) (hr : resource.Steady) (hb : batch.Steady) :
    ∃ (bytes : ByteArray) (peak : Nat), bytes.size ≤ peak ∧
      ∀ (buffer : ByteArray) (offset : Nat), buffer.size ≤ Buffer.maxSize →
        (offset + peak ≤ Buffer.maxSize →
          (batch.write limits resource offset buffer).1 = .written (offset + bytes.size) ∧
          (batch.write limits resource offset buffer).2.extract offset (offset + bytes.size) = bytes) ∧
        (Buffer.maxSize < offset + peak → (batch.write limits resource offset buffer).1 = .tooLarge) := by
  obtain ⟨room, hw⟩ := puts limits hr hb
  have hsize := List.size_toByteArray (l := encodeParts (batch.parts limits resource))
  refine ⟨(encodeParts (batch.parts limits resource)).toByteArray, room, ?_, fun buffer offset hbuffer => ?_⟩
  · rw [hsize]
    exact hw.length_le
  · obtain ⟨hfits, hlarge⟩ := write_cases hw offset hbuffer
    rw [hsize]
    refine ⟨fun hfit => ⟨(hfits hfit).1, ?_⟩, hlarge⟩
    apply ByteArray.ext
    apply Array.toList_inj.1
    rw [(hfits hfit).2, List.data_toByteArray]

theorem growth_transparent_deferredPair :
    Resource.Steady {} ∧ Batch.Steady (.logs [{ attributes := deferredPair }]) ∧
    ∃ (bytes : ByteArray) (peak : Nat), bytes.size ≤ peak ∧
      ∀ (buffer : ByteArray) (offset : Nat), buffer.size ≤ Buffer.maxSize →
        (offset + peak ≤ Buffer.maxSize →
          ((Batch.logs [{ attributes := deferredPair }]).write {} {} offset buffer).1 =
            .written (offset + bytes.size) ∧
          ((Batch.logs [{ attributes := deferredPair }]).write {} {} offset buffer).2.extract offset
            (offset + bytes.size) = bytes) ∧
        (Buffer.maxSize < offset + peak →
          ((Batch.logs [{ attributes := deferredPair }]).write {} {} offset buffer).1 = .tooLarge) := by
  have hr : Resource.Steady {} := Resource.steady_empty
  have hb : Batch.Steady (.logs [{ attributes := deferredPair }]) := by
    refine List.forall_mem_singleton.2 ?_
    exact ⟨Scope.steady_empty, fun _ hv => absurd hv (Option.not_mem_none _), steady_deferredPair⟩
  exact ⟨hr, hb, growth_transparent {} hr hb⟩

/-- What a write that ended leaves behind the offset is the request, and a buffer holds it. -/
theorem write_written (hr : resource.Steady) (hb : batch.Steady) {buffer : ByteArray} {offset finish : Nat}
    (hbuffer : buffer.size ≤ Buffer.maxSize)
    (h : (batch.write limits resource offset buffer).1 = .written finish) :
    ((batch.write limits resource offset buffer).2.extract offset finish).data.toList =
      encodeParts (batch.parts limits resource) ∧
    (encodeParts (batch.parts limits resource)).length ≤ Buffer.maxSize := by
  obtain ⟨room, hw⟩ := puts limits hr hb
  obtain ⟨hfits, hlarge⟩ := write_cases hw offset hbuffer
  have hle := hw.length_le
  by_cases hfit : offset + room ≤ Buffer.maxSize
  · obtain ⟨houtcome, hbytes⟩ := hfits hfit
    rw [h] at houtcome
    cases houtcome
    exact ⟨hbytes, by omega⟩
  · have hstop := hlarge (Nat.lt_of_not_le hfit)
    rw [h] at hstop
    cases hstop

/-- Where a try ended, unless it was stopped. -/
def finish? : EStateM.Result Stop Cursor Unit → Option Nat
  | .ok _ c => some c.pos
  | .error _ _ => none

/-- A try that ends in the first buffer is the whole write. -/
theorem write_of_finish {buffer : ByteArray} {offset finish : Nat}
    (h : finish? (batch.put limits resource ⟨buffer, offset, {}⟩) = some finish) :
    (batch.write limits resource offset buffer).1 = .written finish := by
  rw [write, Buffer.fill, Buffer.fillSized]
  cases hw : batch.put limits resource ⟨buffer, offset, {}⟩ with
  | ok _ c =>
    rw [hw] at h
    exact congrArg Buffer.Outcome.written (Option.some.inj h)
  | error e c =>
    rw [hw] at h
    cases h

end Batch
end Courier
