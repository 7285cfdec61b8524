import Courier.Proofs.Batch
import Courier.Proofs.Payload.Composed
/-!
# Frame - what a write leaves of its caller's buffer

Main statement: a write of a steady batch ends after at most 27 growths, in the first size that it fits in or in the
largest one, and in front of its offset it adds zeros and changes nothing (`Batch.write_frame`).
-/
namespace Courier
namespace Batch

open Wire Buffer

variable {limits : Limits} {resource : Resource} {batch : Batch}

/-- However a try ends, for any deferred texts, nothing in front of its start has changed. -/
theorem put_contained (limits : Limits) (resource : Resource) (batch : Batch) :
    Contained (batch.put limits resource) := by
  have hr : ∀ d ∈ resource.deferrals, True := fun _ _ => trivial
  have hb : ∀ d ∈ batch.deferrals, True := fun _ _ => trivial
  obtain ⟨body, hput, hbody⟩ := composed limits hr hb
  have hc := hbody.message 1
  rw [← hput] at hc
  exact .of_composed hc (put_stopsOutside limits resource batch)

/-- How a write that takes so much room behind its offset ends, and in what buffer. -/
structure Framed (w : Write Unit) (room offset : Nat) (buffer : ByteArray) (out : Outcome × ByteArray) : Prop where
  /-- The buffer has grown until the write fitted, through so many tries. -/
  tries : ∃ k last renders, k ≤ 27 ∧ Retried w offset k buffer {} last renders ∧ out.2.size = sizeAfter k buffer.size ∧
    ∀ j, j < k → sizeAfter j buffer.size < offset + room
  /-- In front of the offset nothing has changed, and what was added there is zero. -/
  extended : Extends offset buffer out.2
  /-- The write ended inside the buffer, or it does not fit and no larger buffer is allowed. -/
  ending : (∃ finish, out.1 = .written finish ∧ offset ≤ finish ∧ finish ≤ out.2.size ∧ offset + room ≤ out.2.size) ∨
    (out.1 = .tooLarge ∧ out.2.size = max buffer.size maxSize ∧ out.2.size < offset + room)

theorem fill_framed {w : Write Unit} {room : Nat} {bytes : List UInt8} (hw : EmitsIn room w () bytes)
    (ho : StopsOutside w) (hcontained : Contained w) (offset : Nat) (buffer : ByteArray) :
    Framed w room offset buffer (fill w offset buffer {}) := by
  obtain ⟨k, last, renders, hretried, hfill, hbefore, hmax⟩ := fill_takes (.of_emits hw ho) offset buffer {}
  have hlast : (leftOff (w ⟨last, offset, renders⟩)).buffer.size = last.size := (hcontained ⟨last, offset, renders⟩).size
  refine ⟨⟨k, last, renders, hretried.le, hretried, ?_, hbefore⟩, fill_extends hcontained offset buffer {}, ?_⟩
  · rw [hfill, hlast, hretried.size]
  · by_cases hroom : offset + room ≤ last.size
    · obtain ⟨c, hc, hwrote⟩ := hw.fits ⟨last, offset, renders⟩ hroom
      have hpos : c.pos = offset + bytes.length := hwrote.pos
      have hle := hw.length_le
      rw [hfill, hlast]
      refine .inl ⟨c.pos, ?_, by omega, by omega, hroom⟩
      rw [hc, outcomeOf]
    · obtain ⟨c, hc⟩ := (Takes.of_emits hw ho).full ⟨last, offset, renders⟩ (Nat.lt_of_not_le hroom)
      rw [hfill, hlast]
      refine .inr ⟨?_, hretried.size_eq (hmax (Nat.lt_of_not_le hroom)), Nat.lt_of_not_le hroom⟩
      rw [hc, outcomeOf]

/-- **A write keeps to its part of the buffer.** A steady batch takes so much room, with which a try is never stopped
and without which it always is; and from any offset into any buffer the write ends after finitely many tries, with no
step out of place, in the first size with that room or in the largest one, the bytes in front of the offset as they
were and zeros behind them. -/
theorem write_frame (limits : Limits) (hr : resource.Steady) (hb : batch.Steady) :
    ∃ room, (∀ c : Cursor, (∃ c', batch.put limits resource c = .ok () c') ↔ c.pos + room ≤ c.buffer.size) ∧
      ∀ (buffer : ByteArray) (offset : Nat),
        Framed (batch.put limits resource) room offset buffer (batch.write limits resource offset buffer) := by
  obtain ⟨room, hw⟩ := puts limits hr hb
  have ho := put_stopsOutside limits resource batch
  refine ⟨room, fun c => ⟨fun ⟨c', hc⟩ => Nat.not_lt.1 fun hroom => ?_, fun hroom => ?_⟩, fun buffer offset => ?_⟩
  · obtain ⟨c'', hfull⟩ := (Takes.of_emits hw ho).full c hroom
    rw [hfull] at hc
    cases hc
  · obtain ⟨c', hc, -⟩ := hw.fits c hroom
    exact ⟨c', hc⟩
  · exact fill_framed hw ho (put_contained limits resource batch) offset buffer

theorem write_frame_deferredPair :
    Resource.Steady { attributes := deferredPair } ∧ Batch.Steady (.traces [{ attributes := deferredPair }]) ∧
    ∃ room, (∀ c : Cursor, (∃ c', (Batch.traces [{ attributes := deferredPair }]).put {}
        { attributes := deferredPair } c = .ok () c') ↔ c.pos + room ≤ c.buffer.size) ∧
      ∀ (buffer : ByteArray) (offset : Nat),
        Framed ((Batch.traces [{ attributes := deferredPair }]).put {} { attributes := deferredPair }) room offset buffer
          ((Batch.traces [{ attributes := deferredPair }]).write {} { attributes := deferredPair } offset buffer) := by
  have hr : Resource.Steady { attributes := deferredPair } := steady_deferredPair
  have hb : Batch.Steady (.traces [{ attributes := deferredPair }]) := by
    refine List.forall_mem_singleton.2 ⟨Scope.steady_empty, steady_deferredPair, ?_, ?_⟩
    · exact List.forall_mem_nil _
    · exact List.forall_mem_nil _
  exact ⟨hr, hb, write_frame {} hr hb⟩

end Batch
end Courier
