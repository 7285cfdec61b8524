import Courier.Proofs.Buffer.Tries
/-!
# Growth - a buffer that grows is as good as one that was large enough

A try in a buffer ends in time exactly when the room that the write takes is there (`Takes`), so the last try of a
write is its first one with that room, if any buffer has it (`fill_takes`).  Main statements: a write that emits ends
at the same distance from the offset with the same bytes behind it, whatever the buffer was, one that breaks off does
so for the same reason, or neither fits in any buffer (`fill_fits`, `fill_breaks`, `fill_tooLarge`).
-/
namespace Courier
namespace Buffer

open Wire

/-- With so much room a step is not stopped by a full buffer, and with less it always is. -/
structure Takes (room : Nat) (w : Write Unit) : Prop where
  enough : ∀ c c' : Cursor, c.pos + room ≤ c.buffer.size → w c ≠ .error .full c'
  full : ∀ c : Cursor, c.buffer.size < c.pos + room → ∃ c', w c = .error .full c'

variable {room offset : Nat} {w : Write Unit} {bytes : List UInt8} {reason : String} {buffer : ByteArray}

theorem Takes.of_emits (hw : EmitsIn room w () bytes) (ho : StopsOutside w) : Takes room w where
  enough c c' hc h := by
    obtain ⟨c₁, h₁, -⟩ := hw.fits c hc
    rw [h] at h₁
    cases h₁
  full c hc := by
    by_cases hin : c.pos ≤ c.buffer.size
    · obtain ⟨c', h', -⟩ := hw.full c hin hc
      exact ⟨c', h'⟩
    · exact ⟨c, ho c (Nat.lt_of_not_le hin)⟩

theorem Takes.of_breaks (hw : BreaksIn room w reason) (ho : StopsOutside w) : Takes room w where
  enough c c' hc h := by
    obtain ⟨c₁, h₁⟩ := hw.aborts c hc
    rw [h] at h₁
    cases h₁
  full c hc := by
    by_cases hin : c.pos ≤ c.buffer.size
    · exact hw.full c hin hc
    · exact ⟨c, ho c (Nat.lt_of_not_le hin)⟩

/-- **The last try is the first with room for it**, and no buffer has the room where there is none. -/
theorem fill_takes (h : Takes room w) (offset : Nat) (buffer : ByteArray) (renders : Renders) :
    ∃ k buffer' renders', Retried w offset k buffer renders buffer' renders' ∧
      fill w offset buffer renders = (outcomeOf (w ⟨buffer', offset, renders'⟩),
        (leftOff (w ⟨buffer', offset, renders'⟩)).buffer) ∧
      (∀ j, j < k → sizeAfter j buffer.size < offset + room) ∧
      (buffer'.size < offset + room → maxSize ≤ buffer'.size) := by
  obtain ⟨k, buffer', renders', hretried, hfill, hmax⟩ := fill_last w offset buffer renders
  refine ⟨k, buffer', renders', hretried, hfill, fun j hj => ?_, fun hroom => ?_⟩
  · obtain ⟨-, b, r, c, hb, stop⟩ := hretried.before j hj
    refine Nat.not_le.1 fun hfit => h.enough ⟨b, offset, r⟩ c ?_ stop
    rwa [hb]
  · obtain ⟨c, hc⟩ := h.full ⟨buffer', offset, renders'⟩ hroom
    exact hmax c hc

/-- **What fits in the largest buffer is written whatever the first buffer was**: the same bytes, at the offset. -/
theorem fill_fits (hw : EmitsIn room w () bytes) (ho : StopsOutside w) (hfit : offset + room ≤ maxSize)
    (buffer : ByteArray) (renders : Renders) :
    ∃ buffer', fill w offset buffer renders = (.written (offset + bytes.length), buffer') ∧
      (buffer'.extract offset (offset + bytes.length)).data.toList = bytes := by
  obtain ⟨k, last, renders', -, hfill, -, hmax⟩ := fill_takes (.of_emits hw ho) offset buffer renders
  have hroom : offset + room ≤ last.size := by omega
  obtain ⟨c, hc, hwrote⟩ := hw.fits ⟨last, offset, renders'⟩ hroom
  have hle := hw.length_le
  have hl : (front last offset).length = offset := length_front (by omega)
  refine ⟨c.buffer, ?_, ?_⟩
  · rw [hfill, hc]
    simp only [outcomeOf, leftOff, hwrote.pos]
  · rw [toList_extract, ← hwrote.pos, ← Cursor.behind, hwrote.behind]
    exact List.drop_left' hl

/-- What breaks off with the largest buffer does so whatever the first buffer was. -/
theorem fill_breaks (hw : BreaksIn room w reason) (ho : StopsOutside w) (hfit : offset + room ≤ maxSize)
    (buffer : ByteArray) (renders : Renders) : (fill w offset buffer renders).1 = .aborted reason := by
  obtain ⟨k, last, renders', -, hfill, -, hmax⟩ := fill_takes (.of_breaks hw ho) offset buffer renders
  have hroom : offset + room ≤ last.size := by omega
  obtain ⟨c, hc⟩ := hw.aborts ⟨last, offset, renders'⟩ hroom
  rw [hfill, hc, outcomeOf]

/-- What does not fit in the largest buffer is reported so. -/
theorem fill_tooLarge (h : Takes room w) (hfit : maxSize < offset + room) (hmax : buffer.size ≤ maxSize)
    (renders : Renders) : (fill w offset buffer renders).1 = .tooLarge := by
  obtain ⟨k, last, renders', hretried, hfill, -, -⟩ := fill_takes h offset buffer renders
  have hle := hretried.size ▸ sizeAfter_le_maxSize k hmax
  obtain ⟨c, hc⟩ := h.full ⟨last, offset, renders'⟩ (show last.size < offset + room by omega)
  rw [hfill, hc, outcomeOf]

end Buffer
end Courier
