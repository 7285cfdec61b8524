import Courier.Buffer
import Courier.Proofs.Wire.Composed
/-!
# Tries - the tries of a write in larger and larger buffers

A write is its last try, in a buffer that so many growths have led to (`fill_last`).  Main statements: there are at
most 27 growths (`Retried.le`), the last buffer has the size that they give (`Retried.size`), and where no try leaves
its bounds, the bytes in front of the offset stay and what is added in front of it is zero (`fill_extends`); a message
with a composed body is written as what it yields, or is too large, or a deferred text breaks off (`fill_message`).
-/
namespace Courier
namespace Buffer

open Wire

/-! ## Sizes -/

def sizeAfter : Nat → Nat → Nat
  | 0, size => size
  | k + 1, size => sizeAfter k (nextSize size)

theorem sizeAfter_le_maxSize : ∀ (k : Nat) {size : Nat}, size ≤ maxSize → sizeAfter k size ≤ maxSize
  | 0, _, h => h
  | k + 1, _, _ => sizeAfter_le_maxSize k (Nat.min_le_right _ _)

/-- After so many growths a size that was not zero has doubled as often, up to the largest size. -/
theorem le_sizeAfter : ∀ (k : Nat) {n size : Nat}, min n maxSize ≤ size → 0 < size →
    min (Nat.pow 2 k * n) maxSize ≤ sizeAfter k size
  -- The size itself is doubled only up to `maxSize`, so a smaller number is doubled beside it.
  | 0, n, size, h, _ => by
    rw [show Nat.pow 2 0 * n = n from Nat.one_mul n]
    exact h
  | k + 1, n, size, h, hpos => by
    have hnext : nextSize size = min (2 * size) maxSize := by rw [nextSize, if_neg (by omega)]
    have hle : min (2 * n) maxSize ≤ nextSize size := by
      rw [hnext]
      omega
    have hpow : Nat.pow 2 (k + 1) * n = Nat.pow 2 k * (2 * n) := Nat.mul_assoc (Nat.pow 2 k) 2 n
    rw [hpow]
    refine le_sizeAfter k hle ?_
    rw [hnext, maxSize]
    omega

/-- Whatever it was, after 27 growths the size is the largest one. -/
theorem maxSize_le_sizeAfter (size : Nat) : maxSize ≤ sizeAfter 27 size := by
  by_cases h : size = 0
  · have hfirst : min 2 maxSize ≤ initialSize := by decide
    rw [h]
    exact Nat.le_trans (by decide) (le_sizeAfter 26 hfirst (by decide))
  · have hone : min 1 maxSize ≤ size := by omega
    exact Nat.le_trans (by decide) (le_sizeAfter 27 hone (by omega))

/-! ## Tries -/

def leftOff {α : Type} : EStateM.Result Stop Cursor α → Cursor
  | .ok _ c => c
  | .error _ c => c

/-- How a write ends whose last try ends so. -/
def outcomeOf : EStateM.Result Stop Cursor Unit → Outcome
  | .ok _ c => .written c.pos
  | .error (.aborted reason) _ => .aborted reason
  | .error .full _ => .tooLarge

/-- So many tries were stopped because their buffers were full, and the next one starts in `buffer'`. -/
inductive Retried (w : Write Unit) (offset : Nat) : Nat → ByteArray → Renders → ByteArray → Renders → Prop
  | none (buffer : ByteArray) (renders : Renders) : Retried w offset 0 buffer renders buffer renders
  | more {k : Nat} {buffer buffer' : ByteArray} {renders renders' : Renders} {c : Cursor}
    (stop : w ⟨buffer, offset, renders⟩ = .error .full c) (small : buffer.size < maxSize)
    (rest : Retried w offset k (resized c.buffer (nextSize buffer.size)) c.renders buffer' renders') :
    Retried w offset (k + 1) buffer renders buffer' renders'

variable {w : Write Unit} {offset k : Nat} {buffer buffer' : ByteArray} {renders renders' : Renders}

theorem fill_of_full {c : Cursor} (h : w ⟨buffer, offset, renders⟩ = .error .full c) (small : buffer.size < maxSize) :
    fill w offset buffer renders = fill w offset (resized c.buffer (nextSize buffer.size)) c.renders := by
  rw [fill, fillSized, h]
  simp only [dif_pos small, fill, size_resized]

/-- **A write is its last try**, which is stopped by a full buffer only if that is as large as it may be. -/
theorem fill_last (w : Write Unit) (offset : Nat) (buffer : ByteArray) (renders : Renders) :
    ∃ k buffer' renders', Retried w offset k buffer renders buffer' renders' ∧
      fill w offset buffer renders = (outcomeOf (w ⟨buffer', offset, renders'⟩),
        (leftOff (w ⟨buffer', offset, renders'⟩)).buffer) ∧
      ∀ c, w ⟨buffer', offset, renders'⟩ = .error .full c → maxSize ≤ buffer'.size := by
  have hend : (∀ c, w ⟨buffer, offset, renders⟩ = .error .full c → maxSize ≤ buffer.size) →
      fill w offset buffer renders = (outcomeOf (w ⟨buffer, offset, renders⟩),
        (leftOff (w ⟨buffer, offset, renders⟩)).buffer) := by
    intro hfull
    rw [fill, fillSized]
    cases hw : w ⟨buffer, offset, renders⟩ with
    | ok _ c => rfl
    | error e c =>
      cases e with
      | aborted reason => rfl
      | full => simp only [dif_neg (Nat.not_lt.2 (hfull c hw)), outcomeOf, leftOff]
  by_cases hgrow : ∃ c, w ⟨buffer, offset, renders⟩ = .error .full c ∧ buffer.size < maxSize
  · obtain ⟨c, stop, small⟩ := hgrow
    -- What is left of the way to the largest size gets shorter.
    have hlt := lt_nextSize small
    obtain ⟨k, buffer', renders', hrest, hfill, hmax⟩ :=
      fill_last w offset (resized c.buffer (nextSize buffer.size)) c.renders
    exact ⟨k + 1, buffer', renders', .more stop small hrest, (fill_of_full stop small).trans hfill, hmax⟩
  · have hfull : ∀ c, w ⟨buffer, offset, renders⟩ = .error .full c → maxSize ≤ buffer.size := fun c hc =>
      Nat.not_lt.1 fun small => hgrow ⟨c, hc, small⟩
    exact ⟨0, buffer, renders, .none buffer renders, hend hfull, hfull⟩
termination_by maxSize - buffer.size
decreasing_by
  rw [size_resized]
  omega

theorem Retried.size (h : Retried w offset k buffer renders buffer' renders') :
    buffer'.size = sizeAfter k buffer.size := by
  induction h with
  | none => rfl
  | more _ _ _ ih => rw [ih, size_resized, sizeAfter]

/-- Before every growth the size was small enough to grow, and the buffer full. -/
theorem Retried.before (h : Retried w offset k buffer renders buffer' renders') : ∀ j, j < k →
    sizeAfter j buffer.size < maxSize ∧ ∃ b r c, b.size = sizeAfter j buffer.size ∧
      w ⟨b, offset, r⟩ = .error .full c := by
  induction h with
  | none => exact fun j hj => absurd hj (Nat.not_lt_zero j)
  | more stop small _ ih =>
    rename_i b _ r _ c _
    intro j hj
    cases j with
    | zero => exact ⟨small, b, r, c, rfl, stop⟩
    | succ j =>
      have hb := ih j (by omega)
      rwa [size_resized] at hb

theorem Retried.le (h : Retried w offset k buffer renders buffer' renders') : k ≤ 27 := by
  have hmax := maxSize_le_sizeAfter buffer.size
  refine Nat.not_lt.1 fun hk => ?_
  have hsmall := (h.before 27 hk).1
  omega

theorem Retried.size_le (h : Retried w offset k buffer renders buffer' renders') :
    buffer'.size ≤ max buffer.size maxSize := by
  cases h with
  | none => exact Nat.le_max_left _ _
  | more _ _ hrest =>
    have hsize := hrest.size
    rw [size_resized] at hsize
    have hle := hsize ▸ sizeAfter_le_maxSize _ (Nat.min_le_right _ _ : nextSize buffer.size ≤ maxSize)
    exact Nat.le_trans hle (Nat.le_max_right _ _)

theorem Retried.size_eq (h : Retried w offset k buffer renders buffer' renders') (hmax : maxSize ≤ buffer'.size) :
    buffer'.size = max buffer.size maxSize := by
  have hle := h.size_le
  cases h with
  | none => exact (Nat.max_eq_left hmax).symm
  | more _ small _ => omega

/-! ## The bytes in front of the offset -/

theorem toList_filled (n : Nat) (b : UInt8) : (filled n b).data.toList = List.replicate n b := by
  induction n using Nat.strongRecOn with
  | _ n ih =>
    rw [filled]
    split
    · rename_i h
      rw [h]
      rfl
    · have hhalf := ih (n / 2) (by omega)
      simp only
      split
      · rw [ByteArray.data_append, Array.toList_append, hhalf, List.replicate_append_replicate]
        congr 1
        omega
      · rw [ByteArray.data_push, ByteArray.data_append, Array.toList_push, Array.toList_append, hhalf,
          List.replicate_append_replicate, ← List.replicate_succ']
        congr 1
        omega

/-- In front of an offset the second buffer has the bytes of the first, and zeros where the first had none. -/
structure Extends (offset : Nat) (old new : ByteArray) : Prop where
  size_le : old.size ≤ new.size
  kept : ∀ i, i < offset → i < old.size → new[i]? = old[i]?
  zeros : ∀ i, i < offset → old.size ≤ i → i < new.size → new[i]? = some 0

theorem getElem?_eq (b : ByteArray) (i : Nat) : b[i]? = b.data.toList[i]? := by
  rw [Array.getElem?_toList]
  rfl

theorem Extends.trans {b₁ b₂ b₃ : ByteArray} (h : Extends offset b₁ b₂) (h' : Extends offset b₂ b₃) :
    Extends offset b₁ b₃ where
  size_le := Nat.le_trans h.size_le h'.size_le
  kept i hi hs := (h'.kept i hi (Nat.lt_of_lt_of_le hs h.size_le)).trans (h.kept i hi hs)
  zeros i hi hs hn := by
    by_cases h₂ : i < b₂.size
    · exact (h'.kept i hi h₂).trans (h.zeros i hi hs h₂)
    · exact h'.zeros i hi (Nat.not_lt.1 h₂) hn

theorem Extends.of_stopped {c c' : Cursor} (h : Stopped c c') : Extends c.pos c.buffer c'.buffer where
  size_le := Nat.le_of_eq h.size.symm
  kept i hi _ := by
    have hf := congrArg (fun l : List UInt8 => l[i]?) h.front
    simp only [Cursor.behind, Wire.front, List.getElem?_take, if_pos hi] at hf
    rw [getElem?_eq, getElem?_eq, hf]
  zeros i _ hs hn := absurd hn (by rw [h.size]; omega)

theorem extends_resized (offset : Nat) {buffer : ByteArray} {n : Nat} (h : buffer.size ≤ n) :
    Extends offset buffer (resized buffer n) := by
  have hlist : (resized buffer n).data.toList = buffer.data.toList ++ List.replicate (n - buffer.size) 0 := by
    by_cases hle : n ≤ buffer.size
    · have hn : n = buffer.size := Nat.le_antisymm hle h
      rw [resized, if_pos hle, toList_extract, List.drop_zero, front, hn, Nat.sub_self, List.replicate_zero,
        List.append_nil, List.take_of_length_le (by simp)]
    · rw [resized, if_neg hle, ByteArray.data_append, Array.toList_append, toList_filled]
  have hlen : buffer.data.toList.length = buffer.size := by rw [Array.length_toList, ByteArray.size_data]
  refine ⟨by rwa [size_resized], fun i _ hs => ?_, fun i _ hs hn => ?_⟩
  · rw [getElem?_eq, getElem?_eq, hlist, List.getElem?_append_left (by omega)]
  · rw [size_resized] at hn
    rw [getElem?_eq, hlist, List.getElem?_append_right (by omega), List.getElem?_replicate, if_pos (by omega)]

/-- However it ends, a step keeps the size of the buffer and what is in front of its start. -/
def Contained (w : Write Unit) : Prop := ∀ c : Cursor, Stopped c (leftOff (w c))

theorem Contained.of_composed {P : Deferred → Prop} (h : Composed P w) (ho : StopsOutside w) : Contained w := by
  intro c
  by_cases hc : c.pos ≤ c.buffer.size
  · cases h.run c hc with
    | stopped stop kept _ =>
      rw [stop]
      exact kept
    | wrote answer wrote _ =>
      rw [answer]
      exact (Stopped.refl _).after wrote hc
  · rw [ho c (Nat.lt_of_not_le hc)]
    exact .refl c

theorem Retried.extends (hw : Contained w) (h : Retried w offset k buffer renders buffer' renders') :
    Extends offset buffer buffer' := by
  induction h with
  | none buffer renders => exact Extends.of_stopped (.refl ⟨buffer, offset, renders⟩)
  | @more _ buffer _ renders _ c stop small _ ih =>
    have hkept : Stopped ⟨buffer, offset, renders⟩ c := by
      have := hw ⟨buffer, offset, renders⟩
      rwa [stop] at this
    have hsize : c.buffer.size = buffer.size := hkept.size
    have hgrow := lt_nextSize small
    exact (Extends.of_stopped hkept).trans ((extends_resized offset (by omega)).trans ih)

/-- **A write never touches what is in front of its offset**, and fills with zeros what it adds there. -/
theorem fill_extends (hw : Contained w) (offset : Nat) (buffer : ByteArray) (renders : Renders) :
    Extends offset buffer (fill w offset buffer renders).2 := by
  obtain ⟨k, buffer', renders', hretried, hfill, -⟩ := fill_last w offset buffer renders
  rw [hfill]
  exact (hretried.extends hw).trans (Extends.of_stopped (hw ⟨buffer', offset, renders'⟩))

theorem fill_size_le (hw : Contained w) (offset : Nat) (buffer : ByteArray) (renders : Renders) :
    (fill w offset buffer renders).2.size ≤ max buffer.size maxSize := by
  obtain ⟨k, buffer', renders', hretried, hfill, -⟩ := fill_last w offset buffer renders
  rw [hfill]
  exact Nat.le_trans (Nat.le_of_eq (hw ⟨buffer', offset, renders'⟩).size) hretried.size_le

/-! ## Messages -/

/-- **A message is written as what its body yields**, unless it is too large or a deferred text breaks off. -/
theorem fill_message {P : Deferred → Prop} {body : Write Unit} (h : Composed P body) (field offset : Nat)
    (buffer : ByteArray) (renders : Renders) :
    (∃ finish items, (fill (message field body) offset buffer renders).1 = .written finish ∧
      finish ≤ (fill (message field body) offset buffer renders).2.size ∧ Yields body () items ∧
      ((fill (message field body) offset buffer renders).2.extract offset finish).data.toList =
        enclosed field (encodeItems items)) ∨
    (fill (message field body) offset buffer renders).1 = .tooLarge ∨
    ∃ d earlier reason, P d ∧ d.render earlier = .aborted reason ∧
      (fill (message field body) offset buffer renders).1 = .aborted reason := by
  obtain ⟨k, last, renders', -, hfill, -⟩ := fill_last (message field body) offset buffer renders
  rw [hfill]
  by_cases hin : offset ≤ last.size
  · obtain ⟨a, c, items, answer, wrote, yields⟩ | ⟨e, c, stop, -, due⟩ :=
      Ran.message field (c := ⟨last, offset, renders'⟩) hin h.run
    · have hl : (front last offset).length = offset := length_front hin
      refine .inl ⟨c.pos, items, by rw [answer, outcomeOf], ?_, yields, ?_⟩
      · rw [answer, leftOff]
        exact wrote.inside hin
      · rw [answer, leftOff, toList_extract, ← Cursor.behind, wrote.behind]
        exact List.drop_left' hl
    · rw [stop]
      cases due with
      | full => exact .inr (.inl rfl)
      | @aborted d earlier reason text hd => exact .inr (.inr ⟨d, earlier, reason, text, hd, rfl⟩)
  · rw [message_stopsOutside field body ⟨last, offset, renders'⟩ (Nat.lt_of_not_le hin)]
    exact .inr (.inl rfl)

end Buffer
end Courier
