import Courier.Proofs.Batch.Frame
/-!
# Slots - what the length slots of a payload say

A slot holds 28 bits, and nothing but the size of the buffer keeps a message from being longer.  Main statements:
behind every slot of a payload stands its message, and the slot says how long it is exactly if that is below 2^28,
as it always is in a buffer of fewer bytes (`Batch.write_slots`); in a buffer that came larger than that a slot may be
wrong (`Batch.slot_overflows`).
-/
namespace Courier
namespace Wire

mutual

/-- The slots in an item that stands at a position: where each one is, and the content of its message. -/
def Item.slots (start : Nat) : Item → List (Nat × List UInt8)
  | .bytes _ => []
  | .message field items =>
    let slot := start + (key field .lengthDelimited).length
    (slot, encodeItems items) :: slotsOf (slot + Varint.slotSize) items

def slotsOf (start : Nat) : List Item → List (Nat × List UInt8)
  | [] => []
  | i :: items => i.slots start ++ slotsOf (start + i.encode.length) items

end

/-- At the place of a slot stand four bytes for its content, and then the content. -/
def SlotIn (payload : List UInt8) (slot : Nat × List UInt8) : Prop :=
  ∃ rest, payload.drop slot.1 = Varint.padded slot.2.length ++ (slot.2 ++ rest)

/-- A slot is read as the number of bytes that its content, which follows it, has. -/
def SlotMeasures (payload : List UInt8) (slot : Nat × List UInt8) : Prop :=
  ∃ rest, Varint.decode? (payload.drop slot.1) = some (slot.2.length, slot.2 ++ rest)

theorem length_enclosed (field : Nat) (bytes : List UInt8) :
    (enclosed field bytes).length = (key field .lengthDelimited).length + Varint.slotSize + bytes.length := by
  rw [enclosed, List.length_append, List.length_append, Varint.length_padded, Nat.add_assoc]

mutual

/-- The slots of an item stand in the bytes of it, whatever is before and after these. -/
theorem Item.slotIn (before after : List UInt8) : ∀ i : Item, ∀ slot ∈ i.slots before.length,
    SlotIn (before ++ (i.encode ++ after)) slot
  | .bytes _, _, h => absurd h List.not_mem_nil
  | .message field items, slot, h => by
    have henc : (Item.message field items).encode = key field .lengthDelimited ++
      (Varint.padded (encodeItems items).length ++ encodeItems items) := rfl
    rw [henc]
    rcases List.mem_cons.1 h with rfl | h
    · refine ⟨after, ?_⟩
      rw [List.append_assoc, ← List.append_assoc before, List.drop_left' List.length_append, List.append_assoc]
    · -- The key and the slot go to what is before, and the place of an inner slot stays what it is.
      have hin := slotIn_items (before ++ key field .lengthDelimited ++ Varint.padded (encodeItems items).length) after
        items slot (by rwa [List.length_append, List.length_append, Varint.length_padded])
      simpa only [List.append_assoc] using hin

theorem slotIn_items (before after : List UInt8) : ∀ items : List Item, ∀ slot ∈ slotsOf before.length items,
    SlotIn (before ++ (encodeItems items ++ after)) slot
  | [], _, h => absurd h List.not_mem_nil
  | i :: items, slot, h => by
    rw [encodeItems, List.append_assoc]
    rcases List.mem_append.1 h with h | h
    · exact i.slotIn before (encodeItems items ++ after) slot h
    · have hin := slotIn_items (before ++ i.encode) after items slot (by rwa [List.length_append])
      rwa [List.append_assoc] at hin

end

variable {payload : List UInt8} {slot : Nat × List UInt8}

theorem SlotIn.length_le (h : SlotIn payload slot) : slot.2.length ≤ payload.length := by
  obtain ⟨rest, h⟩ := h
  have hl := congrArg List.length h
  rw [List.length_drop, List.length_append, List.length_append] at hl
  omega

/-- **A slot says how long its message is exactly if that is below 2^28.** -/
theorem SlotIn.measures_iff (h : SlotIn payload slot) : SlotMeasures payload slot ↔ slot.2.length < 0x10000000 := by
  obtain ⟨rest, h⟩ := h
  constructor
  · rintro ⟨rest', hread⟩
    rw [h, Varint.decode?_padded_mod] at hread
    have hn : slot.2.length % 0x10000000 = slot.2.length := congrArg Prod.fst (Option.some.inj hread)
    omega
  · intro hlt
    refine ⟨rest, ?_⟩
    rw [h]
    exact Varint.decode?_padded hlt _

end Wire

namespace Batch

open Wire Buffer Payload

/-- **What a write puts is what its slots say, up to 2^28 bytes.** From any offset into any buffer a write puts one
message, in which every message of its own stands behind a slot; each slot says how long its message is exactly if
that is below 2^28, and in a buffer of fewer bytes all of them do.  Else the batch is reported as too large, or one of
its deferred texts breaks off. -/
theorem write_slots (limits : Limits) (resource : Resource) (batch : Batch) (offset : Nat) (buffer : ByteArray) :
    (∃ finish items payload, (batch.write limits resource offset buffer).1 = .written finish ∧
      ((batch.write limits resource offset buffer).2.extract offset finish).data.toList = payload ∧
      Yields (batch.put limits resource) () [.message 1 items] ∧ payload = encodeItems [.message 1 items] ∧
      (∀ slot ∈ slotsOf 0 [.message 1 items], SlotIn payload slot) ∧
      (∀ slot ∈ slotsOf 0 [.message 1 items], SlotMeasures payload slot ↔ slot.2.length < 0x10000000) ∧
      (buffer.size < 0x10000000 → ∀ slot ∈ slotsOf 0 [.message 1 items], SlotMeasures payload slot)) ∨
    (batch.write limits resource offset buffer).1 = .tooLarge ∨
    ∃ d ∈ resource.deferrals ++ batch.deferrals, ∃ earlier reason, d.render earlier = .aborted reason ∧
      (batch.write limits resource offset buffer).1 = .aborted reason := by
  obtain ⟨body, hput, hbody⟩ := composed (P := (· ∈ resource.deferrals ++ batch.deferrals)) limits
    (fun d hd => List.mem_append_left batch.deferrals hd) fun d hd => List.mem_append_right resource.deferrals hd
  have hsize := fill_size_le (put_contained limits resource batch) offset buffer {}
  rw [hput] at hsize ⊢
  rw [write, hput]
  obtain ⟨finish, items, houtcome, hfinish, hyields, hbytes⟩ | hlarge | ⟨d, earlier, reason, hd, hrender, habort⟩ :=
    fill_message hbody 1 offset buffer {}
  · have hin : ∀ slot ∈ slotsOf 0 [.message 1 items], SlotIn (enclosed 1 (encodeItems items)) slot := by
      intro slot hslot
      have h := slotIn_items [] [] [.message 1 items] slot hslot
      rwa [List.append_nil, List.nil_append, encodeItems_singleton] at h
    refine .inl ⟨finish, items, _, houtcome, hbytes, .message 1 hyields, ?_, hin,
      fun slot hslot => (hin slot hslot).measures_iff, fun hsmall slot hslot => (hin slot hslot).measures_iff.2 ?_⟩
    · rw [encodeItems_singleton]
      rfl
    · have hle := (hin slot hslot).length_le
      rw [← hbytes, toList_extract, List.length_drop, length_front hfinish] at hle
      have hmax : maxSize < 0x10000000 := by decide
      omega
  · exact .inr (.inl hlarge)
  · exact .inr (.inr ⟨d, hd, earlier, reason, hrender, habort⟩)

/-! ## A text that is too long -/

def longUrl (n : Nat) : Resource := { schemaUrl := some (String.ofList (List.replicate n 'x')) }

theorem steady_longUrl (n : Nat) : (longUrl n).Steady := steadyAttributes_nil

/-- The request without records of such a resource is a message that is longer than the url. -/
theorem parts_longUrl (limits : Limits) {n : Nat} (h : 0 < n) : ∃ content : List UInt8, n ≤ content.length ∧
    encodeParts ((Batch.logs []).parts limits (longUrl n)) = enclosed 1 content := by
  refine ⟨_, ?_, (encodeParts_singleton 1 _).trans (encodePieces_singleton 1 _)⟩
  let url := String.ofList (List.replicate n 'x')
  have hn : n ≤ url.utf8ByteSize := by
    have hle := Received.length_le_utf8ByteSize url
    rwa [String.toList_ofList, List.length_replicate] at hle
  have hbytes : url.toUTF8.data.toList.length = url.utf8ByteSize := by
    rw [Array.length_toList, ByteArray.size_data]
    rfl
  have hsome : nonempty (longUrl n).schemaUrl = some url := by
    have hne : url.isEmpty = false := beq_false_of_ne (Nat.ne_of_gt (Nat.lt_of_lt_of_le h hn))
    rw [nonempty, longUrl, Option.filter_some, if_pos (by rw [hne]; rfl)]
  rw [resourceGroupParts, hsome, encodeParts_cons, encodeParts_cons]
  simp only [Option.toList_some, List.map_cons, List.map_nil, encodeParts_singleton, encodePieces_singleton,
    Piece.encode, Piece.tail, textPiece, List.length_append, hbytes]
  omega

/-- A slot may be wrong: where the buffer came with room for it, a message of 2^28 bytes and more is written all the
same, and its slot says less. -/
theorem slot_overflows : ∃ buffer finish,
    ((Batch.logs []).write {} (longUrl 0x10000000) 0 buffer).1 = .written finish ∧
    ∀ items, (((Batch.logs []).write {} (longUrl 0x10000000) 0 buffer).2.extract 0 finish).data.toList =
        encodeItems [.message 1 items] →
      (1, encodeItems items) ∈ slotsOf 0 [.message 1 items] ∧
      ¬ SlotMeasures (encodeItems [.message 1 items]) (1, encodeItems items) := by
  have hb : (Batch.logs []).Steady := List.forall_mem_nil _
  obtain ⟨room, hw⟩ := puts {} (steady_longUrl 0x10000000) hb
  obtain ⟨content, hlong, hbytes⟩ := parts_longUrl {} (show 0 < 0x10000000 by decide)
  have hroom : 0 + room ≤ (filled room 0).size := by
    rw [size_filled]
    omega
  obtain ⟨c, hc, hwrote⟩ := hw.fits ⟨filled room 0, 0, {}⟩ hroom
  have hwrite : (Batch.logs []).write {} (longUrl 0x10000000) 0 (filled room 0) = (.written c.pos, c.buffer) := by
    rw [write, fill, fillSized, hc]
  refine ⟨filled room 0, c.pos, by rw [hwrite], fun items hitems => ?_⟩
  have hkey : (key 1 .lengthDelimited).length = 1 := by
    rw [key, Varint.encode]
    rfl
  have hmem : (1, encodeItems items) ∈ slotsOf 0 [.message 1 items] := by
    rw [slotsOf, Item.slots, hkey]
    exact List.mem_cons_self
  refine ⟨hmem, fun hmeasures => ?_⟩
  have hin := slotIn_items [] [] [.message 1 items] _ hmem
  rw [List.append_nil, List.nil_append] at hin
  have hlt := hin.measures_iff.1 hmeasures
  have hpayload : encodeItems [.message 1 items] = enclosed 1 content := by
    have hbehind := hwrote.behind
    rw [← hitems, hwrite, toList_extract, List.drop_zero, ← Cursor.behind, hbehind, hbytes]
    rfl
  -- The same bytes enclose the content of the url, so the message is no shorter than that.
  have hl := congrArg List.length hpayload
  rw [encodeItems_singleton, show (Item.message 1 items).encode = enclosed 1 (encodeItems items) from rfl,
    length_enclosed, length_enclosed] at hl
  simp only at hlt
  omega

end Batch
end Courier
