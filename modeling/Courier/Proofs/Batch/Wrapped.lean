import Courier.Proofs.Batch
import Courier.Proofs.Received.Envelope
/-!
# Wrapped - a request with a message that is as long as a slot is wide

A slot says nothing of the bytes of a message that has 2^28 of them, so what stands in the message is read as if it
stood behind the request.  Main statement: of a request with a resource whose attributes have so many bytes, a reader
finds an empty resource group, and one more for each attribute (`Batch.write_repeated`).
-/
namespace Courier
namespace Batch

open Wire Buffer Payload
open Received (fields? nested? each?)

/-- Some buffer has room for a steady batch, however long its request is. -/
theorem write_roomy (limits : Limits) {resource : Resource} {batch : Batch} (hr : resource.Steady) (hb : batch.Steady) :
    ∃ buffer finish, (batch.write limits resource 0 buffer).1 = .written finish ∧
      ((batch.write limits resource 0 buffer).2.extract 0 finish).data.toList =
        encodeParts (batch.parts limits resource) := by
  obtain ⟨room, hw⟩ := puts limits hr hb
  have hroom : 0 + room ≤ (filled room 0).size := by
    rw [size_filled]
    omega
  obtain ⟨c, hc, hwrote⟩ := hw.fits ⟨filled room 0, 0, {}⟩ hroom
  have hwrite : batch.write limits resource 0 (filled room 0) = (.written c.pos, c.buffer) := by
    rw [write, fill, fillSized, hc]
  refine ⟨filled room 0, c.pos, by rw [hwrite], ?_⟩
  rw [hwrite, toList_extract, List.drop_zero, ← Cursor.behind, hwrote.behind]
  rfl

/-! ## A resource with one attribute many times -/

def repeated (times : Nat) (name : String) (zeros : Nat) : Resource :=
  { attributes := List.replicate times (name, .bytes (List.replicate zeros 0).toByteArray) }

theorem steady_repeated (times : Nat) (name : String) (zeros : Nat) : (repeated times name zeros).Steady := by
  intro a ha
  rw [List.eq_of_mem_replicate ha]
  exact .bytes _

/-- The attribute, as it is written. -/
def zerosParts (name : String) (zeros : Nat) : Parts :=
  [(1, [textPiece name]), (2, [.message (encodeParts [(7, [.bytes (List.replicate zeros 0)])])])]

theorem length_encode_one {n : Nat} (h : n < 128) : (Varint.encode n).length = 1 := by
  rw [Varint.encode, if_pos h]
  rfl

theorem length_encode_two {n : Nat} (h : 128 ≤ n) (h' : n < 16384) : (Varint.encode n).length = 2 := by
  rw [Varint.encode, if_neg (Nat.not_lt.2 h), List.length_cons, length_encode_one (by omega)]

/-- The key of a field below 16 is one byte. -/
theorem length_key {field : Nat} (h : field < 16) (form : Form) : (key field form).length = 1 := by
  have hcode : form.code < 8 := by cases form <;> decide
  rw [key, Varint.encode, if_pos (by omega)]
  rfl

theorem length_encode_bytes {field : Nat} (h : field < 16) (content : List UInt8) :
    ((Piece.bytes content).encode field).length = 1 + (Varint.encode content.length).length + content.length := by
  rw [Piece.encode, Piece.tail, List.length_append, length_key h, List.length_append, Nat.add_assoc]

theorem length_encode_message {field : Nat} (h : field < 16) (content : List UInt8) :
    ((Piece.message content).encode field).length = 5 + content.length := by
  rw [Piece.encode, Piece.tail, List.length_append, length_key h, List.length_append, Varint.length_padded,
    Varint.slotSize]
  omega

theorem parts_repeated (limits : Limits) (times : Nat) (name : String) (zeros : Nat) :
    encodeParts ((Batch.logs []).parts limits (repeated times name zeros)) =
      encodePieces 1 [.message (encodePieces 1 [.message (encodePieces 1
        (List.replicate times (.message (encodeParts (zerosParts name zeros)))))])] := by
  have hone : Received.Attribute.of? Allowance.unlimited.length (name, .bytes (List.replicate zeros 0).toByteArray) =
      some (name, some (.bytes (List.replicate zeros 0))) := by
    rw [Received.Attribute.of?, Received.Value.of?, List.data_toByteArray]
    rfl
  have hkept : Received.Attribute.kept .unlimited (repeated times name zeros).attributes =
      List.replicate times (name, some (.bytes (List.replicate zeros 0))) := by
    show (List.replicate times _).filterMap _ = _
    rw [List.filterMap_replicate_of_some hone]
  have hdropped : Received.Attribute.dropped .unlimited (repeated times name zeros).dropped
      (repeated times name zeros).attributes = 0 := by
    rw [Received.Attribute.dropped, hkept, repeated, List.length_replicate, List.length_replicate, Nat.sub_self]
    rfl
  have hresource : encodeParts (resourceParts (repeated times name zeros)) =
      encodePieces 1 (List.replicate times (.message (encodeParts (zerosParts name zeros)))) := by
    rw [resourceParts, hkept, hdropped, List.map_replicate, encodeParts_cons, encodeParts_singleton]
    exact List.append_nil _
  have hgroup : encodeParts (resourceGroupParts limits.generic (logRecordParts limits) (repeated times name zeros) []) =
      encodePieces 1 [.message (encodeParts (resourceParts (repeated times name zeros)))] := List.append_nil _
  rw [← hresource, ← hgroup, Batch.parts, Scope.group_nil, requestParts, encodeParts_singleton]

/-! ## What is read of it -/

/-- The slot of a message of 2^28 bytes says zero, and that of the message around it how many bytes are in front. -/
theorem encode_wrapped {content : List UInt8} (h : content.length = 0x10000000) :
    encodePieces 1 [.message (encodePieces 1 [.message content])] =
      (Piece.message ((Piece.message []).encode 1)).encode 1 ++ content := by
  have hinner : Varint.padded content.length = Varint.padded 0 := by rw [h, ← Varint.padded_mod]
  have houter : Varint.padded ((Piece.message content).encode 1).length =
      Varint.padded ((Piece.message []).encode 1).length := by
    rw [length_encode_message (by decide), length_encode_message (by decide), h, ← Varint.padded_mod]
    rfl
  rw [encodePieces_singleton, encodePieces_singleton, Piece.encode, Piece.tail, houter, Piece.encode, Piece.tail,
    hinner]
  simp only [Piece.encode, Piece.tail, Piece.form, List.append_assoc, List.append_nil, List.length_nil]

/-- A run of messages, of which the first holds an empty one. -/
theorem each?_wrapped {τ : Type} {read : List Field → Option τ} {x y : τ} {inner : Parts} (times : Nat)
    (hn : wellNumbered (inner.map Prod.fst) = true) (hs : (encodeParts inner).length < 0x1000000)
    (hx : read [⟨1, .bytes []⟩] = some x) (hy : read (fieldsOf inner) = some y) :
    (fields? (encodePieces 1 (.message ((Piece.message []).encode 1) ::
      List.replicate times (.message (encodeParts inner))))).bind (each? 1 read) =
        some (x :: List.replicate times y) := by
  have hempty : nested? (Piece.message ((Piece.message []).encode 1)).content = some [⟨1, .bytes []⟩] := by
    rw [← encodePieces_singleton, ← encodeParts_singleton]
    refine fields?_encodeParts _ rfl ?_
    rw [encodeParts_singleton, encodePieces_singleton, length_encode_message (by decide)]
    decide
  have hinner : nested? (Piece.message (encodeParts inner)).content = some (fieldsOf inner) :=
    fields?_encodeParts _ hn (Nat.lt_trans hs (by decide))
  have hread : ∀ p ∈ List.replicate times (Piece.message (encodeParts inner)),
      (nested? p.content).bind read = some y := by
    intro p hp
    rw [List.eq_of_mem_replicate hp, hinner]
    exact hy
  have hshort : ∀ p ∈ Piece.message ((Piece.message []).encode 1) ::
      List.replicate times (.message (encodeParts inner)), p.tail.length < 0x10000000 := by
    refine List.forall_mem_cons.2 ⟨?_, fun p hp => ?_⟩
    · rw [Piece.tail, List.length_append, length_encode_message (by decide)]
      decide
    · rw [List.eq_of_mem_replicate hp, Piece.tail, List.length_append, Varint.length_padded, Varint.slotSize]
      omega
  rw [fields?, fields?_encodePieces _ (by decide) (by decide) hshort, Option.bind_some, each?, Reader.formed?,
    List.filter_eq_self.2 (List.forall_mem_map.2 fun _ _ => rfl), List.map_cons, List.mapM_cons, hempty,
    Option.bind_some, hx, Received.mapM_map_some hread, List.map_const', List.length_replicate]
  rfl

theorem length_zerosParts (name : String) (zeros : Nat) : (encodeParts (zerosParts name zeros)).length =
    7 + (Varint.encode name.utf8ByteSize).length + name.utf8ByteSize + (Varint.encode zeros).length + zeros := by
  have hname : name.toUTF8.data.toList.length = name.utf8ByteSize := by
    rw [Array.length_toList, ByteArray.size_data]
    rfl
  rw [zerosParts, encodeParts_cons, encodeParts_singleton, encodePieces_singleton, encodePieces_singleton,
    List.length_append, textPiece, length_encode_bytes (by decide), length_encode_message (by decide),
    encodeParts_singleton, encodePieces_singleton, length_encode_bytes (by decide), hname, List.length_replicate]
  omega

/-- **Of such a request a reader finds an empty group, and one more for each attribute**, if the attributes have 2^28
bytes.  Some buffer has room for it. -/
theorem write_repeated {τ : Type} (limits : Limits) (times : Nat) (name : String) (zeros : Nat)
    (read : Nat → List Field → Option τ) {x y : τ}
    (hlength : times * (5 + (encodeParts (zerosParts name zeros)).length) = 0x10000000)
    (hshort : (encodeParts (zerosParts name zeros)).length < 0x1000000)
    (hx : ∀ levels, read (levels + 1) [⟨1, .bytes []⟩] = some x)
    (hy : ∀ levels, read (levels + 1) (fieldsOf (zerosParts name zeros)) = some y) : ∃ buffer finish payload,
      ((Batch.logs []).write limits (repeated times name zeros) 0 buffer).1 = .written finish ∧
      (((Batch.logs []).write limits (repeated times name zeros) 0 buffer).2.extract 0 finish).data.toList = payload ∧
      (fields? payload).bind (each? 1 (read (payload.length + 1))) = some (x :: List.replicate times y) := by
  have hb : (Batch.logs []).Steady := List.forall_mem_nil _
  obtain ⟨buffer, finish, hwrite, hbytes⟩ := write_roomy limits (steady_repeated times name zeros) hb
  have hcontent : (encodePieces 1
      (List.replicate times (.message (encodeParts (zerosParts name zeros))))).length = 0x10000000 := by
    rw [encodePieces, List.length_flatMap, List.map_replicate, length_encode_message (by decide),
      List.sum_replicate_nat, hlength]
  refine ⟨buffer, finish, _, hwrite, rfl, ?_⟩
  rw [hbytes, parts_repeated, encode_wrapped hcontent, ← encodePieces_cons]
  exact each?_wrapped times rfl hshort (hx _) (hy _)

theorem cons_replicate_ne {τ : Type} {x y t : τ} {times : Nat} (h : 0 < times) :
    x :: List.replicate times y ≠ [t] := by
  intro heq
  have hlength := congrArg List.length heq
  rw [List.length_cons, List.length_replicate, List.length_singleton] at hlength
  omega

/-- The value of such an attribute is a message without any field that a group has. -/
theorem each?_zeros {τ : Type} {read : List Field → Option τ} {x : τ} (name : String) {zeros : Nat} (h : 128 ≤ zeros)
    (h' : zeros < 16384) (hx : read [⟨7, .bytes (List.replicate zeros 0)⟩] = some x) :
    each? 2 read (fieldsOf (zerosParts name zeros)) = some [x] := by
  have hvalue : nested? (Piece.message (encodeParts [(7, [.bytes (List.replicate zeros 0)])])).content =
      some [⟨7, .bytes (List.replicate zeros 0)⟩] := by
    refine fields?_encodeParts _ rfl ?_
    rw [encodeParts_singleton, encodePieces_singleton, length_encode_bytes (by decide), List.length_replicate,
      length_encode_two h h']
    omega
  rw [each?, formed?_fieldsOf 2 _ rfl]
  show List.mapM (m := Option) _ [_] = _
  rw [List.mapM_cons, hvalue, Option.bind_some, hx]
  rfl

end Batch
end Courier
