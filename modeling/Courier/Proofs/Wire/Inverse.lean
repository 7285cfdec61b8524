import Courier.Proofs.Received.Points
import Courier.Proofs.Wire.Bits
import Courier.Proofs.Wire.Shortest
/-!
# Inverse - what is written for a value is read as it

`RoundTrip w bytes next x` says that `w` puts the bytes wherever they fit and is stopped as full wherever they do not,
and that `next` takes them off the front of anything as the value `x`, and leaves the rest.  Main statement: every
primitive writer has such a reader, for every value of the type that it writes (`writers_invert`).
-/
namespace Courier
namespace Wire

open Received

/-! ## Round trips -/

/-- What a step puts for a value is read as the value, whatever comes after it. -/
structure RoundTrip {α : Type} (w : Write Unit) (bytes : List UInt8) (next : List UInt8 → Option (α × List UInt8))
    (x : α) : Prop where
  fills : Fills w () bytes
  reads : ∀ rest, next (bytes ++ rest) = some (x, rest)

/-- Takes a field off the front that has the number and the form. -/
def nextField? {α : Type} (number : Nat) (form : Content → Option α) (s : List UInt8) : Option (α × List UInt8) :=
  match Reader.key? s with
  | some (n, code, rest) =>
    if n = number then (Reader.scalar? code rest).bind fun (content, rest) => (form content).map (·, rest) else none
  | none => none

variable {α : Type} {field : Nat} {w : Write Unit} {p : Piece} {form : Content → Option α} {x : α}
  {bytes : List UInt8}

theorem nextField?_encode (h : 0 < field) (h' : field < 0x20000000) (hp : p.Measured) (hx : form p.content = some x)
    (rest : List UInt8) : nextField? field form (p.encode field ++ rest) = some (x, rest) := by
  rw [nextField?, Piece.encode, List.append_assoc, key?_key h h']
  simp only [if_true, scalar?_tail hp rest, Option.bind_some, hx, Option.map_some]

theorem RoundTrip.of_piece (p : Piece) (h : 0 < field) (h' : field < 0x20000000) (hb : p.encode field = bytes)
    (hw : Fills w () bytes) (hp : p.Measured) (hx : form p.content = some x) :
    RoundTrip w bytes (nextField? field form) x := by
  subst hb
  exact ⟨hw, nextField?_encode h h' hp hx⟩

theorem roundTrip_bool (h : 0 < field) (h' : field < 0x20000000) (b : Bool) :
    RoundTrip (putBool field b) (key field .varint ++ Varint.encode b.toNat) (nextField? field bool?) b := by
  cases b with
  | false => exact .of_piece (.varint 0) h h' rfl (fills_putNumber field 0) trivial rfl
  | true => exact .of_piece (.varint 1) h h' rfl (fills_putNumber field 1) trivial rfl

theorem roundTrip_uint32 (h : 0 < field) (h' : field < 0x20000000) (n : UInt32) :
    RoundTrip (putNumber field n.toNat) (key field .varint ++ Varint.encode n.toNat) (nextField? field uint32?) n := by
  have hn : n.toUInt64.toNat = n.toNat := UInt32.toNat_toUInt64 n
  refine .of_piece (.varint n.toUInt64) h h' ?_ (fills_putNumber field n.toNat) trivial (uint32?_varint n)
  rw [Piece.encode, Piece.tail, hn, Piece.form]

theorem roundTrip_sint32 (h : 0 < field) (h' : field < 0x20000000) (n : Int32) :
    RoundTrip (putSint32 field n) (key field .varint ++ Varint.encode ((n <<< 1) ^^^ (n >>> 31)).toUInt32.toNat)
      (nextField? field sint32?) n := by
  have hlt := zigzag_lt n
  have hn : (UInt64.ofNat (zigzag n.toInt)).toNat = zigzag n.toInt := by
    rw [UInt64.toNat_ofNat']
    omega
  rw [← zigzag_eq_xor]
  refine .of_piece (.varint (UInt64.ofNat (zigzag n.toInt))) h h' ?_ (fills_putNumber field (zigzag n.toInt)) trivial
    (sint32?_zigzag n)
  rw [Piece.encode, Piece.tail, hn, Piece.form]

/-- Bytes are read in any form that reads them behind their length. -/
theorem roundTrip_bytes (h : 0 < field) (h' : field < 0x20000000) {b : ByteArray}
    (hb : b.size < 0x10000000000000000) (hx : form (.bytes b.data.toList) = some x) :
    RoundTrip (putBytes field b) (key field .lengthDelimited ++ (Varint.encode b.size ++ b.data.toList))
      (nextField? field form) x := by
  have hlen : b.data.toList.length = b.size := by rw [Array.length_toList, ByteArray.size_data]
  have hmeasured : (Piece.bytes b.data.toList).Measured := by rwa [Piece.Measured, hlen]
  refine .of_piece (.bytes b.data.toList) h h' ?_ (fills_putBytes field b) hmeasured hx
  rw [Piece.encode, Piece.tail, hlen, Piece.form]

/-! ## Messages -/

/-- A message that begins at a cursor is opened where its key and its slot fit, and once it is closed its content stands
behind the length of it. -/
structure Encloses (field : Nat) (c : Cursor) : Prop where
  fits : c.pos + ((key field .lengthDelimited).length + 4) ≤ c.buffer.size → ∃ slot c',
    openMessage field c = .ok slot c' ∧ c'.pos = c.pos + ((key field .lengthDelimited).length + 4)
  full : c.buffer.size < c.pos + ((key field .lengthDelimited).length + 4) → ∃ c',
    openMessage field c = .error .full c' ∧ Stopped c c'
  closes : ∀ slot c₁ c₂ content, openMessage field c = .ok slot c₁ → Wrote c₁ c₂ content → ∃ c₃,
    fillSlot slot c₂ = .ok () c₃ ∧ Wrote c c₃ (key field .lengthDelimited ++ (Varint.padded content.length ++ content))

theorem encloses (field : Nat) (c : Cursor) : Encloses field c where
  fits hc := by
    obtain ⟨c', hopen, hp⟩ := (openMessage_fills field c).1 hc
    refine ⟨_, c', hopen, ?_⟩
    rw [hp.pos, slotOf, List.length_nil, Varint.slotSize]
    omega
  full := (openMessage_fills field c).2
  closes slot c₁ c₂ content hopen hwrote := by
    obtain ⟨rfl, hp⟩ := openMessage_pending hopen
    exact fillSlot_pending (hp.wrote hwrote (hwrote.inside hp.inside))

theorem nextField?_enclosed (h : 0 < field) (h' : field < 0x20000000) {content : List UInt8}
    (hc : content.length < 0x10000000) (rest : List UInt8) :
    nextField? field Reader.bytes? (enclosed field content ++ rest) = some (content, rest) := by
  have hp : (Piece.message content).Measured := hc
  have hx : Reader.bytes? (Piece.message content).content = some content := rfl
  exact nextField?_encode h h' hp hx rest

/-! ## The primitives -/

/-- What each primitive writes, under the number of a field where it writes one, is read as what it was given: bytes as
they are, numbers alone, then keys and fields, and messages behind a slot.  A varint has no shorter spelling; its digits
and those of a slot are seven bits each, a signed number of 64 bits is written by its bits, one of 32 bits by its bits
moved up by one and turned if it is negative, and a double-precision number bit for bit. -/
structure WritersInvert (field : Nat) : Prop where
  raw (b : ByteArray) : Fills (putRaw b) () b.data.toList
  varint (n : UInt64) : RoundTrip (putVarint n.toNat) (Varint.encode n.toNat) nextVarint? n
  shortest (n : UInt64) : Varint.IsShortest n.toNat (Varint.encode n.toNat)
  digits (n : UInt64) : Varint.encode n.toNat =
    if n < 0x80 then [n.toUInt8] else ((n &&& 0x7f).toUInt8 ||| 0x80) :: Varint.encode (n >>> 7).toNat
  word (n : UInt64) : RoundTrip (putRaw (fixed64 n)) (littleEndian 8 n.toNat) nextFixed64? n
  wordOfDouble (x : Double) : RoundTrip (putRaw (fixed64 x.bits)) (littleEndian 8 x.bits.toNat) nextDouble? x
  keyed (form : Form) : Fills (putKey field form) () (key field form) ∧
    ∀ rest, Reader.key? (key field form ++ rest) = some (field, form.code, rest)
  bool (b : Bool) : RoundTrip (putBool field b)
    (key field .varint ++ Varint.encode b.toNat) (nextField? field bool?) b
  uint32 (n : UInt32) : RoundTrip (putNumber field n.toNat)
    (key field .varint ++ Varint.encode n.toNat) (nextField? field uint32?) n
  uint64 (n : UInt64) : RoundTrip (putNumber field n.toNat)
    (key field .varint ++ Varint.encode n.toNat) (nextField? field uint64?) n
  int64 (n : Int64) : RoundTrip (putInt64 field n)
    (key field .varint ++ Varint.encode n.toUInt64.toNat) (nextField? field int64?) n
  sint32 (n : Int32) : RoundTrip (putSint32 field n)
    (key field .varint ++ Varint.encode ((n <<< 1) ^^^ (n >>> 31)).toUInt32.toNat) (nextField? field sint32?) n
  fixed32 (n : UInt32) : RoundTrip (putFixed32 field n)
    (key field .fixed32 ++ littleEndian 4 n.toNat) (nextField? field fixed32?) n
  fixed64 (n : UInt64) : RoundTrip (putFixed64 field n)
    (key field .fixed64 ++ littleEndian 8 n.toNat) (nextField? field fixed64?) n
  sfixed64 (n : Int64) : RoundTrip (putSfixed64 field n)
    (key field .fixed64 ++ littleEndian 8 n.toUInt64.toNat) (nextField? field sfixed64?) n
  double (x : Double) : RoundTrip (putDouble field x)
    (key field .fixed64 ++ littleEndian 8 x.bits.toNat) (nextField? field double?) x
  bytes (b : ByteArray) : b.size < 0x10000000000000000 → RoundTrip (putBytes field b)
    (key field .lengthDelimited ++ (Varint.encode b.size ++ b.data.toList))
    (nextField? field Reader.bytes?) b.data.toList
  string (s : String) : s.toUTF8.size < 0x10000000000000000 → RoundTrip (putString field s)
    (key field .lengthDelimited ++ (Varint.encode s.toUTF8.size ++ s.toUTF8.data.toList))
    (nextField? field Reader.text?) s
  message (c : Cursor) : Encloses field c
  slot (n : UInt64) : Varint.padded n.toNat = [(n &&& 0x7f).toUInt8 ||| 0x80, (n >>> 7 &&& 0x7f).toUInt8 ||| 0x80,
    (n >>> 14 &&& 0x7f).toUInt8 ||| 0x80, (n >>> 21 &&& 0x7f).toUInt8]
  measured (content rest : List UInt8) : content.length < 0x10000000 →
    Varint.decode? (Varint.padded content.length ++ rest) = some (content.length, rest) ∧
    nextField? field Reader.bytes? (enclosed field content ++ rest) = some (content, rest)

/-- **What is written for a value is read as it**, for every value that a primitive can be given and every number that a
field can have: it is put where it fits, or stopped as full, and its reader takes exactly what was put off the front of
anything. -/
theorem writers_invert {field : Nat} (h : 0 < field) (h' : field < 0x20000000) : WritersInvert field where
  raw b := fills_putRaw b
  varint n := ⟨fills_putVarint n.toNat, nextVarint?_encode n⟩
  shortest n := Varint.isShortest_encode n.toNat_lt
  digits n := Varint.encode_eq_bits n
  word n := ⟨fills_fixed64 n, nextFixed64?_littleEndian n⟩
  wordOfDouble x := ⟨fills_fixed64 x.bits, nextDouble?_littleEndian x⟩
  keyed form := ⟨fills_putKey field form, key?_key h h'⟩
  bool b := roundTrip_bool h h' b
  uint32 n := roundTrip_uint32 h h' n
  uint64 n := .of_piece (.varint n) h h' rfl (fills_putNumber field n.toNat) trivial (uint64?_varint n)
  int64 n := .of_piece (.varint n.toUInt64) h h' rfl (fills_putNumber field n.toUInt64.toNat) trivial (int64?_varint n)
  sint32 n := roundTrip_sint32 h h' n
  fixed32 n := .of_piece (.fixed32 n) h h' rfl (fills_putFixed32 field n) trivial (fixed32?_fixed32 n)
  fixed64 n := .of_piece (.fixed64 n) h h' rfl (fills_putFixed64 field n) trivial (fixed64?_fixed64 n)
  sfixed64 n := .of_piece (.fixed64 n.toUInt64) h h' rfl (fills_putFixed64 field n.toUInt64) trivial
    (sfixed64?_fixed64 n)
  double x := .of_piece (.fixed64 x.bits) h h' rfl (fills_putFixed64 field x.bits) trivial (double?_fixed64 x)
  bytes b hb := roundTrip_bytes h h' hb (bytes?_bytes b.data.toList)
  string s hs := roundTrip_bytes h h' hs (text?_textPiece s)
  message c := encloses field c
  slot n := Varint.padded_eq_bits n
  measured _ rest hc := ⟨Varint.decode?_padded hc rest, nextField?_enclosed h h' hc rest⟩

/-- Behind a key of two bytes the lowest number of 32 bits takes five, and a text is read back from the message around
it. -/
theorem writers_invert_lowest :
    (0 < 16 ∧ 16 < 0x20000000 ∧ "abc".toUTF8.size < 0x10000000000000000 ∧
      [0x82, 0x01, 0x03, 0x61, 0x62, 0x63].length < 0x10000000) ∧
    RoundTrip (putSint32 16 (-2147483648)) [0x80, 0x01, 0xff, 0xff, 0xff, 0xff, 0x0f] (nextField? 16 sint32?)
      (-2147483648) ∧
    RoundTrip (putString 16 "abc") [0x82, 0x01, 0x03, 0x61, 0x62, 0x63] (nextField? 16 Reader.text?) "abc" ∧
    nextField? 16 Reader.bytes? [0x82, 0x01, 0x86, 0x80, 0x80, 0x00, 0x82, 0x01, 0x03, 0x61, 0x62, 0x63, 0x08] =
      some ([0x82, 0x01, 0x03, 0x61, 0x62, 0x63], [0x08]) := by
  have hinvert : WritersInvert 16 := writers_invert (by decide) (by decide)
  have hsize : "abc".toUTF8.size < 0x10000000000000000 := by decide
  have hbits : (((-2147483648 : Int32) <<< 1) ^^^ ((-2147483648 : Int32) >>> 31)).toUInt32.toNat = 4294967295 := by
    decide
  have hnumber : key 16 .varint ++ Varint.encode 4294967295 = [0x80, 0x01, 0xff, 0xff, 0xff, 0xff, 0x0f] := by
    simp [key, Form.code, Varint.encode]
  have hkey : key 16 .lengthDelimited = [0x82, 0x01] := by simp [key, Form.code, Varint.encode]
  have htext : Varint.encode "abc".toUTF8.size ++ "abc".toUTF8.data.toList = [0x03, 0x61, 0x62, 0x63] := by
    rw [show "abc".toUTF8.size = 3 from rfl, Varint.encode]
    rfl
  have hsint := hinvert.sint32 (-2147483648)
  rw [hbits, hnumber] at hsint
  have hstring := hinvert.string "abc" hsize
  rw [hkey, htext] at hstring
  have hmessage := hinvert.measured [0x82, 0x01, 0x03, 0x61, 0x62, 0x63] [0x08] (by decide)
  rw [enclosed, hkey] at hmessage
  exact ⟨⟨by decide, by decide, hsize, by decide⟩, hsint, hstring, hmessage.2⟩

end Wire
end Courier
