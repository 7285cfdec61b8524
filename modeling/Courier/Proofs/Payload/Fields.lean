import Courier.Payload.Metrics
import Courier.Proofs.Wire.Parts
/-!
# Fields - the writers of single fields, told by the parts that they write

`Puts w parts` says that a writer emits a message's parts, in their order.  Every writer of a field puts the
pieces of its number, parts put one after the other are put together (`Puts.cons`, `Puts.append`), and a message
around them is one piece (`Puts.message`).
-/
namespace Courier
namespace Payload

open Wire

/-- A writer emits the parts. -/
def Puts (w : Write Unit) (parts : Parts) : Prop := Emits w () (encodeParts parts)

variable {w w' : Write Unit} {parts parts' : Parts}

theorem Puts.append (h : Puts w parts) (h' : Puts w' parts') : Puts (do w; w') (parts ++ parts') := by
  unfold Puts at *
  rw [encodeParts_append]
  exact h.andThen h'

theorem Puts.cons {field : Nat} {pieces : List Piece} (h : Puts w [(field, pieces)]) (h' : Puts w' parts) :
    Puts (do w; w') ((field, pieces) :: parts) := h.append h'

theorem Puts.answer {α : Type} (h : Puts w parts) (a : α) : Emits (do w; pure a) a (encodeParts parts) := by
  have hb := h.andThen (emits_pure a)
  rwa [List.append_nil] at hb

theorem puts_nothing (field : Nat) : Puts (pure ()) [(field, [])] := emits_pure ()

theorem puts_of_encode {field : Nat} {p : Piece} (h : Emits w () (p.encode field)) : Puts w [(field, [p])] := by
  rwa [Puts, encodeParts_singleton, encodePieces_singleton]

/-! ## Scalars -/

theorem puts_number (field : Nat) {n : Nat} (h : n < 0x10000000000000000) :
    Puts (putNumber field n) [(field, [.varint (UInt64.ofNat n)])] := by
  apply puts_of_encode
  rw [Piece.encode, Piece.tail, UInt64.toNat_ofNat', Nat.mod_eq_of_lt h]
  exact (fills_putNumber field n).emits

theorem puts_bool (field : Nat) (b : Bool) : Puts (putBool field b) [(field, [.varint (if b then 1 else 0)])] := by
  cases b
  · exact puts_number field (by decide)
  · exact puts_number field (by decide)

theorem puts_int64 (field : Nat) (n : Int64) : Puts (putInt64 field n) [(field, [.varint n.toUInt64])] := by
  have h := puts_number field n.toUInt64.toNat_lt
  rwa [UInt64.ofNat_toNat] at h

/-- A count that is written unless it is zero. -/
def countPieces (n : UInt32) : List Piece := if n = 0 then [] else [.varint n.toUInt64]

theorem puts_count (field : Nat) (n : UInt32) :
    Puts (putCount field n) [(field, countPieces n)] := by
  rw [putCount, countPieces]
  by_cases h : n = 0
  · rw [if_pos h, if_pos h]
    exact puts_nothing field
  · rw [if_neg h, if_neg h]
    have hn := puts_number field (Nat.lt_trans n.toNat_lt (by decide) : n.toNat < 0x10000000000000000)
    rwa [UInt64.ofNat_uInt32ToNat] at hn

theorem puts_fixed32 (field : Nat) (n : UInt32) : Puts (putFixed32 field n) [(field, [.fixed32 n])] :=
  puts_of_encode (fills_putFixed32 field n).emits

theorem puts_fixed64 (field : Nat) (n : UInt64) : Puts (putFixed64 field n) [(field, [.fixed64 n])] :=
  puts_of_encode (fills_putFixed64 field n).emits

theorem puts_bytes (field : Nat) (b : ByteArray) : Puts (putBytes field b) [(field, [.bytes b.data.toList])] := by
  apply puts_of_encode
  rw [Piece.encode, Piece.tail, Array.length_toList, ByteArray.size_data]
  exact (fills_putBytes field b).emits

theorem puts_string (field : Nat) (s : String) : Puts (putString field s) [(field, [textPiece s])] :=
  puts_bytes field s.toUTF8

theorem puts_string? (field : Nat) (o : Option String) :
    Puts (putString? field o) [(field, o.toList.map textPiece)] := by
  cases o with
  | none => exact puts_nothing field
  | some s => exact puts_string field s

/-- A text that is not empty. -/
def nonempty (o : Option String) : Option String := o.filter fun s => !s.isEmpty

theorem puts_nonempty (field : Nat) (o : Option String) :
    Puts (putNonempty field o) [(field, (nonempty o).toList.map textPiece)] := by
  cases o with
  | none => exact puts_nothing field
  | some s =>
    rw [putNonempty, nonempty, Option.filter_some]
    by_cases h : s.isEmpty = true
    · rw [if_pos h, if_neg (by rw [h]; decide)]
      exact puts_nothing field
    · rw [if_neg h, if_pos (by rw [Bool.not_eq_true] at h; rw [h]; rfl)]
      exact puts_string field s

theorem puts_double? (field : Nat) (o : Option Double) :
    Puts (putDouble? field o) [(field, o.toList.map fun x => .fixed64 x.bits)] := by
  cases o with
  | none => exact puts_nothing field
  | some x => exact puts_fixed64 field x.bits

theorem puts_time? (field : Nat) (o : Option Timestamp) :
    Puts (putTime? field o) [(field, o.toList.map fun t => .fixed64 t.wireNanos)] := by
  cases o with
  | none => exact puts_nothing field
  | some t => exact puts_fixed64 field t.wireNanos

/-! ## Messages and lists -/

theorem Puts.message (field : Nat) (h : Puts w parts) :
    Puts (message field w) [(field, [.message (encodeParts parts)])] := puts_of_encode (Emits.message field h)

theorem puts_all {α : Type} (field : Nat) (put : α → Write Unit) (xs : List α) {piece : α → Piece}
    (h : ∀ x ∈ xs, Puts (put x) [(field, [piece x])]) : Puts (putAll put xs) [(field, xs.map piece)] := by
  have ha := Emits.putAll h
  rw [Puts, encodeParts_singleton, encodePieces, List.flatMap_map]
  simpa only [encodeParts_singleton, encodePieces_singleton] using ha

theorem puts_packed {α : Type} {put : α → Write Unit} {bytes : α → List UInt8} (field : Nat) (xs : List α)
    (h : ∀ x, Emits (put x) () (bytes x)) : Puts (putPacked field put xs) [(field, runPieces bytes xs)] := by
  rw [putPacked, runPieces]
  by_cases hx : xs.isEmpty = true
  · rw [if_pos hx, if_pos hx]
    exact puts_nothing field
  · rw [if_neg hx, if_neg hx]
    exact puts_of_encode (Emits.message field (Emits.putAll fun x _ => h x))

end Payload
end Courier
