import Courier.Double
import Courier.Proofs.Wire.Parts
/-!
# Fields - reading a message by the rules of its schema

The rules are the same for every message.  Of a field that may stand once the last occurrence counts, the
occurrences of an embedded message are merged, and a repeated field has its occurrences in their order, numbers
also several in one.  Of the members of a choice the last one counts.  Fields that the schema does not have are
passed over, and a field of another form than the schema's makes the message unreadable.  There is no bound on
nesting.

A reader of a message is `Reads levels read parts x`: it finds `x` in the fields of the parts, whenever their
bytes are fewer than the levels allowed and than a slot can measure.
-/
namespace Courier
namespace Received

open Wire

/-! ## Forms -/

/-- The number of bytes, lowest first. -/
def ofLittleEndian : List UInt8 → Nat
  | [] => 0
  | b :: bytes => b.toNat + 256 * ofLittleEndian bytes

def uint64? (c : Content) : Option UInt64 := (Reader.varint? c).map UInt64.ofNat

/-- The low 32 bits of a varint. -/
def uint32? (c : Content) : Option UInt32 := (Reader.varint? c).map UInt32.ofNat

def int64? (c : Content) : Option Int64 := (uint64? c).map UInt64.toInt64

/-- The number of a name, signed. -/
def enum? (c : Content) : Option Int32 := (uint32? c).map UInt32.toInt32

def bool? (c : Content) : Option Bool := (Reader.varint? c).map (· != 0)

/-- The number at a place in the order 0, -1, 1, -2, 2. -/
def unzigzag (n : Nat) : Int := if n % 2 = 0 then n / 2 else -(n / 2) - 1

def sint32? (c : Content) : Option Int32 := (uint32? c).map fun n => Int32.ofInt (unzigzag n.toNat)

def fixed32? : Content → Option UInt32
  | .fixed32 bytes => some (UInt32.ofNat (ofLittleEndian bytes))
  | _ => none

def fixed64? : Content → Option UInt64
  | .fixed64 bytes => some (UInt64.ofNat (ofLittleEndian bytes))
  | _ => none

def sfixed64? (c : Content) : Option Int64 := (fixed64? c).map UInt64.toInt64

def double? (c : Content) : Option Double := (fixed64? c).map Double.mk

/-- The fields of a message.  Groups may be nested as deep as there are bytes. -/
def fields? (s : List UInt8) : Option (List Field) := Reader.fields? s.length s

/-- The fields of an embedded message. -/
def nested? (c : Content) : Option (List Field) := (Reader.bytes? c).bind fields?

/-! ## Fields -/

variable {α β γ : Type}

/-- A field with a default; the last occurrence counts. -/
def single? (number : Nat) (form : Content → Option α) (default : α) (fs : List Field) : Option α :=
  (Reader.formed? number form fs).map fun xs => xs.getLast?.getD default

/-- A field that may be absent; the last occurrence counts. -/
def optional? (number : Nat) (form : Content → Option α) (fs : List Field) : Option (Option α) :=
  (Reader.formed? number form fs).map List.getLast?

/-- A repeated message. -/
def each? (number : Nat) (read : List Field → Option α) (fs : List Field) : Option (List α) :=
  Reader.formed? number (fun c => (nested? c).bind read) fs

/-- A message that may be absent; its occurrences are merged. -/
def embedded? (number : Nat) (read : List Field → Option α) (fs : List Field) : Option (Option α) :=
  (Reader.formed? number nested? fs).bind fun occurrences =>
    if occurrences.isEmpty then some none else (read occurrences.flatten).map some

/-- The members of a run of numbers, each taken off by `next`.  The first argument is no less than the number of
bytes. -/
def unpackWithin? (next : List UInt8 → Option (α × List UInt8)) : Nat → List UInt8 → Option (List α)
  | _, [] => some []
  | 0, _ :: _ => none
  | fuel + 1, s => (next s).bind fun (x, rest) => (unpackWithin? next fuel rest).map (x :: ·)

/-- One number, or a run of them. -/
def packed? (form : Content → Option α) (next : List UInt8 → Option (α × List UInt8)) (c : Content) :
    Option (List α) :=
  match c with
  | .bytes s => unpackWithin? next s.length s
  | c => (form c).map ([·])

def numbers? (number : Nat) (form : Content → Option α) (next : List UInt8 → Option (α × List UInt8))
    (fs : List Field) : Option (List α) :=
  (Reader.formed? number (packed? form next) fs).map List.flatten

/-- A choice between members.  Occurrences of one member in a row are read together, and the last row counts. -/
def choice? (member : Nat → Option (List Content → Option α)) (fs : List Field) : Option (Option α) :=
  let rows := (fs.filter fun f => (member f.number).isSome).splitBy fun f g => f.number == g.number
  (rows.mapM fun (row : List Field) =>
    row.head?.bind fun f => (member f.number).bind (· (row.map (·.content)))).map List.getLast?

def latest? (form : Content → Option α) (cs : List Content) : Option α := (cs.mapM form).bind List.getLast?

def joined? (cs : List Content) : Option (List Field) := (cs.mapM nested?).map List.flatten

/-! ## What the forms read -/

theorem ofLittleEndian_littleEndian (width n : Nat) (h : n < Nat.pow 256 width) :
    ofLittleEndian (littleEndian width n) = n := by
  induction width generalizing n with
  | zero => exact (Nat.lt_one_iff.1 h).symm
  | succ width ih =>
    have hb : (UInt8.ofNat n).toNat = n % 256 := UInt8.toNat_ofNat'
    have hq : n < 256 * Nat.pow 256 width := by
      rw [Nat.mul_comm]
      exact h
    rw [littleEndian, ofLittleEndian, ih (n / 256) (Nat.div_lt_of_lt_mul hq), hb]
    omega

@[simp] theorem uint64?_varint (n : UInt64) : uint64? (Piece.varint n).content = some n := by
  simp [uint64?, Piece.content, Reader.varint?]

@[simp] theorem int64?_varint (n : Int64) : int64? (Piece.varint n.toUInt64).content = some n := by
  simp [int64?]

@[simp] theorem uint32?_varint (n : UInt32) : uint32? (Piece.varint n.toUInt64).content = some n := by
  simp [uint32?, Piece.content, Reader.varint?]

@[simp] theorem bool?_varint (b : Bool) : bool? (Piece.varint (if b then 1 else 0)).content = some b := by
  cases b <;> rfl

theorem ofLittleEndian_word (n : UInt32) : UInt32.ofNat (ofLittleEndian (littleEndian 4 n.toNat)) = n := by
  rw [ofLittleEndian_littleEndian 4 n.toNat n.toNat_lt, UInt32.ofNat_toNat]

theorem ofLittleEndian_doubleWord (n : UInt64) : UInt64.ofNat (ofLittleEndian (littleEndian 8 n.toNat)) = n := by
  rw [ofLittleEndian_littleEndian 8 n.toNat n.toNat_lt, UInt64.ofNat_toNat]

@[simp] theorem fixed32?_fixed32 (n : UInt32) : fixed32? (Piece.fixed32 n).content = some n :=
  congrArg some (ofLittleEndian_word n)

@[simp] theorem fixed64?_fixed64 (n : UInt64) : fixed64? (Piece.fixed64 n).content = some n :=
  congrArg some (ofLittleEndian_doubleWord n)

@[simp] theorem sfixed64?_fixed64 (n : Int64) : sfixed64? (Piece.fixed64 n.toUInt64).content = some n := by
  simp [sfixed64?]

@[simp] theorem double?_fixed64 (x : Double) : double? (Piece.fixed64 x.bits).content = some x := by
  simp [double?]

theorem unzigzag_zigzag (n : Int) : unzigzag (zigzag n) = n := by
  unfold unzigzag zigzag
  split <;> split <;> omega

theorem zigzag_lt (n : Int32) : zigzag n.toInt < 0x100000000 := by
  have := n.toInt_lt
  have := n.le_toInt
  unfold zigzag
  split <;> omega

@[simp] theorem sint32?_zigzag (n : Int32) :
    sint32? (Piece.varint (UInt64.ofNat (zigzag n.toInt))).content = some n := by
  have h := zigzag_lt n
  have h64 : (UInt64.ofNat (zigzag n.toInt)).toNat = zigzag n.toInt := by rw [UInt64.toNat_ofNat']; omega
  have h32 : (UInt32.ofNat (zigzag n.toInt)).toNat = zigzag n.toInt := by rw [UInt32.toNat_ofNat']; omega
  simp only [sint32?, uint32?, Reader.varint?, Piece.content, Option.map_some, h64, h32, unzigzag_zigzag,
    Int32.ofInt_toInt]

@[simp] theorem text?_textPiece (s : String) : Reader.text? (textPiece s).content = some s := by
  have h : s.toUTF8.data.toList.toByteArray = s.toUTF8 := by
    apply ByteArray.ext
    rw [List.data_toByteArray, Array.toArray_toList]
  simp only [Reader.text?, textPiece, Piece.content, h, String.fromUTF8?]
  exact dif_pos s.isValidUTF8

@[simp] theorem bytes?_bytes (b : List UInt8) : Reader.bytes? (Piece.bytes b).content = some b := rfl

/-! ## What the fields of parts read -/

/-- The parts are a message, and their bytes are fewer than the levels, which are no more than a slot can
measure. -/
structure Fits (levels : Nat) (parts : Parts) : Prop where
  numbered : wellNumbered (parts.map Prod.fst) = true
  length_lt : (encodeParts parts).length < levels
  levels_le : levels ≤ 0x10000000

/-- A reader finds `x` in the fields of the parts, where they fit. -/
structure Reads (levels : Nat) (read : List Field → Option α) (parts : Parts) (x : α) : Prop where
  numbered : wellNumbered (parts.map Prod.fst) = true
  read : Fits levels parts → read (fieldsOf parts) = some x

/-- A piece is shorter than the message it stands in. -/
theorem length_tail_lt {number : Nat} {p : Piece} : ∀ {parts : Parts}, p ∈ piecesOf number parts →
    p.tail.length < (encodeParts parts).length
  | (n, pieces) :: parts, h => by
    rw [encodeParts_cons, List.length_append]
    rw [piecesOf] at h
    split at h
    · have := length_encodePieces_le n h
      omega
    · have := length_tail_lt h
      omega

theorem Fits.inside {levels : Nat} {parts inner : Parts} (h : Fits (levels + 1) parts) (number : Nat)
    (hm : .message (encodeParts inner) ∈ piecesOf number parts) (hn : wellNumbered (inner.map Prod.fst) = true) :
    Fits levels inner := by
  have hl := length_tail_lt hm
  have hlt := h.length_lt
  have hle := h.levels_le
  rw [Piece.tail, List.length_append, Varint.length_padded, Varint.slotSize] at hl
  exact ⟨hn, by omega, by omega⟩

theorem Fits.nested {levels : Nat} {parts inner : Parts} (h : Fits levels parts) (number : Nat)
    (hm : .message (encodeParts inner) ∈ piecesOf number parts) (hn : wellNumbered (inner.map Prod.fst) = true) :
    Fits levels inner := by
  obtain ⟨k, rfl⟩ : ∃ k, levels = k + 1 := ⟨levels - 1, by have := h.length_lt; omega⟩
  have hin := h.inside number hm hn
  exact ⟨hn, Nat.lt_succ_of_lt hin.length_lt, h.levels_le⟩

theorem Fits.nested?_eq {levels : Nat} {parts : Parts} (h : Fits levels parts) :
    nested? (Piece.message (encodeParts parts)).content = some (fieldsOf parts) :=
  fields?_encodeParts _ h.numbered (Nat.lt_of_lt_of_le h.length_lt h.levels_le)

variable {levels : Nat} {parts : Parts} {form : Content → Option α} {read : List Field → Option α}

theorem mapM_map_some {f : β → γ} {g : γ → Option α} {v : β → α} :
    ∀ {xs : List β}, (∀ x ∈ xs, g (f x) = some (v x)) → (xs.map f).mapM g = some (xs.map v)
  | [], _ => rfl
  | x :: xs, h => by
    rw [List.map_cons, List.mapM_cons, h x List.mem_cons_self,
      mapM_map_some fun y hy => h y (List.mem_cons_of_mem x hy)]
    rfl

theorem formed?_map (h : Fits levels parts) (number : Nat) {xs : List β} {f : β → Piece} {v : β → α}
    (hp : piecesOf number parts = xs.map f) (hf : ∀ x ∈ xs, form (f x).content = some (v x)) :
    Reader.formed? number form (fieldsOf parts) = some (xs.map v) := by
  rw [formed?_fieldsOf number form h.numbered, hp]
  exact mapM_map_some hf

theorem optional?_toList (h : Fits levels parts) (number : Nat) {o : Option β} {f : β → Piece} {v : β → α}
    (hp : piecesOf number parts = o.toList.map f) (hf : ∀ x, form (f x).content = some (v x)) :
    optional? number form (fieldsOf parts) = some (o.map v) := by
  rw [optional?, formed?_map h number hp fun x _ => hf x]
  cases o <;> rfl

theorem single?_toList (h : Fits levels parts) (number : Nat) (default : α) {o : Option β} {f : β → Piece}
    {v : β → α} (hp : piecesOf number parts = o.toList.map f) (hf : ∀ x, form (f x).content = some (v x)) :
    single? number form default (fieldsOf parts) = some ((o.map v).getD default) := by
  rw [single?, formed?_map h number hp fun x _ => hf x]
  cases o <;> rfl

theorem single?_none (h : Fits levels parts) (number : Nat) (form : Content → Option α) (default : α)
    (hp : piecesOf number parts = []) : single? number form default (fieldsOf parts) = some default := by
  rw [single?, formed?_fieldsOf number form h.numbered, hp]
  rfl

theorem single?_one (h : Fits levels parts) (number : Nat) (default : α) {p : Piece} {x : α}
    (hp : piecesOf number parts = [p]) (hf : form p.content = some x) :
    single? number form default (fieldsOf parts) = some x := by
  rw [single?, formed?_fieldsOf number form h.numbered, hp, List.mapM_cons, hf]
  rfl

theorem each?_map (h : Fits levels parts) (number : Nat) {xs : List β} {f : β → Parts} {v : β → α}
    (hp : piecesOf number parts = xs.map fun x => .message (encodeParts (f x)))
    (hr : ∀ x ∈ xs, Reads levels read (f x) (v x)) :
    each? number read (fieldsOf parts) = some (xs.map v) := by
  refine formed?_map h number hp fun x hx => ?_
  have hin : Fits levels (f x) :=
    h.nested number (by rw [hp]; exact List.mem_map_of_mem hx) (hr x hx).numbered
  rw [hin.nested?_eq, Option.bind_some, (hr x hx).read hin]

theorem embedded?_toList (h : Fits levels parts) (number : Nat) {o : Option β} {f : β → Parts} {v : β → α}
    (hp : piecesOf number parts = o.toList.map fun x => .message (encodeParts (f x)))
    (hr : ∀ x ∈ o, Reads levels read (f x) (v x)) :
    embedded? number read (fieldsOf parts) = some (o.map v) := by
  rw [embedded?, formed?_fieldsOf number _ h.numbered, hp]
  cases o with
  | none => rfl
  | some x =>
    have hin : Fits levels (f x) :=
      h.nested number (by rw [hp]; exact List.mem_singleton.2 rfl) (hr x rfl).numbered
    rw [Option.toList_some, List.map_singleton, List.mapM_cons, hin.nested?_eq]
    show ((read ([fieldsOf (f x)].flatten)).map some) = _
    rw [List.flatten_singleton, (hr x rfl).read hin]
    rfl

theorem unpackWithin?_flatMap {next : List UInt8 → Option (α × List UInt8)} {bytes : α → List UInt8}
    (hb : ∀ x, 0 < (bytes x).length) (hn : ∀ x rest, next (bytes x ++ rest) = some (x, rest)) :
    ∀ (xs : List α) (fuel : Nat), (xs.flatMap bytes).length ≤ fuel →
      unpackWithin? next fuel (xs.flatMap bytes) = some xs
  | [], fuel, _ => by rw [List.flatMap_nil, unpackWithin?]
  | x :: xs, fuel, hf => by
    have hx := hb x
    rw [List.flatMap_cons, List.length_append] at hf
    obtain ⟨fuel, rfl⟩ : ∃ k, fuel = k + 1 := ⟨fuel - 1, by omega⟩
    rw [List.flatMap_cons]
    obtain ⟨b, bs, hbs⟩ : ∃ b bs, bytes x ++ xs.flatMap bytes = b :: bs :=
      List.exists_cons_of_length_pos (by rw [List.length_append]; omega)
    rw [hbs, unpackWithin?.eq_3 _ _ _ (List.cons_ne_nil b bs), ← hbs, hn, Option.bind_some]
    simp only [unpackWithin?_flatMap hb hn xs fuel (by omega), Option.map_some]

theorem numbers?_runPieces (h : Fits levels parts) (number : Nat) {next : List UInt8 → Option (α × List UInt8)}
    {bytes : α → List UInt8} {xs : List α} (hp : piecesOf number parts = runPieces bytes xs)
    (hb : ∀ x, 0 < (bytes x).length) (hn : ∀ x rest, next (bytes x ++ rest) = some (x, rest)) :
    numbers? number form next (fieldsOf parts) = some xs := by
  rw [numbers?, formed?_fieldsOf number _ h.numbered, hp]
  cases xs with
  | nil => rfl
  | cons x xs =>
    have hu := unpackWithin?_flatMap hb hn (x :: xs) _ (Nat.le_refl _)
    rw [runPieces, if_neg (by simp), List.mapM_cons]
    simp only [packed?, Piece.content, hu]
    rw [List.mapM_nil]
    show some [x :: xs].flatten = _
    rw [List.flatten_singleton]

theorem filter_fieldsOf_numbers (P : Nat → Bool) : ∀ parts : Parts,
    (fieldsOf parts).filter (fun f => P f.number) = fieldsOf (parts.filter fun q => P q.1)
  | [] => rfl
  | (n, pieces) :: parts => by
    rw [fieldsOf_cons, List.filter_append, filter_fieldsOf_numbers P parts, List.filter_cons]
    split
    · rename_i hP
      rw [fieldsOf_cons, List.filter_eq_self.2]
      intro f hf
      obtain ⟨x, -, rfl⟩ := List.mem_map.1 hf
      exact hP
    · rename_i hP
      rw [List.filter_eq_nil_iff.2, List.nil_append]
      intro f hf
      obtain ⟨x, -, rfl⟩ := List.mem_map.1 hf
      exact hP

theorem choice?_one {member : Nat → Option (List Content → Option α)} {number : Nat} {c : Content}
    {one : List Content → Option α} {x : α}
    (hp : fieldsOf (parts.filter fun q => (member q.1).isSome) = [⟨number, c⟩])
    (hm : member number = some one) (hx : one [c] = some x) :
    choice? member (fieldsOf parts) = some (some x) := by
  have hs : [(⟨number, c⟩ : Field)].splitBy (fun f g => f.number == g.number) = [[⟨number, c⟩]] := rfl
  rw [choice?]
  simp only [filter_fieldsOf_numbers fun n => (member n).isSome, hp, hs, List.mapM_cons, List.mapM_nil,
    List.head?_cons, Option.bind_some, hm, List.map_cons, List.map_nil, hx]
  rfl

theorem latest?_one {form : Content → Option α} {c : Content} {x : α} (h : form c = some x) :
    latest? form [c] = some x := by
  rw [latest?, List.mapM_cons, h]
  rfl

theorem joined?_one {c : Content} {fs : List Field} (h : nested? c = some fs) : joined? [c] = some fs := by
  rw [joined?, List.mapM_cons, h]
  show some [fs].flatten = _
  rw [List.flatten_singleton]

/-- A choice of which one message stands, once. -/
theorem choice?_message {member : Nat → Option (List Content → Option α)} {number : Nat} {inner : Parts}
    {f : List Field → Option α} {x : α}
    (hp : fieldsOf (parts.filter fun q => (member q.1).isSome) = [⟨number, (Piece.message (encodeParts inner)).content⟩])
    (hm : member number = some fun cs => (joined? cs).bind f) (hin : Fits levels inner)
    (hx : f (fieldsOf inner) = some x) : choice? member (fieldsOf parts) = some (some x) := by
  refine choice?_one hp hm ?_
  rw [joined?_one hin.nested?_eq, Option.bind_some, hx]

end Received
end Courier
