import Courier.Proofs.Wire.Emission
import Courier.Wire.Reader
/-!
# Parts - a message as a list of numbered parts

A part is a field number with the pieces that stand under it, one after the other.  `encodeParts` is what a
writer makes of the parts of a message, and `fieldsOf` is what a reader finds in them.  Main statement: a reader
takes the encoded parts apart into exactly these fields (`fields?_encodeParts`), provided that they are shorter
than 2^28 bytes, the longest message that a length slot can measure.
-/
namespace Courier
namespace Wire

/-- What is written for one occurrence of a field. -/
inductive Piece
  | varint (n : UInt64)
  | fixed64 (n : UInt64)
  | fixed32 (n : UInt32)
  /-- Bytes with their length in front, in its shortest form. -/
  | bytes (content : List UInt8)
  /-- A message with its length in a slot. -/
  | message (content : List UInt8)

namespace Piece

/-- The form that a piece is written in. -/
def form : Piece → Form
  | varint _ => .varint
  | fixed64 _ => .fixed64
  | fixed32 _ => .fixed32
  | bytes _ => .lengthDelimited
  | message _ => .lengthDelimited

/-- The bytes of a piece behind its key. -/
def tail : Piece → List UInt8
  | varint n => Varint.encode n.toNat
  | fixed64 n => littleEndian 8 n.toNat
  | fixed32 n => littleEndian 4 n.toNat
  | bytes content => Varint.encode content.length ++ content
  | message content => Varint.padded content.length ++ content

/-- The bytes of a field. -/
def encode (field : Nat) (p : Piece) : List UInt8 := key field p.form ++ p.tail

/-- What a reader finds in a field. -/
def content : Piece → Content
  | varint n => .varint n.toNat
  | fixed64 n => .fixed64 (littleEndian 8 n.toNat)
  | fixed32 n => .fixed32 (littleEndian 4 n.toNat)
  | bytes content => .bytes content
  | message content => .bytes content

/-- The length in front of a piece is one that can be read. -/
def Measured : Piece → Prop
  | bytes content => content.length < 0x10000000000000000
  | message content => content.length < 0x10000000
  | _ => True

end Piece

/-- A text as it is written. -/
def textPiece (s : String) : Piece := .bytes s.toUTF8.data.toList

/-- Numbers as one run, unless there are none. -/
def runPieces {α : Type} (bytes : α → List UInt8) (xs : List α) : List Piece :=
  if xs.isEmpty then [] else [.message (xs.flatMap bytes)]

/-- The bytes of the pieces under one number. -/
def encodePieces (field : Nat) (pieces : List Piece) : List UInt8 := pieces.flatMap (Piece.encode field)

/-- The numbers of a message with the pieces under each. -/
abbrev Parts : Type := List (Nat × List Piece)

def encodeParts (parts : Parts) : List UInt8 := parts.flatMap fun p => encodePieces p.1 p.2

def fieldsOf (parts : Parts) : List Field := parts.flatMap fun p => p.2.map fun x => ⟨p.1, x.content⟩

theorem encodePieces_cons (field : Nat) (p : Piece) (pieces : List Piece) :
    encodePieces field (p :: pieces) = p.encode field ++ encodePieces field pieces := List.flatMap_cons

@[simp] theorem encodePieces_singleton (field : Nat) (p : Piece) : encodePieces field [p] = p.encode field :=
  List.append_nil _

theorem encodeParts_cons (n : Nat) (pieces : List Piece) (parts : Parts) :
    encodeParts ((n, pieces) :: parts) = encodePieces n pieces ++ encodeParts parts := List.flatMap_cons

@[simp] theorem encodeParts_singleton (n : Nat) (pieces : List Piece) :
    encodeParts [(n, pieces)] = encodePieces n pieces := List.append_nil _

theorem encodeParts_append (parts parts' : Parts) :
    encodeParts (parts ++ parts') = encodeParts parts ++ encodeParts parts' := List.flatMap_append

theorem fieldsOf_cons (n : Nat) (pieces : List Piece) (parts : Parts) :
    fieldsOf ((n, pieces) :: parts) = pieces.map (fun x => ⟨n, x.content⟩) ++ fieldsOf parts := List.flatMap_cons

/-- The numbers are field numbers, and each stands for one part. -/
def wellNumbered : List Nat → Bool
  | [] => true
  | n :: ns => 0 < n && n < 0x20000000 && !ns.contains n && wellNumbered ns

/-! ## Reading back -/

theorem length_littleEndian (width n : Nat) : (littleEndian width n).length = width := by
  induction width generalizing n with
  | zero => rfl
  | succ width ih => rw [littleEndian, List.length_cons, ih]

theorem key?_key {field : Nat} {form : Form} (h : 0 < field) (h' : field < 0x20000000) (rest : List UInt8) :
    Reader.key? (key field form ++ rest) = some (field, form.code, rest) := by
  have hc : form.code < 8 := by cases form <;> decide
  rw [Reader.key?, key, Varint.decode?_encode (by omega)]
  simp only
  rw [if_pos (by omega), show (8 * field + form.code) / 8 = field by omega,
    show (8 * field + form.code) % 8 = form.code by omega]

theorem splitAt?_append {n : Nat} {s : List UInt8} (h : s.length = n) (rest : List UInt8) :
    Reader.splitAt? n (s ++ rest) = some (s, rest) := by
  subst h
  rw [Reader.splitAt?, if_pos (by rw [List.length_append]; omega), List.take_left, List.drop_left]

/-- A slot measures fewer than 2^28 bytes. -/
theorem Piece.measured {p : Piece} (h : p.tail.length < 0x10000000) : p.Measured := by
  cases p with
  | varint n => trivial
  | fixed64 n => trivial
  | fixed32 n => trivial
  | bytes b =>
    rw [Piece.tail, List.length_append] at h
    show b.length < _
    omega
  | message b =>
    rw [Piece.tail, List.length_append] at h
    show b.length < _
    omega

theorem scalar?_tail {p : Piece} (h : p.Measured) (rest : List UInt8) :
    Reader.scalar? p.form.code (p.tail ++ rest) = some (p.content, rest) := by
  cases p with
  | varint n =>
    simp only [Piece.form, Piece.tail, Piece.content, Form.code, Reader.scalar?]
    rw [Varint.decode?_encode n.toNat_lt, Option.map_some]
  | fixed64 n =>
    simp only [Piece.form, Piece.tail, Piece.content, Form.code, Reader.scalar?]
    rw [splitAt?_append (length_littleEndian _ _), Option.map_some]
  | fixed32 n =>
    simp only [Piece.form, Piece.tail, Piece.content, Form.code, Reader.scalar?]
    rw [splitAt?_append (length_littleEndian _ _), Option.map_some]
  | bytes b =>
    simp only [Piece.form, Piece.tail, Piece.content, Form.code, Reader.scalar?]
    rw [List.append_assoc, Varint.decode?_encode h, Option.bind_some, splitAt?_append rfl, Option.map_some]
  | message b =>
    simp only [Piece.form, Piece.tail, Piece.content, Form.code, Reader.scalar?]
    rw [List.append_assoc, Varint.decode?_padded h, Option.bind_some, splitAt?_append rfl, Option.map_some]

theorem length_encode_pos (n : Nat) : 0 < (Varint.encode n).length := by
  rw [Varint.encode]
  split <;> simp

theorem length_key_pos (field : Nat) (form : Form) : 0 < (key field form).length := length_encode_pos _

theorem fieldsWithin?_piece {field : Nat} (h : 0 < field) (h' : field < 0x20000000) {p : Piece}
    (hp : p.tail.length < 0x10000000) (fuel depth : Nat) (rest : List UInt8) :
    Reader.fieldsWithin? (fuel + 1) depth (p.encode field ++ rest) =
      (Reader.fieldsWithin? fuel depth rest).map (⟨field, p.content⟩ :: ·) := by
  have hne : p.encode field ++ rest ≠ [] := by
    have := length_key_pos field p.form
    intro hn
    have hl := congrArg List.length hn
    rw [Piece.encode, List.length_append, List.length_append, List.length_nil] at hl
    omega
  have hc : ∀ form : Form, form.code ≠ 3 := by intro form; cases form <;> decide
  rw [Reader.fieldsWithin?.eq_3 _ _ _ hne]
  rw [Piece.encode, List.append_assoc, key?_key h h']
  simp only [if_neg (hc p.form), scalar?_tail (Piece.measured hp) rest]

theorem length_tail_le (field : Nat) (p : Piece) : p.tail.length < (p.encode field).length := by
  have := length_key_pos field p.form
  rw [Piece.encode, List.length_append]
  omega

theorem length_encodePieces_le {p : Piece} {pieces : List Piece} (field : Nat) (h : p ∈ pieces) :
    p.tail.length < (encodePieces field pieces).length := by
  obtain ⟨before, after, rfl⟩ := List.append_of_mem h
  have := length_tail_le field p
  simp only [encodePieces, List.flatMap_append, List.flatMap_cons, List.length_append]
  omega

/-- Pieces are read one after the other, each of them shorter than what a slot can measure. -/
theorem fieldsWithin?_pieces {field : Nat} (h : 0 < field) (h' : field < 0x20000000) (depth : Nat) (rest : List UInt8) :
    ∀ (pieces : List Piece) (fuel : Nat), (∀ p ∈ pieces, p.tail.length < 0x10000000) →
      (encodePieces field pieces).length ≤ fuel → ∃ fuel', fuel - (encodePieces field pieces).length ≤ fuel' ∧
        Reader.fieldsWithin? fuel depth (encodePieces field pieces ++ rest) =
          (Reader.fieldsWithin? fuel' depth rest).map (pieces.map (fun x => ⟨field, x.content⟩) ++ ·)
  | [], fuel, _, _ => ⟨fuel, by omega, by simp [encodePieces]⟩
  | p :: pieces, fuel, hs, hf => by
    have hl := length_tail_le field p
    rw [List.forall_mem_cons] at hs
    rw [encodePieces_cons, List.length_append] at hf ⊢
    obtain ⟨fuel, rfl⟩ : ∃ k, fuel = k + 1 := ⟨fuel - 1, by omega⟩
    obtain ⟨fuel', hle, hr⟩ := fieldsWithin?_pieces h h' depth rest pieces fuel hs.2 (by omega)
    refine ⟨fuel', by omega, ?_⟩
    rw [List.append_assoc, fieldsWithin?_piece h h' hs.1, hr, Option.map_map]
    rfl

theorem fieldsWithin?_encodeParts (depth : Nat) :
    ∀ (parts : Parts) (fuel : Nat), wellNumbered (parts.map Prod.fst) = true →
      (encodeParts parts).length < 0x10000000 → (encodeParts parts).length < fuel →
        Reader.fieldsWithin? fuel depth (encodeParts parts) = some (fieldsOf parts)
  | [], fuel + 1, _, _, _ => by simp [encodeParts, fieldsOf, Reader.fieldsWithin?]
  | (n, pieces) :: parts, fuel, hn, hs, hf => by
    simp only [List.map_cons, wellNumbered, Bool.and_eq_true, decide_eq_true_eq] at hn
    obtain ⟨⟨⟨hpos, hlt⟩, -⟩, hn⟩ := hn
    rw [encodeParts_cons, List.length_append] at hs hf
    have hpieces : ∀ p ∈ pieces, p.tail.length < 0x10000000 := fun p hp => by
      have := length_encodePieces_le n hp
      omega
    obtain ⟨fuel', hle, hr⟩ := fieldsWithin?_pieces hpos hlt depth (encodeParts parts) pieces fuel hpieces (by omega)
    rw [encodeParts_cons, hr, fieldsWithin?_encodeParts depth parts fuel' hn (by omega) (by omega),
      Option.map_some, fieldsOf_cons]

/-- **A reader takes a message apart into the fields of its parts.** -/
theorem fields?_encodeParts (depth : Nat) {parts : Parts} (hn : wellNumbered (parts.map Prod.fst) = true)
    (hs : (encodeParts parts).length < 0x10000000) : Reader.fields? depth (encodeParts parts) = some (fieldsOf parts) :=
  fieldsWithin?_encodeParts depth parts _ hn hs (Nat.lt_succ_self _)

/-- Pieces under one number may be more together than a slot can measure. -/
theorem fields?_encodePieces (depth : Nat) {field : Nat} (h : 0 < field) (h' : field < 0x20000000)
    {pieces : List Piece} (hs : ∀ p ∈ pieces, p.tail.length < 0x10000000) :
    Reader.fields? depth (encodePieces field pieces) = some (pieces.map fun x => ⟨field, x.content⟩) := by
  obtain ⟨fuel', hle, hr⟩ := fieldsWithin?_pieces h h' depth [] pieces ((encodePieces field pieces).length + 1) hs
    (Nat.le_succ _)
  obtain ⟨fuel, rfl⟩ : ∃ k, fuel' = k + 1 := ⟨fuel' - 1, by omega⟩
  rw [List.append_nil] at hr
  rw [Reader.fields?, hr, Reader.fieldsWithin?, Option.map_some, List.append_nil]

/-! ## Looking a number up -/

def piecesOf (number : Nat) : Parts → List Piece
  | [] => []
  | (n, pieces) :: parts => if n = number then pieces else piecesOf number parts

theorem piecesOf_of_not_mem {number : Nat} : ∀ {parts : Parts}, number ∉ parts.map Prod.fst →
    (fieldsOf parts).filter (·.number == number) = []
  | [], _ => rfl
  | (n, pieces) :: parts, h => by
    rw [List.map_cons, List.mem_cons, not_or] at h
    rw [fieldsOf_cons, List.filter_append, piecesOf_of_not_mem h.2, List.append_nil, List.filter_eq_nil_iff]
    intro f hf
    obtain ⟨x, -, rfl⟩ := List.mem_map.1 hf
    simpa using Ne.symm h.1

theorem filter_fieldsOf (number : Nat) : ∀ {parts : Parts}, wellNumbered (parts.map Prod.fst) = true →
    (fieldsOf parts).filter (·.number == number) = (piecesOf number parts).map fun x => ⟨number, x.content⟩
  | [], _ => rfl
  | (n, pieces) :: parts, hn => by
    simp only [List.map_cons, wellNumbered, Bool.and_eq_true, Bool.not_eq_true', List.contains_eq_mem,
      decide_eq_false_iff_not] at hn
    obtain ⟨⟨-, hmem⟩, hn⟩ := hn
    rw [fieldsOf_cons, List.filter_append, piecesOf]
    by_cases h : n = number
    · subst h
      rw [if_pos rfl, piecesOf_of_not_mem hmem, List.append_nil, List.filter_eq_self]
      intro f hf
      obtain ⟨x, -, rfl⟩ := List.mem_map.1 hf
      exact beq_self_eq_true n
    · rw [if_neg h, filter_fieldsOf number hn, List.filter_eq_nil_iff.2, List.nil_append]
      intro f hf
      obtain ⟨x, -, rfl⟩ := List.mem_map.1 hf
      simpa using h

theorem formed?_fieldsOf {α : Type} (number : Nat) (form : Content → Option α) {parts : Parts}
    (hn : wellNumbered (parts.map Prod.fst) = true) :
    Reader.formed? number form (fieldsOf parts) = (piecesOf number parts).mapM fun x => form x.content := by
  rw [Reader.formed?, filter_fieldsOf number hn, List.mapM_map]
  rfl

end Wire
end Courier
