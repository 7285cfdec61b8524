import Courier.Proofs.Received.Fields
/-!
# Value - values and attributes as a collector receives them

`Value.read?` reads a value from the fields of its message, to any depth.  Main statement: a value is read back
from its parts (`Value.reads`), and so is an attribute (`Attribute.reads`).
-/
namespace Courier
namespace Received

open Wire

/-- The value of an attribute or the body of a log record. -/
inductive Value
  /-- No kind of value is given. -/
  | empty
  | string (value : String)
  | bool (value : Bool)
  | int (value : Int64)
  | double (value : Double)
  | array (values : List Value)
  | keyValues (entries : List (String × Option Value))
  | bytes (value : List UInt8)
deriving Inhabited

/-- A named value, which may be left out. -/
abbrev Attribute : Type := String × Option Value

namespace Attribute

/-- Reads an attribute, and its value by `value?`. -/
def readWith? (value? : List Field → Option Value) (fs : List Field) : Option Attribute := do
  let key ← single? 1 Reader.text? "" fs
  let value ← embedded? 2 value? fs
  return (key, value)

end Attribute

namespace Value

/-- The kinds of a value by their numbers; the values inside are read by `value?`. -/
def member? (value? : List Field → Option Value) : Nat → Option (List Content → Option Value)
  | 1 => some fun cs => (latest? Reader.text? cs).map string
  | 2 => some fun cs => (latest? bool? cs).map bool
  | 3 => some fun cs => (latest? int64? cs).map int
  | 4 => some fun cs => (latest? double? cs).map double
  | 5 => some fun cs => (joined? cs).bind fun fs => (each? 1 value? fs).map array
  | 6 => some fun cs => (joined? cs).bind fun fs => (each? 1 (Attribute.readWith? value?) fs).map keyValues
  | 7 => some fun cs => (latest? Reader.bytes? cs).map bytes
  | _ => none

/-- Reads a value that is nested less deep than the first argument. -/
def read? : Nat → List Field → Option Value
  | 0, _ => none
  | levels + 1, fs => (choice? (member? (read? levels)) fs).map (·.getD empty)

mutual

/-- The message of a value. -/
def parts : Value → Parts
  | .empty => []
  | .string s => [(1, [textPiece s])]
  | .bool b => [(2, [.varint (if b then 1 else 0)])]
  | .int n => [(3, [.varint n.toUInt64])]
  | .double x => [(4, [.fixed64 x.bits])]
  | .array vs => [(5, [.message (encodeParts [(1, pieces vs)])])]
  | .keyValues es => [(6, [.message (encodeParts [(1, entryPieces es)])])]
  | .bytes b => [(7, [.bytes b])]

def pieces : List Value → List Piece
  | [] => []
  | v :: vs => .message (encodeParts v.parts) :: pieces vs

def entryPieces : List (String × Option Value) → List Piece
  | [] => []
  | (k, none) :: es => .message (encodeParts [(1, [textPiece k]), (2, [])]) :: entryPieces es
  | (k, some v) :: es =>
    .message (encodeParts [(1, [textPiece k]), (2, [.message (encodeParts v.parts)])]) :: entryPieces es

end

end Value

def Attribute.parts (a : Attribute) : Parts :=
  [(1, [textPiece a.1]), (2, a.2.toList.map fun v => .message (encodeParts v.parts))]

theorem Value.pieces_eq : ∀ vs : List Value, pieces vs = vs.map fun v => .message (encodeParts v.parts)
  | [] => rfl
  | v :: vs => by rw [pieces, pieces_eq vs, List.map_cons]

theorem Value.entryPieces_eq : ∀ es : List Attribute,
    entryPieces es = es.map fun e => .message (encodeParts (Attribute.parts e))
  | [] => rfl
  | (k, none) :: es => by rw [entryPieces, entryPieces_eq es, List.map_cons]; rfl
  | (k, some v) :: es => by rw [entryPieces, entryPieces_eq es, List.map_cons]; rfl

theorem Value.numbered_parts (v : Value) : wellNumbered (v.parts.map Prod.fst) = true := by
  cases v <;> rfl

theorem Attribute.readsWith {levels : Nat} {value? : List Field → Option Value} {a : Attribute}
    (h : ∀ v ∈ a.2, Reads levels value? v.parts v) : Reads levels (Attribute.readWith? value?) a.parts a where
  numbered := rfl
  read hf := by
    have hk : single? 1 Reader.text? "" (fieldsOf a.parts) = some a.1 := single?_one hf 1 "" rfl (text?_textPiece a.1)
    have hv : embedded? 2 value? (fieldsOf a.parts) = some (a.2.map fun v => v) := embedded?_toList hf 2 rfl h
    rw [Attribute.readWith?, hk, hv, Option.map_id']
    rfl

theorem Value.read?_of_choice {levels : Nat} {fs : List Field} {v : Value}
    (h : choice? (member? (read? levels)) fs = some (some v)) : read? (levels + 1) fs = some v := by
  rw [read?, h]
  rfl

/-- A value of which one scalar stands is read as that scalar. -/
theorem Value.read?_one {levels number : Nat} {parts : Parts} {c : Content} {one : List Content → Option Value}
    {v : Value} (hp : fieldsOf (parts.filter fun q => (member? (read? levels) q.1).isSome) = [⟨number, c⟩])
    (hm : member? (read? levels) number = some one) (hx : one [c] = some v) :
    read? (levels + 1) (fieldsOf parts) = some v := read?_of_choice (choice?_one hp hm hx)

mutual

/-- **A value is read back from its parts.** -/
theorem Value.reads : ∀ (v : Value) (levels : Nat), Reads levels (read? levels) v.parts v
  | _, 0 => ⟨Value.numbered_parts _, fun hf => absurd hf.length_lt (Nat.not_lt_zero _)⟩
  | .empty, _ + 1 => ⟨rfl, fun _ => rfl⟩
  | .string s, _ + 1 => ⟨rfl, fun _ => read?_one rfl rfl (by rw [latest?_one (text?_textPiece s)]; rfl)⟩
  | .bool b, _ + 1 => ⟨rfl, fun _ => read?_one rfl rfl (by rw [latest?_one (bool?_varint b)]; rfl)⟩
  | .int n, _ + 1 => ⟨rfl, fun _ => read?_one rfl rfl (by rw [latest?_one (int64?_varint n)]; rfl)⟩
  | .double x, _ + 1 => ⟨rfl, fun _ => read?_one rfl rfl (by rw [latest?_one (double?_fixed64 x)]; rfl)⟩
  | .bytes b, _ + 1 => ⟨rfl, fun _ => read?_one rfl rfl (by rw [latest?_one (bytes?_bytes b)]; rfl)⟩
  | .array vs, levels + 1 => ⟨rfl, fun hf => by
      have hin : Fits levels [(1, pieces vs)] := hf.inside 5 (List.mem_singleton.2 rfl) rfl
      have hv : each? 1 (read? levels) (fieldsOf [(1, pieces vs)]) = some (vs.map fun v => v) :=
        each?_map hin 1 (pieces_eq vs) (reads_all vs levels)
      rw [List.map_id'] at hv
      exact read?_of_choice (choice?_message rfl rfl hin (congrArg (Option.map array) hv))⟩
  | .keyValues es, levels + 1 => ⟨rfl, fun hf => by
      have hin : Fits levels [(1, entryPieces es)] := hf.inside 6 (List.mem_singleton.2 rfl) rfl
      have hv : each? 1 (Attribute.readWith? (read? levels)) (fieldsOf [(1, entryPieces es)]) =
          some (es.map fun e => e) :=
        each?_map hin 1 (entryPieces_eq es) fun e he => Attribute.readsWith (reads_entries es levels e he)
      rw [List.map_id'] at hv
      exact read?_of_choice (choice?_message rfl rfl hin (congrArg (Option.map keyValues) hv))⟩

theorem Value.reads_all : ∀ (vs : List Value) (levels : Nat), ∀ v ∈ vs, Reads levels (read? levels) v.parts v
  | [], _, _, h => absurd h List.not_mem_nil
  | v :: vs, levels, w, h => by
    rcases List.mem_cons.1 h with h | h
    · rw [h]
      exact Value.reads v levels
    · exact Value.reads_all vs levels w h

theorem Value.reads_entries : ∀ (es : List (String × Option Value)) (levels : Nat), ∀ e ∈ es, ∀ v ∈ e.2,
    Reads levels (read? levels) v.parts v
  | [], _, _, h, _, _ => absurd h List.not_mem_nil
  | (k, none) :: es, levels, e, he, w, hw => by
    rcases List.mem_cons.1 he with rfl | he
    · cases hw
    · exact Value.reads_entries es levels e he w hw
  | (k, some v) :: es, levels, e, he, w, hw => by
    rcases List.mem_cons.1 he with rfl | he
    · rw [← Option.some.inj hw]
      exact Value.reads v levels
    · exact Value.reads_entries es levels e he w hw

end

namespace Attribute

/-- Reads an attribute whose value is nested less deep than the first argument. -/
def read? (levels : Nat) : List Field → Option Attribute := readWith? (Value.read? levels)

/-- **An attribute is read back from its parts.** -/
theorem reads (levels : Nat) (a : Attribute) : Reads levels (read? levels) a.parts a :=
  readsWith fun v _ => Value.reads v levels

end Attribute

end Received
end Courier
