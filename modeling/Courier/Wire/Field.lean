import Courier.Wire.Cursor
/-!
# Field - numbered fields and the messages made of them

A field begins with a key, which holds its number and the form of its content: a varint, eight bytes,
four bytes, or a length and so many bytes.  Signed 64-bit varints are written as unsigned ones of the
same bits; signed 32-bit ones count away from zero, so that small numbers of either sign stay short.
-/
namespace Courier
namespace Wire

/-- The form of a field's content. -/
inductive Form
  | varint | fixed64 | lengthDelimited | fixed32
deriving Repr, DecidableEq

def Form.code : Form → Nat
  | .varint => 0
  | .fixed64 => 1
  | .lengthDelimited => 2
  | .fixed32 => 5

def putVarint (n : Nat) : Write Unit := putEach (Varint.encode n)

def putKey (field : Nat) (form : Form) : Write Unit := putVarint (8 * field + form.code)

/-- The bytes of a number, lowest first. -/
def littleEndian : Nat → Nat → List UInt8
  | 0, _ => []
  | width + 1, n => UInt8.ofNat n :: littleEndian width (n / 256)

def fixed32 (n : UInt32) : ByteArray := (littleEndian 4 n.toNat).toByteArray

def fixed64 (n : UInt64) : ByteArray := (littleEndian 8 n.toNat).toByteArray

/-- Signed numbers in the order 0, -1, 1, -2, 2. -/
def zigzag (n : Int) : Nat := if 0 ≤ n then 2 * n.toNat else 2 * (-n).toNat - 1

def putNumber (field n : Nat) : Write Unit := do
  putKey field .varint
  putVarint n

def putBool (field : Nat) (b : Bool) : Write Unit := putNumber field (if b then 1 else 0)

/-- Writes a signed number as the unsigned one of the same bits. -/
def putInt64 (field : Nat) (n : Int64) : Write Unit := putNumber field n.toUInt64.toNat

/-- Writes a signed number counted away from zero. -/
def putSint32 (field : Nat) (n : Int32) : Write Unit := putNumber field (zigzag n.toInt)

def putFixed32 (field : Nat) (n : UInt32) : Write Unit := do
  putKey field .fixed32
  putRaw (fixed32 n)

def putFixed64 (field : Nat) (n : UInt64) : Write Unit := do
  putKey field .fixed64
  putRaw (fixed64 n)

def putSfixed64 (field : Nat) (n : Int64) : Write Unit := putFixed64 field n.toUInt64

/-- Writes a double-precision number, bit for bit. -/
def putDouble (field : Nat) (x : Double) : Write Unit := putFixed64 field x.bits

/-- Writes bytes with their length in front. -/
def putBytes (field : Nat) (bytes : ByteArray) : Write Unit := do
  putKey field .lengthDelimited
  putVarint bytes.size
  putRaw bytes

def putString (field : Nat) (s : String) : Write Unit := putBytes field s.toUTF8

def putString? (field : Nat) : Option String → Write Unit
  | some s => putString field s
  | none => pure ()

/-- Writes a text unless it is absent or empty. -/
def putNonempty (field : Nat) : Option String → Write Unit
  | some s => if s.isEmpty then pure () else putString field s
  | none => pure ()

def putDouble? (field : Nat) : Option Double → Write Unit
  | some x => putDouble field x
  | none => pure ()

def putCount (field : Nat) (n : UInt32) : Write Unit :=
  if n = 0 then pure () else putNumber field n.toNat

/-- Begins a message and answers where its length slot is. -/
def openMessage (field : Nat) : Write Nat := do
  putKey field .lengthDelimited
  let slot ← position
  leaveRoom Varint.slotSize
  pure slot

/-- Writes a message with the fields that `body` writes. -/
def message {α : Type} (field : Nat) (body : Write α) : Write α := do
  let slot ← openMessage field
  let a ← body
  fillSlot slot
  pure a

/-- Writes a message whose body may give up by answering `false`; the message is then taken back. -/
def messageIf (field : Nat) (body : Write Bool) : Write Bool := do
  let start ← position
  let slot ← openMessage field
  if ← body then
    fillSlot slot
    pure true
  else
    moveTo start
    pure false

def putAll {α : Type} (put : α → Write Unit) : List α → Write Unit
  | [] => pure ()
  | x :: xs => do
    put x
    putAll put xs

end Wire
end Courier
