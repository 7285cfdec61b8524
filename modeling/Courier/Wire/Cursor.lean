import Courier.Value
import Courier.Wire.Varint
import Std.Data.HashMap
/-!
# Cursor - writing into a buffer of fixed size

A write moves through a buffer and stops at its first step that does not fit.  The buffer never
changes its size, and bytes written before a stop stay where they are.  A message whose length is not
known yet leaves a slot for it and fills the slot in when it is closed; a message may also be taken
back, which moves the position only.
-/
namespace Courier
namespace Wire

/-- Why a write ended early. -/
inductive Stop
  /-- The next step does not fit in the buffer. -/
  | full
  /-- A deferred text broke off, or a step was out of place. -/
  | aborted (reason : String)
deriving Repr, DecidableEq, Inhabited

/-- What is said of a step that is out of place. -/
def misplaced : String := "position out of range"

/-- How often each deferred text of a batch was asked for. -/
abbrev Renders : Type := Std.HashMap Nat Nat

/-- A buffer with the position of the next byte. -/
structure Cursor where
  buffer : ByteArray
  pos : Nat
  renders : Renders

/-- A step of writing, with what it answers. -/
abbrev Write (α : Type) : Type := EStateM Stop Cursor α

/-- The buffer with the bytes from a position on replaced. -/
def overwrite (buffer : ByteArray) (start : Nat) (bytes : ByteArray) : ByteArray :=
  bytes.copySlice 0 buffer start bytes.size

def position : Write Nat := fun c => .ok c.pos c

/-- Moves back to a position, and never ahead. -/
def moveTo (start : Nat) : Write Unit := fun ⟨buffer, pos, renders⟩ =>
  if start ≤ pos then .ok () ⟨buffer, start, renders⟩ else .error (.aborted misplaced) ⟨buffer, pos, renders⟩

def putByte (b : UInt8) : Write Unit := fun ⟨buffer, pos, renders⟩ =>
  if h : pos < buffer.size then .ok () ⟨buffer.set pos b h, pos + 1, renders⟩
  else .error .full ⟨buffer, pos, renders⟩

/-- Writes bytes, all of them or none. -/
def putRaw (bytes : ByteArray) : Write Unit := fun ⟨buffer, pos, renders⟩ =>
  if pos + bytes.size ≤ buffer.size then
    .ok () ⟨overwrite buffer pos bytes, pos + bytes.size, renders⟩
  else .error .full ⟨buffer, pos, renders⟩

def leaveRoom (n : Nat) : Write Unit := fun ⟨buffer, pos, renders⟩ =>
  if pos + n ≤ buffer.size then .ok () ⟨buffer, pos + n, renders⟩
  else .error .full ⟨buffer, pos, renders⟩

def putEach : List UInt8 → Write Unit
  | [] => pure ()
  | b :: rest => do
    putByte b
    putEach rest

/-- Fills the length slot that ends at `slot + 4` with the number of bytes from there to the position.  The slot lies
in front of the position and inside the buffer. -/
def fillSlot (slot : Nat) : Write Unit := fun ⟨buffer, pos, renders⟩ =>
  if slot + Varint.slotSize ≤ pos ∧ slot + Varint.slotSize ≤ buffer.size then
    let length := pos - (slot + Varint.slotSize)
    .ok () ⟨overwrite buffer slot (Varint.padded length).toByteArray, pos, renders⟩
  else .error (.aborted misplaced) ⟨buffer, pos, renders⟩

/-- Asks a deferred text for its characters. -/
def render (d : Deferred) : Write (Option String) := fun ⟨buffer, pos, renders⟩ =>
  let earlier := renders.getD d.id 0
  let renders := renders.insert d.id (earlier + 1)
  match d.render earlier with
  | .text s => .ok (some s) ⟨buffer, pos, renders⟩
  | .failed => .ok none ⟨buffer, pos, renders⟩
  | .aborted reason => .error (.aborted reason) ⟨buffer, pos, renders⟩

end Wire
end Courier
