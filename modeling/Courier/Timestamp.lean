import Courier.Duration
/-!
# Timestamp - instants of wall time

An instant is a number of nanoseconds relative to the start of 1970, which may be negative.  The clock
holds signed 64-bit seconds, and a sum outside that range is no instant.  On the wire an instant is an
unsigned 64-bit number of nanoseconds.
-/
namespace Courier

/-- An instant of wall time. -/
structure Timestamp where
  /-- Nanoseconds since the start of 1970, negative before it. -/
  nanos : Int
deriving Repr, DecidableEq, Inhabited

namespace Timestamp

def epoch : Timestamp := ⟨0⟩

instance : LE Timestamp := ⟨fun a b => a.nanos ≤ b.nanos⟩

instance : LT Timestamp := ⟨fun a b => a.nanos < b.nanos⟩

instance (a b : Timestamp) : Decidable (a ≤ b) := inferInstanceAs (Decidable (a.nanos ≤ b.nanos))

instance (a b : Timestamp) : Decidable (a < b) := inferInstanceAs (Decidable (a.nanos < b.nanos))

/-- The clock can show it: its seconds fit in 64 signed bits. -/
def Shown (t : Timestamp) : Prop :=
  -(0x8000000000000000 * 1000000000) ≤ t.nanos ∧ t.nanos < 0x8000000000000000 * 1000000000

instance (t : Timestamp) : Decidable t.Shown := by
  unfold Shown
  infer_instance

/-- The instant so much later, where the clock can show it. -/
def add? (t : Timestamp) (d : Duration) : Option Timestamp :=
  let u : Timestamp := ⟨t.nanos + d.nanos⟩
  if u.Shown then some u else none

/-- The time from `earlier` to `t`, and none when it lies ahead. -/
def since (t earlier : Timestamp) : Duration :=
  ⟨(t.nanos - earlier.nanos).toNat⟩

/-- The number of nanoseconds written for an instant: 0 before 1970, and else its last 64 bits. -/
def wireNanos (t : Timestamp) : UInt64 :=
  UInt64.ofNat t.nanos.toNat

end Timestamp
end Courier
