import Courier.Timestamp
/-!
# Clock - moments of a clock that never goes back

Deadlines and waits are measured on a clock of its own, beside wall time.  It holds 63 bits of seconds, and
a sum beyond them is no moment.  Its timers have a resolution: a sleep ends at the first multiple of it that
is not before the moment asked for.  Main statement: no sleep ends early.
-/
namespace Courier

/-- A moment of the steady clock. -/
structure Moment where
  /-- Nanoseconds since the clock began. -/
  nanos : Nat
deriving Repr, DecidableEq, Inhabited

namespace Moment

def zero : Moment := ⟨0⟩

instance : LE Moment := ⟨fun a b => a.nanos ≤ b.nanos⟩

instance : LT Moment := ⟨fun a b => a.nanos < b.nanos⟩

instance (a b : Moment) : Decidable (a ≤ b) := inferInstanceAs (Decidable (a.nanos ≤ b.nanos))

instance (a b : Moment) : Decidable (a < b) := inferInstanceAs (Decidable (a.nanos < b.nanos))

def add (m : Moment) (d : Duration) : Moment := ⟨m.nanos + d.nanos⟩

def max (a b : Moment) : Moment := ⟨Nat.max a.nanos b.nanos⟩

/-- The time from `earlier` to `m`, and none when it lies ahead. -/
def since (m earlier : Moment) : Duration := ⟨m.nanos - earlier.nanos⟩

/-- The clock can show it: its seconds fit in 63 bits. -/
def Shown (m : Moment) : Prop :=
  m.nanos < 0x8000000000000000 * 1000000000

instance (m : Moment) : Decidable m.Shown :=
  inferInstanceAs (Decidable (m.nanos < 0x8000000000000000 * 1000000000))

/-- The moment so much later, where the clock can show it. -/
def add? (m : Moment) (d : Duration) : Option Moment :=
  let u := m.add d
  if u.Shown then some u else none

theorem le_iff {a b : Moment} : a ≤ b ↔ a.nanos ≤ b.nanos := Iff.rfl

theorem lt_iff {a b : Moment} : a < b ↔ a.nanos < b.nanos := Iff.rfl

@[simp] theorem nanos_add (m : Moment) (d : Duration) : (m.add d).nanos = m.nanos + d.nanos := rfl

@[simp] theorem nanos_since (m earlier : Moment) : (m.since earlier).nanos = m.nanos - earlier.nanos := rfl

theorem add?_of_shown {m : Moment} {d : Duration} (h : (m.add d).Shown) : m.add? d = some (m.add d) := if_pos h

theorem add?_of_not_shown {m : Moment} {d : Duration} (h : ¬ (m.add d).Shown) : m.add? d = none := if_neg h

/-- A clock that can show a moment can show those before it. -/
theorem Shown.of_le {a b : Moment} (h : b.Shown) (hle : a ≤ b) : a.Shown := Nat.lt_of_le_of_lt hle h

/-- The clock shows no moment that lies 63 bits of seconds after another one. -/
theorem not_shown_add (m : Moment) {d : Duration} (h : 0x8000000000000000 ≤ d.seconds) : ¬ (m.add d).Shown := by
  simp only [Shown, nanos_add, Duration.seconds] at *
  omega

end Moment

/-- How time passes. -/
structure Clock where
  /-- The resolution of timers, in nanoseconds. -/
  tick : Nat
  wall : Moment → Timestamp

namespace Clock

/-- The moment at which a sleep until `m` ends. -/
def alarm (c : Clock) (m : Moment) : Moment :=
  if c.tick = 0 then m else ⟨(m.nanos + c.tick - 1) / c.tick * c.tick⟩

/-- The end of a sleep that begins at a moment. -/
def sleep (c : Clock) (now : Moment) (d : Duration) : Moment :=
  c.alarm (now.add d)

theorem le_alarm (c : Clock) (m : Moment) : m ≤ c.alarm m := by
  show m.nanos ≤ (c.alarm m).nanos
  unfold alarm
  split
  · exact Nat.le_refl _
  · rename_i h
    have hdiv := Nat.div_add_mod (m.nanos + c.tick - 1) c.tick
    have hmod := Nat.mod_lt (m.nanos + c.tick - 1) (Nat.pos_of_ne_zero h)
    rw [Nat.mul_comm] at hdiv
    show m.nanos ≤ (m.nanos + c.tick - 1) / c.tick * c.tick
    omega

end Clock
end Courier
