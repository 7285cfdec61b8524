import Courier.Double
/-!
# Window - how the bound of random waits grows

A window is a number of milliseconds.  It grows by half, a half going to the even neighbour, and never past
five seconds.  The product is taken in double precision.
-/
namespace Courier
namespace Window

/-- The first window of a transmission. -/
def initial : Nat := 1000

/-- No window is larger. -/
def largest : Nat := 5000

/-- The window after one of `w` milliseconds.  The product is counted in halves, and first rounded with halves going
up. -/
@[irreducible]
def next (w : Nat) : Nat :=
  let halves := min (Double.nearest (3 * Double.nearest w)) (2 * largest)
  let rounded := (halves + 1) / 2
  if 2 * rounded - halves = 1 ∧ rounded % 2 = 1 then rounded - 1 else rounded

end Window
end Courier
