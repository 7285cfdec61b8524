/-!
# Duration - spans of time in whole nanoseconds, and their text

A duration holds up to 2^64 seconds.  Its text is in the largest of the units s, ms, µs and ns of which
it holds at least one, and its fraction has no trailing zero.
-/
namespace Courier

structure Duration where
  /-- Its length in nanoseconds. -/
  nanos : Nat
deriving Repr, DecidableEq, Inhabited

namespace Duration

def zero : Duration := ⟨0⟩

def ofNanos (n : Nat) : Duration := ⟨n⟩

def ofMillis (n : Nat) : Duration := ⟨n * 1000000⟩

def ofSeconds (n : Nat) : Duration := ⟨n * 1000000000⟩

/-- The whole seconds in it. -/
def seconds (d : Duration) : Nat := d.nanos / 1000000000

/-- The whole milliseconds in it. -/
def millis (d : Duration) : Nat := d.nanos / 1000000

def min (a b : Duration) : Duration := ⟨Nat.min a.nanos b.nanos⟩

/-- What is left of one duration after another, and nothing once it is used up. -/
def sub (a b : Duration) : Duration := ⟨a.nanos - b.nanos⟩

instance : LE Duration := ⟨fun a b => a.nanos ≤ b.nanos⟩

instance : LT Duration := ⟨fun a b => a.nanos < b.nanos⟩

instance (a b : Duration) : Decidable (a ≤ b) := inferInstanceAs (Decidable (a.nanos ≤ b.nanos))

instance (a b : Duration) : Decidable (a < b) := inferInstanceAs (Decidable (a.nanos < b.nanos))

theorem le_iff {a b : Duration} : a ≤ b ↔ a.nanos ≤ b.nanos := Iff.rfl

@[simp] theorem nanos_min (a b : Duration) : (a.min b).nanos = Min.min a.nanos b.nanos := rfl

/-- The digits of a number, with zeros in front up to a width. -/
def paddedDigits (width n : Nat) : List Char :=
  let ds := Nat.toDigits 10 n
  List.replicate (width - ds.length) '0' ++ ds

/-- The digits after the point of `rest` parts out of `10 ^ places`, without trailing zeros. -/
def fraction (places rest : Nat) : List Char :=
  ((paddedDigits places rest).reverse.dropWhile (· == '0')).reverse

/-- A number of units of `10 ^ places` nanoseconds each. -/
def inUnit (places : Nat) (unit : String) (nanos : Nat) : String :=
  let whole := toString (nanos / Nat.pow 10 places)
  let rest := nanos % Nat.pow 10 places
  if rest = 0 then whole ++ unit else whole ++ "." ++ String.ofList (fraction places rest) ++ unit

def text (d : Duration) : String :=
  if 1000000000 ≤ d.nanos then inUnit 9 "s" d.nanos
  else if 1000000 ≤ d.nanos then inUnit 6 "ms" d.nanos
  else if 1000 ≤ d.nanos then inUnit 3 "µs" d.nanos
  else inUnit 0 "ns" d.nanos

end Duration
end Courier
