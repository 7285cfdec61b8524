/-!
# Shortest - the fewest decimal digits that read back as a binary number

A positive number `m * 2 ^ q` stands for every real that rounds to it, an interval around it whose ends
belong to it when `m` is even.  For one digit, two digits and so on up to seventeen, the two decimals
of that many digits next to the number are tried, and the first count with a hit wins.  Of two hits
the nearer one is taken, and the upper one when they are equally near.
-/
namespace Courier

/-- A decimal number `digits * 10 ^ exponent`. -/
structure Decimal where
  digits : Nat
  exponent : Int
deriving Repr, DecidableEq

namespace Decimal

structure Ratio where
  num : Nat
  den : Nat
deriving Repr

/-- `n` quarters of a unit of `2 ^ q`. -/
def Ratio.ofQuarters (n : Nat) (q : Int) : Ratio :=
  if 2 ≤ q then ⟨n * Nat.pow 2 (q - 2).toNat, 1⟩ else ⟨n, Nat.pow 2 (2 - q).toNat⟩

/-- The reals that round to one binary number. -/
structure Interval where
  low : Ratio
  value : Ratio
  high : Ratio
  /-- The ends round to the number too. -/
  closed : Bool
deriving Repr

/-- The interval of `m * 2 ^ q`.  Below a power of two the next number is half as far away as above it. -/
def Interval.of (m : Nat) (q : Int) (atPower : Bool) : Interval where
  low := .ofQuarters (4 * m - if atPower then 1 else 2) q
  value := .ofQuarters (4 * m) q
  high := .ofQuarters (4 * m + 2) q
  closed := m % 2 = 0

/-- Numerator and denominator of a decimal number. -/
def ratio (d : Decimal) : Ratio :=
  if 0 ≤ d.exponent then ⟨d.digits * Nat.pow 10 d.exponent.toNat, 1⟩ else ⟨d.digits, Nat.pow 10 (-d.exponent).toNat⟩

def Ratio.le (a b : Ratio) : Bool := a.num * b.den ≤ b.num * a.den

def Ratio.lt (a b : Ratio) : Bool := a.num * b.den < b.num * a.den

/-- A decimal number that rounds to the interval's number. -/
def Interval.holds (i : Interval) (d : Decimal) : Bool :=
  if i.closed then i.low.le d.ratio && d.ratio.le i.high else i.low.lt d.ratio && d.ratio.lt i.high

/-- How often ten divides into the number, counted down from `bound`: the least `j` with
`den ≤ num * 10 ^ j`. -/
def Ratio.shift (r : Ratio) : Nat → Nat → Nat
  | 0, j => j
  | bound + 1, j => if r.den ≤ r.num * Nat.pow 10 j then j else r.shift bound (j + 1)

/-- The power of ten of the first digit. -/
def Ratio.leading (r : Ratio) : Int :=
  if r.den ≤ r.num then ((Nat.toDigits 10 (r.num / r.den)).length : Int) - 1 else -(r.shift 400 0 : Int)

/-- The multiple of `10 ^ k` at or below a quotient. -/
def Ratio.floorAt (r : Ratio) (k : Int) : Nat :=
  if 0 ≤ k then r.num / (r.den * Nat.pow 10 k.toNat) else r.num * Nat.pow 10 (-k).toNat / r.den

/-- The upper of two neighbours on a grid is at least as near to the quotient as the lower one. -/
def Ratio.nearerAbove (r : Ratio) (below above : Decimal) : Bool :=
  let b := below.ratio
  let a := above.ratio
  -- 2 * value is at least below + above
  (b.num * a.den + a.num * b.den) * r.den ≤ 2 * r.num * (b.den * a.den)

/-- The decimal of `count` digits to take, if one of the two next to the number rounds to it. -/
def Interval.tryCount (i : Interval) (leading : Int) (count : Nat) : Option Decimal :=
  let k := leading - count + 1
  let below : Decimal := ⟨i.value.floorAt k, k⟩
  let above : Decimal := ⟨below.digits + 1, k⟩
  match i.holds below, i.holds above with
  | true, true => some (if i.value.nearerAbove below above then above else below)
  | true, false => some below
  | false, true => some above
  | false, false => none

/-- The first digit count from `count` on that has a hit. -/
def Interval.search (i : Interval) (leading : Int) : Nat → Nat → Decimal
  | 0, count => ⟨i.value.floorAt (leading - count + 1), leading - count + 1⟩
  | tries + 1, count =>
    match i.tryCount leading count with
    | some d => d
    | none => i.search leading tries (count + 1)

/-- The shortest decimal that reads back as `m * 2 ^ q`. -/
def shortest (m : Nat) (q : Int) (atPower : Bool) : Decimal :=
  let i := Interval.of m q atPower
  i.search i.value.leading 17 1

end Decimal
end Courier
