/-!
# Double - floating-point numbers as their 64 bits

A number is carried as its IEEE 754 bits, so that every NaN keeps its payload and a zero its sign.
Arithmetic and comparison go through `Float`.
-/
namespace Courier

structure Double where
  /-- Sign, exponent and fraction, from the highest bit down. -/
  bits : UInt64
deriving Repr, DecidableEq, Inhabited

namespace Double

def ofFloat (x : Float) : Double := ⟨x.toBits⟩

/-- The `Float` of the number, which keeps no NaN payload. -/
def toFloat (x : Double) : Float := Float.ofBits x.bits

def zero : Double := ⟨0⟩

def isNegative (x : Double) : Bool := x.bits >>> 63 == 1

def biased (x : Double) : Nat := (x.bits >>> 52).toNat % 2048

/-- The 52 fraction bits. -/
def fraction (x : Double) : Nat := x.bits.toNat % 0x10000000000000

def isFinite (x : Double) : Bool := x.biased != 2047

def isNaN (x : Double) : Bool := x.biased == 2047 && x.fraction != 0

/-- Significand and exponent: a finite number is `significand * 2 ^ exponent` up to its sign. -/
def significand (x : Double) : Nat :=
  if x.biased = 0 then x.fraction else x.fraction + 0x10000000000000

/-- The power of two that the significand is scaled by. -/
def exponent (x : Double) : Int :=
  if x.biased = 0 then -1074 else (x.biased : Int) - 1075

/-- The NaN of an operation that has no result. -/
def invalid : Double := ⟨0xfff8000000000000⟩

def quiet (x : Double) : Double := ⟨x.bits ||| 0x0008000000000000⟩

/-- The sum.  The first NaN among the operands is passed on. -/
def add (x y : Double) : Double :=
  if x.isNaN then x.quiet
  else if y.isNaN then y.quiet
  else
    let sum := ofFloat (x.toFloat + y.toFloat)
    if sum.isNaN then invalid else sum

/-- The first is less than the second, and neither is a NaN. -/
def lt (x y : Double) : Bool := x.toFloat < y.toFloat

/-- The whole number that stands for `n`, which may have no more than 53 binary digits before its zeros: the
nearest one, a tie going to the even significand. -/
def nearest (n : Nat) : Nat :=
  let unit := Nat.pow 2 (n.log2 - 52)
  let whole := n / unit
  let rest := n % unit
  if 2 * rest < unit ∨ (2 * rest = unit ∧ whole % 2 = 0) then whole * unit else (whole + 1) * unit

/-- The number nearest to a whole number. -/
def ofNat (n : Nat) : Double :=
  if n = 0 then zero
  else
    let whole := nearest n
    let scale := whole.log2
    ⟨UInt64.ofNat ((scale + 1023) * 0x10000000000000 + (whole * 0x10000000000000 / Nat.pow 2 scale - 0x10000000000000))⟩

def neg (x : Double) : Double := ⟨x.bits ^^^ 0x8000000000000000⟩

/-- The number nearest to a whole number that may be negative. -/
def ofInt (n : Int) : Double :=
  if n < 0 then (ofNat n.natAbs).neg else ofNat n.natAbs

theorem nearest_of_lt {n : Nat} (h : n < 0x20000000000000) : nearest n = n := by
  have hlog : n.log2 < 53 := by
    by_cases h0 : n = 0
    · simp [h0]
    · exact (Nat.log2_lt h0).2 h
  have hunit : n.log2 - 52 = 0 := by omega
  simp [nearest, hunit, Nat.mod_one]

theorem le_two_mul_nearest (n : Nat) : n ≤ 2 * nearest n := by
  by_cases h0 : n = 0
  · simp [h0]
  · have hpos : 0 < Nat.pow 2 (n.log2 - 52) := Nat.pow_pos (by decide)
    have hle : Nat.pow 2 (n.log2 - 52) ≤ n :=
      Nat.le_trans (Nat.pow_le_pow_right (by decide) (Nat.sub_le _ _)) (Nat.log2_self_le h0)
    unfold nearest
    generalize Nat.pow 2 (n.log2 - 52) = unit at *
    have hwhole : unit ≤ n / unit * unit := Nat.le_mul_of_pos_left unit (Nat.div_pos hle hpos)
    have hdiv := Nat.div_add_mod n unit
    have hrest := Nat.mod_lt n hpos
    rw [Nat.mul_comm] at hdiv
    simp only
    split
    · omega
    · rw [Nat.add_mul, Nat.one_mul]
      omega

end Double
end Courier
