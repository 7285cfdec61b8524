import Courier.Double
import Mathlib.Algebra.Order.Ring.Rat
import Mathlib.Algebra.Ring.Parity
import Mathlib.Tactic.FieldSimp
import Mathlib.Tactic.IntervalCases
import Mathlib.Tactic.Positivity
import Mathlib.Tactic.Ring
/-!
# Double - what a double stands for, and which one a whole number becomes

Main statements: `Double.nearest` is a nearest number of 53 binary digits before its zeros, with an even significand
at a tie (`Double.isNearest_nearest`), and the double that a whole number of 64 bits becomes stands for it
(`Double.whole_ofNat`, `Double.whole_ofInt`).
-/
namespace Courier
namespace Double

/-- What a finite number stands for. -/
def value (x : Double) : ℚ :=
  let size : ℚ := x.significand * (Nat.pow 2 x.exponent.toNat / Nat.pow 2 (-x.exponent).toNat)
  if x.isNegative then -size else size

/-- It is finite, and stands for a whole number with a sign, which zero has as well. -/
structure Whole (x : Double) (negative : Bool) (n : ℕ) : Prop where
  finite : x.isFinite = true
  sign : x.isNegative = negative
  value : x.value = if negative then -(n : ℚ) else n

/-- The nearest to `n` of the numbers that end where its first 53 binary digits do, and the even one of two. -/
def IsNearest (n m : ℕ) : Prop :=
  ∃ k, m = k * Nat.pow 2 (n.log2 - 52) ∧ 2 * |(n : ℤ) - m| ≤ Nat.pow 2 (n.log2 - 52) ∧
    (2 * |(n : ℤ) - m| = Nat.pow 2 (n.log2 - 52) → Even k)

theorem isNearest_nearest (n : ℕ) : IsNearest n (nearest n) := by
  have hpos : 0 < Nat.pow 2 (n.log2 - 52) := Nat.pow_pos (by decide)
  unfold IsNearest nearest
  generalize Nat.pow 2 (n.log2 - 52) = unit at *
  have hdiv := Nat.div_add_mod n unit
  have hrest := Nat.mod_lt n hpos
  rw [Nat.mul_comm] at hdiv
  simp only
  split
  · rename_i hdown
    have habs : |(n : ℤ) - (n / unit * unit : ℕ)| = n % unit := by rw [abs_of_nonneg] <;> omega
    refine ⟨_, rfl, by rw [habs]; omega, fun htie => ?_⟩
    rw [habs] at htie
    exact Nat.even_iff.2 (by omega)
  · rename_i hup
    have hnext : (n / unit + 1) * unit = n / unit * unit + unit := Nat.succ_mul _ _
    have habs : |(n : ℤ) - ((n / unit + 1) * unit : ℕ)| = unit - n % unit := by
      rw [abs_of_nonpos] <;> omega
    refine ⟨_, rfl, by rw [habs]; omega, fun htie => ?_⟩
    rw [habs] at htie
    refine Nat.even_add_one.2 (Nat.not_even_iff.2 ?_)
    omega

theorem nearest_ne_zero {n : ℕ} (h : n ≠ 0) : nearest n ≠ 0 := fun h0 => by
  have hle := le_two_mul_nearest n
  omega

theorem nearest_le (n : ℕ) : nearest n ≤ Nat.pow 2 (n.log2 + 1) := by
  by_cases hsmall : n < 0x20000000000000
  · rw [nearest_of_lt hsmall]
    exact Nat.lt_log2_self.le
  · have hlog : 53 ≤ n.log2 := (Nat.le_log2 (by omega)).2 (by omega)
    have hpos : 0 < Nat.pow 2 (n.log2 - 52) := Nat.pow_pos (by decide)
    have hsplit : Nat.pow 2 (n.log2 + 1) = 0x20000000000000 * Nat.pow 2 (n.log2 - 52) := by
      rw [show n.log2 + 1 = 53 + (n.log2 - 52) by omega]
      exact Nat.pow_add 2 53 _
    have hwhole : n / Nat.pow 2 (n.log2 - 52) < 0x20000000000000 :=
      (Nat.div_lt_iff_lt_mul hpos).2 (hsplit ▸ Nat.lt_log2_self)
    rw [hsplit]
    unfold nearest
    simp only
    split
    · exact Nat.mul_le_mul_right _ hwhole.le
    · exact Nat.mul_le_mul_right _ hwhole

/-- Scaled by its own power of two, the nearest number has no digits after the first 53. -/
theorem dvd_nearest {n : ℕ} (h : n ≠ 0) : Nat.pow 2 (nearest n).log2 ∣ nearest n * 0x10000000000000 := by
  have hle := nearest_le n
  have hne := nearest_ne_zero h
  have hself := Nat.log2_self_le hne
  rcases Nat.lt_or_ge n.log2 (nearest n).log2 with hover | hunder
  · -- Rounded up to the next power of two.
    have hpow : Nat.pow 2 (n.log2 + 1) ≤ Nat.pow 2 (nearest n).log2 := Nat.pow_le_pow_right (by decide) hover
    have heq : Nat.pow 2 (nearest n).log2 = nearest n := Nat.le_antisymm hself (hle.trans hpow)
    rw [heq]
    exact Nat.dvd_mul_right _ _
  · -- The digits that rounding cut off are zeros, and they are all that 52 places do not hold.
    obtain ⟨k, hk, -⟩ := isNearest_nearest n
    have hfine : Nat.pow 2 (nearest n).log2 ∣ Nat.pow 2 (n.log2 - 52) * Nat.pow 2 52 := by
      have hadd : Nat.pow 2 (n.log2 - 52) * Nat.pow 2 52 = Nat.pow 2 (n.log2 - 52 + 52) := (Nat.pow_add 2 _ 52).symm
      rw [hadd]
      exact Nat.pow_dvd_pow 2 (by omega)
    have hmul : nearest n * 0x10000000000000 = k * (Nat.pow 2 (n.log2 - 52) * Nat.pow 2 52) := by
      rw [← Nat.mul_assoc, ← hk]
    rw [hmul]
    exact hfine.mul_left k

/-! ## Bits -/

theorem isNegative_eq (x : Double) : x.isNegative = decide (x.bits.toNat / Nat.pow 2 63 = 1) := by
  have hshift : (x.bits >>> 63).toNat = x.bits.toNat / Nat.pow 2 63 := by
    rw [UInt64.toNat_shiftRight]
    exact Nat.shiftRight_eq_div_pow _ _
  rw [isNegative, ← hshift, Bool.eq_iff_iff, beq_iff_eq, decide_eq_true_iff, ← UInt64.toNat_inj]
  rfl

/-- The double of an exponent and fraction bits. -/
structure Fields (x : Double) (scale fraction : ℕ) : Prop where
  bits : x.bits.toNat = (scale + 1023) * 0x10000000000000 + fraction
  scale_lt : scale < 1024
  fraction_lt : fraction < 0x10000000000000

namespace Fields

variable {x : Double} {scale fraction : ℕ}

theorem isNegative (h : Fields x scale fraction) : x.isNegative = false := by
  have hbits := h.bits
  have hscale := h.scale_lt
  have hfraction := h.fraction_lt
  have htop : x.bits.toNat / Nat.pow 2 63 = 0 := Nat.div_eq_of_lt (show _ < 0x8000000000000000 by omega)
  rw [isNegative_eq, htop]
  rfl

theorem biased (h : Fields x scale fraction) : x.biased = scale + 1023 := by
  have hbits := h.bits
  have hscale := h.scale_lt
  have hfraction := h.fraction_lt
  rw [Double.biased, UInt64.toNat_shiftRight]
  show x.bits.toNat >>> 52 % 2048 = _
  rw [Nat.shiftRight_eq_div_pow]
  omega

theorem fraction_eq (h : Fields x scale fraction) : x.fraction = fraction := by
  have hbits := h.bits
  have hfraction := h.fraction_lt
  unfold Double.fraction
  omega

theorem isFinite (h : Fields x scale fraction) : x.isFinite = true := by
  have hscale := h.scale_lt
  rw [Double.isFinite, h.biased]
  simp
  omega

theorem significand (h : Fields x scale fraction) : x.significand = fraction + 0x10000000000000 := by
  rw [Double.significand, h.biased, h.fraction_eq, if_neg (by omega)]

theorem exponent (h : Fields x scale fraction) : x.exponent = (scale : ℤ) - 52 := by
  rw [Double.exponent, h.biased, if_neg (by omega)]
  omega

theorem value {whole : ℕ} (h : Fields x scale fraction)
    (hw : (fraction + 0x10000000000000) * Nat.pow 2 scale = whole * Nat.pow 2 52) : x.value = whole := by
  have hwhole : ((fraction + 0x10000000000000 : ℕ) : ℚ) * 2 ^ scale = whole * 2 ^ 52 := by
    have hcast := congrArg (Nat.cast : ℕ → ℚ) hw
    simpa only [Nat.cast_mul, Nat.pow_eq, Nat.cast_pow, Nat.cast_ofNat] using hcast
  unfold Double.value
  rw [h.isNegative, h.significand, h.exponent, if_neg Bool.false_ne_true]
  generalize ((fraction + 0x10000000000000 : ℕ) : ℚ) = size at *
  simp only [Nat.pow_eq, Nat.cast_pow, Nat.cast_ofNat]
  rcases Nat.lt_or_ge scale 52 with hlow | hhigh
  · obtain ⟨k, hk⟩ := Nat.exists_eq_add_of_lt hlow
    have hdown : (-((scale : ℤ) - 52)).toNat = k + 1 := by omega
    have hup : ((scale : ℤ) - 52).toNat = 0 := by omega
    have hpow : (2 : ℚ) ^ 52 = 2 ^ scale * 2 ^ (k + 1) := by rw [← pow_add, hk, Nat.add_assoc]
    rw [hpow, ← mul_assoc, mul_right_comm] at hwhole
    have hsize := mul_right_cancel₀ (pow_ne_zero scale two_ne_zero) hwhole
    rw [hdown, hup, hsize]
    field_simp
  · obtain ⟨k, rfl⟩ := Nat.exists_eq_add_of_le hhigh
    have hdown : (-(((52 + k : ℕ) : ℤ) - 52)).toNat = 0 := by omega
    have hup : (((52 + k : ℕ) : ℤ) - 52).toNat = k := by omega
    rw [pow_add, mul_comm (2 ^ 52 : ℚ), ← mul_assoc] at hwhole
    have hsize := mul_right_cancel₀ (pow_ne_zero 52 two_ne_zero) hwhole
    rw [hdown, hup, pow_zero, div_one, hsize]

end Fields

theorem fields_ofNat {n : ℕ} (h0 : n ≠ 0) (h : n < 0x10000000000000000) :
    Fields (ofNat n) (nearest n).log2
      (nearest n * 0x10000000000000 / Nat.pow 2 (nearest n).log2 - 0x10000000000000) := by
  have hne := nearest_ne_zero h0
  have hscale : (nearest n).log2 ≤ 64 := by
    have hlog : n.log2 < 64 := (Nat.log2_lt h0).2 h
    have hpow : Nat.pow 2 (n.log2 + 1) ≤ Nat.pow 2 64 := Nat.pow_le_pow_right (by decide) hlog
    refine Nat.lt_succ_iff.1 ((Nat.log2_lt hne).2 ((nearest_le n).trans_lt ?_))
    exact hpow.trans_lt (by decide)
  have hfraction : nearest n * 0x10000000000000 / Nat.pow 2 (nearest n).log2 < 0x20000000000000 := by
    have hpos : 0 < Nat.pow 2 (nearest n).log2 := Nat.pow_pos (by decide)
    have hlt : nearest n < Nat.pow 2 (nearest n).log2 * 2 := Nat.lt_log2_self
    rw [Nat.div_lt_iff_lt_mul hpos]
    omega
  refine ⟨?_, by omega, by omega⟩
  rw [ofNat, if_neg h0]
  simp only
  rw [UInt64.toNat_ofNat']
  exact Nat.mod_eq_of_lt (by omega)

/-- **A whole number of 64 bits becomes the nearest one.** -/
theorem whole_ofNat {n : ℕ} (h : n < 0x10000000000000000) : Whole (ofNat n) false (nearest n) := by
  by_cases h0 : n = 0
  · subst h0
    refine ⟨by decide, by decide, ?_⟩
    have hsize : (ofNat 0).significand = 0 := by decide
    rw [value, hsize, nearest_of_lt (by decide)]
    simp only [Nat.cast_zero, zero_mul, neg_zero, ite_self]
  · have hfields := fields_ofNat h0 h
    refine ⟨hfields.isFinite, hfields.isNegative, hfields.value ?_⟩
    have hself : Nat.pow 2 (nearest n).log2 ≤ nearest n := Nat.log2_self_le (nearest_ne_zero h0)
    have hpos : 0 < Nat.pow 2 (nearest n).log2 := Nat.pow_pos (by decide)
    have hlow : 0x10000000000000 ≤ nearest n * 0x10000000000000 / Nat.pow 2 (nearest n).log2 := by
      rw [Nat.le_div_iff_mul_le hpos]
      omega
    rw [Nat.sub_add_cancel hlow]
    exact Nat.div_mul_cancel (dvd_nearest h0)

/-! ## The other sign -/

theorem toNat_bits_neg (x : Double) : x.neg.bits.toNat = x.bits.toNat ^^^ Nat.pow 2 63 :=
  UInt64.toNat_xor x.bits 0x8000000000000000

theorem biased_neg (x : Double) : x.neg.biased = x.biased := by
  unfold biased
  rw [UInt64.toNat_shiftRight, UInt64.toNat_shiftRight, toNat_bits_neg]
  show (x.bits.toNat ^^^ 0x8000000000000000) >>> 52 % Nat.pow 2 11 = x.bits.toNat >>> 52 % Nat.pow 2 11
  rw [Nat.shiftRight_xor_distrib, Nat.pow_eq, Nat.xor_mod_two_pow]
  exact Nat.xor_zero _

theorem fraction_neg (x : Double) : x.neg.fraction = x.fraction := by
  unfold fraction
  rw [toNat_bits_neg]
  show (x.bits.toNat ^^^ Nat.pow 2 63) % Nat.pow 2 52 = x.bits.toNat % Nat.pow 2 52
  rw [Nat.pow_eq, Nat.pow_eq, Nat.xor_mod_two_pow]
  exact Nat.xor_zero _

theorem isNegative_neg (x : Double) : x.neg.isNegative = !x.isNegative := by
  rw [isNegative_eq, isNegative_eq, toNat_bits_neg]
  have hlt : x.bits.toNat / Nat.pow 2 63 < 2 := Nat.div_lt_of_lt_mul x.bits.toNat_lt
  have hdiv : (x.bits.toNat ^^^ Nat.pow 2 63) / Nat.pow 2 63 = x.bits.toNat / Nat.pow 2 63 ^^^ 1 := by
    rw [Nat.pow_eq, Nat.xor_div_two_pow, Nat.div_self (by positivity)]
  rw [hdiv]
  generalize x.bits.toNat / Nat.pow 2 63 = top at hlt
  interval_cases top <;> rfl

theorem value_neg (x : Double) : x.neg.value = -x.value := by
  have hsignificand : x.neg.significand = x.significand := by
    rw [significand, significand, biased_neg, fraction_neg]
  have hexponent : x.neg.exponent = x.exponent := by rw [exponent, exponent, biased_neg]
  unfold value
  rw [hsignificand, hexponent, isNegative_neg]
  cases x.isNegative <;> simp

theorem Whole.neg {x : Double} {negative : Bool} {n : ℕ} (h : Whole x negative n) : Whole x.neg (!negative) n where
  finite := by
    rw [isFinite, biased_neg]
    exact h.finite
  sign := by rw [isNegative_neg, h.sign]
  value := by
    rw [value_neg, h.value]
    cases negative <;> simp

/-- **So does a whole number that may be negative.** -/
theorem whole_ofInt {n : ℤ} (h : n.natAbs < 0x10000000000000000) :
    Whole (ofInt n) (decide (n < 0)) (nearest n.natAbs) := by
  unfold ofInt
  by_cases hneg : n < 0
  · rw [if_pos hneg, decide_eq_true hneg]
    exact (whole_ofNat h).neg
  · rw [if_neg hneg, decide_eq_false hneg]
    exact whole_ofNat h

end Double
end Courier
