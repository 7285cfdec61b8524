import Courier.Wire.Field
/-!
# Bits - the numbers of the wire by shifts and masks

The writers compute on whole numbers.  On words of 64 and 32 bits the same bytes come from shifts and masks: a digit of
a varint (`Varint.encode_eq_bits`), the four bytes of a slot (`Varint.padded_eq_bits`) and the place of a signed number
(`zigzag_eq_xor`).
-/
namespace Courier
namespace Wire
namespace Varint

theorem toNat_lowBits (n : UInt64) : (n &&& 0x7f).toUInt8.toNat = n.toNat % 128 := by
  have hmask : n.toNat &&& 0x7f = n.toNat % 128 := Nat.and_two_pow_sub_one_eq_mod n.toNat 7
  have hand : (n &&& 0x7f).toNat = n.toNat &&& 0x7f := UInt64.toNat_and n 0x7f
  rw [UInt64.toNat_toUInt8, hand, hmask]
  omega

/-- A digit that is not the last has the high bit beside its seven. -/
theorem ofNat_high (n : UInt64) : UInt8.ofNat (n.toNat % 128 + 128) = (n &&& 0x7f).toUInt8 ||| 0x80 := by
  have hlow := toNat_lowBits n
  have hor : 128 + n.toNat % 128 = 128 ||| n.toNat % 128 := Nat.two_pow_add_eq_or_of_lt (i := 7) (by omega) 1
  have hbyte : ((n &&& 0x7f).toUInt8 ||| 0x80).toNat = n.toNat % 128 ||| 128 := by
    rw [UInt8.toNat_or, hlow]
    rfl
  apply UInt8.toNat_inj.1
  rw [hbyte, Nat.or_comm, ← hor, UInt8.toNat_ofNat']
  omega

theorem toNat_shift (n : UInt64) {k : Nat} (hk : k < 64) : (n >>> UInt64.ofNat k).toNat = n.toNat / Nat.pow 2 k := by
  have hn : (UInt64.ofNat k).toNat % 64 = k := by
    rw [UInt64.toNat_ofNat']
    omega
  rw [UInt64.toNat_shiftRight, hn]
  exact Nat.shiftRight_eq_div_pow n.toNat k

/-- The digits of a 64-bit number are taken off seven bits at a time. -/
theorem encode_eq_bits (n : UInt64) : encode n.toNat =
    if n < 0x80 then [n.toUInt8] else ((n &&& 0x7f).toUInt8 ||| 0x80) :: encode (n >>> 7).toNat := by
  have hlt : n < 0x80 ↔ n.toNat < 128 := UInt64.lt_iff_toNat_lt
  have hshift : (n >>> 7).toNat = n.toNat / 128 := toNat_shift n (k := 7) (by decide)
  rw [encode]
  by_cases h : n.toNat < 128
  · rw [if_pos h, if_pos (hlt.2 h)]
    rfl
  · rw [if_neg h, if_neg (mt hlt.1 h), ofNat_high, hshift]

theorem padded_eq_bits (n : UInt64) : padded n.toNat =
    [(n &&& 0x7f).toUInt8 ||| 0x80, (n >>> 7 &&& 0x7f).toUInt8 ||| 0x80, (n >>> 14 &&& 0x7f).toUInt8 ||| 0x80,
      (n >>> 21 &&& 0x7f).toUInt8] := by
  have h7 : (n >>> 7).toNat = n.toNat / 128 := toNat_shift n (k := 7) (by decide)
  have h14 : (n >>> 14).toNat = n.toNat / 16384 := toNat_shift n (k := 14) (by decide)
  have h21 : (n >>> 21).toNat = n.toNat / 2097152 := toNat_shift n (k := 21) (by decide)
  have hlast : (n >>> 21 &&& 0x7f).toUInt8 = UInt8.ofNat (n.toNat / 2097152 % 128) := by
    apply UInt8.toNat_inj.1
    rw [toNat_lowBits, h21, UInt8.toNat_ofNat']
    omega
  rw [padded, ← ofNat_high, ← ofNat_high, ← ofNat_high, h7, h14, hlast]

end Varint

/-- Below 2^31 only the lowest 31 bits are set. -/
theorem shiftRight_eq_zero {x : BitVec 32} (h : x.toNat < 0x80000000) : x >>> 31 = 0#32 := by
  apply BitVec.eq_of_toNat_eq
  rw [BitVec.toNat_ushiftRight, Nat.shiftRight_eq_div_pow, Nat.div_eq_of_lt h, BitVec.toNat_ofNat, Nat.zero_mod]

/-- The place of a number in the order 0, -1, 1, -2, 2 is made of its bits: they move up by one, and those of a negative
number are turned. -/
theorem zigzag_eq_xor (n : Int32) : zigzag n.toInt = ((n <<< 1) ^^^ (n >>> 31)).toUInt32.toNat := by
  let x := n.toBitVec
  have hlt : x.toNat < 0x100000000 := x.isLt
  have hint : n.toInt = if x.msb = true then (x.toNat : Int) - 0x100000000 else x.toNat := BitVec.toInt_eq_msb_cond x
  have hbits : ((n <<< 1) ^^^ (n >>> 31)).toUInt32.toNat = ((x <<< 1) ^^^ (x.sshiftRight 31)).toNat := rfl
  have hshift : (x <<< 1).toNat = 2 * x.toNat % 0x100000000 := by
    rw [BitVec.toNat_shiftLeft, Nat.shiftLeft_eq, Nat.mul_comm]
  rw [hbits, hint, zigzag]
  cases hm : x.msb with
  | false =>
    have hsmall : x.toNat < 0x80000000 := by simpa [BitVec.msb_eq_decide] using hm
    rw [BitVec.sshiftRight_eq_of_msb_false hm, shiftRight_eq_zero hsmall, BitVec.xor_zero, hshift,
      if_neg Bool.false_ne_true, if_pos (by omega)]
    omega
  | true =>
    have hlarge : 0x80000000 ≤ x.toNat := by simpa [BitVec.msb_eq_decide] using hm
    have hnot : (~~~x).toNat < 0x80000000 := by rw [BitVec.toNat_not]; omega
    have hones : ~~~(0#32) = BitVec.allOnes 32 := rfl
    rw [BitVec.sshiftRight_eq_of_msb_true hm, shiftRight_eq_zero hnot, hones, BitVec.xor_allOnes, BitVec.toNat_not,
      hshift, if_pos rfl, if_neg (by omega)]
    omega

end Wire
end Courier
