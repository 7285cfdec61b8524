/-!
# Varint - numbers in base 128, least digit first

Every byte but the last has its high bit set.  A length slot is a varint of exactly four bytes, padded
with digits that are zero, so that it can be filled in after what it measures.  Main statements: what
`encode` writes is read back by `decode?` with whatever follows it, and so is a padded number below 2^28,
while of a larger one only its last 28 bits are (`decode?_padded_mod`).
-/
namespace Courier
namespace Wire
namespace Varint

/-- The shortest form of a number. -/
def encode (n : Nat) : List UInt8 :=
  if n < 128 then [UInt8.ofNat n] else UInt8.ofNat (n % 128 + 128) :: encode (n / 128)
termination_by n
decreasing_by omega

/-- A number in four bytes; its digits past the fourth are lost. -/
def padded (n : Nat) : List UInt8 :=
  [ UInt8.ofNat (n % 128 + 128), UInt8.ofNat (n / 128 % 128 + 128),
    UInt8.ofNat (n / 16384 % 128 + 128), UInt8.ofNat (n / 2097152 % 128) ]

/-- The number of bytes of a padded number. -/
def slotSize : Nat := 4

/-- Reads a number of at most `bound` bytes and what follows it. -/
def decodeWithin? : Nat → List UInt8 → Option (Nat × List UInt8)
  | 0, _ => none
  | _, [] => none
  | bound + 1, b :: rest =>
    if b.toNat < 128 then some (b.toNat, rest)
    else (decodeWithin? bound rest).map fun (n, r) => (b.toNat - 128 + 128 * n, r)

/-- Reads a 64-bit number, in at most ten bytes, and what follows it. -/
def decode? (s : List UInt8) : Option (Nat × List UInt8) :=
  match decodeWithin? 10 s with
  | some (n, rest) => if n < 0x10000000000000000 then some (n, rest) else none
  | none => none

@[simp] theorem length_padded (n : Nat) : (padded n).length = slotSize := rfl

/-- A digit that is not the last is read with its high bit. -/
theorem toNat_high (n : Nat) : (UInt8.ofNat (n % 128 + 128)).toNat = n % 128 + 128 := by
  rw [UInt8.toNat_ofNat']
  omega

theorem decodeWithin?_encode (n : Nat) : ∀ (bound : Nat) (rest : List UInt8), n < Nat.pow 128 (bound + 1) →
    decodeWithin? (bound + 1) (encode n ++ rest) = some (n, rest) := by
  induction n using encode.induct with
  | case1 n h =>
    intro bound rest _
    have hd : (UInt8.ofNat n).toNat = n := by rw [UInt8.toNat_ofNat']; omega
    rw [encode, if_pos h, List.singleton_append, decodeWithin?, hd, if_pos h]
  | case2 n h ih =>
    intro bound rest hb
    rw [encode, if_neg h, List.cons_append, decodeWithin?, toNat_high, if_neg (by omega)]
    cases bound with
    | zero => exact absurd hb h
    | succ b =>
      have hb' : n < 128 * Nat.pow 128 (b + 1) := by
        rw [Nat.mul_comm]
        exact hb
      have hq : n / 128 < Nat.pow 128 (b + 1) := Nat.div_lt_of_lt_mul hb'
      rw [ih b rest hq, Option.map_some]
      simp only [Option.some.injEq, Prod.mk.injEq, and_true]
      omega

/-- A 64-bit number is read back from its shortest form. -/
theorem decode?_encode {n : Nat} (h : n < 0x10000000000000000) (rest : List UInt8) :
    decode? (encode n ++ rest) = some (n, rest) := by
  rw [decode?, decodeWithin?_encode n 9 rest (Nat.lt_trans h (by decide))]
  simp only [if_pos h]

/-- A number below 2^28 is read back from its four bytes. -/
theorem decode?_padded {n : Nat} (h : n < 0x10000000) (rest : List UInt8) :
    decode? (padded n ++ rest) = some (n, rest) := by
  have hlast : (UInt8.ofNat (n / 2097152 % 128)).toNat = n / 2097152 % 128 := by
    rw [UInt8.toNat_ofNat']; omega
  have hd : decodeWithin? 10 (padded n ++ rest) = some (n, rest) := by
    simp only [padded, List.cons_append, List.nil_append, decodeWithin?, toNat_high, hlast]
    rw [if_neg (by omega), if_neg (by omega), if_neg (by omega), if_pos (by omega)]
    simp only [Option.map_some]
    congr 2
    omega
  rw [decode?, hd]
  simp only [if_pos (show n < 0x10000000000000000 by omega)]

theorem padded_mod (n : Nat) : padded (n % 0x10000000) = padded n := by
  have h0 : n % 0x10000000 % 128 = n % 128 := by omega
  have h1 : n % 0x10000000 / 128 % 128 = n / 128 % 128 := by omega
  have h2 : n % 0x10000000 / 16384 % 128 = n / 16384 % 128 := by omega
  have h3 : n % 0x10000000 / 2097152 % 128 = n / 2097152 % 128 := by omega
  simp only [padded, h0, h1, h2, h3]

/-- Of any number the last 28 bits are read back from its four bytes. -/
theorem decode?_padded_mod (n : Nat) (rest : List UInt8) :
    decode? (padded n ++ rest) = some (n % 0x10000000, rest) := by
  rw [← padded_mod]
  exact decode?_padded (by omega) rest

end Varint
end Wire
end Courier
