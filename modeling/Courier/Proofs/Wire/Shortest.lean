import Courier.Wire.Varint
/-!
# Shortest - the spelling of a number with the fewest bytes

A reader takes a number with any zero digits behind it, so a number has more than one spelling.  Main statement: what is
written for a 64-bit number is one to ten bytes, each but the last with its high bit set, and whatever else is read as
that number is longer (`isShortest_encode`).
-/
namespace Courier
namespace Wire
namespace Varint

/-- The bytes spell the number, and everything else that spells it is longer. -/
structure IsShortest (n : Nat) (bytes : List UInt8) : Prop where
  chained : ∃ digits last, bytes = digits ++ [last] ∧ (∀ b ∈ digits, 128 ≤ b.toNat) ∧ last.toNat < 128
  length_le : bytes.length ≤ 10
  reads : ∀ rest, decode? (bytes ++ rest) = some (n, rest)
  shortest : ∀ other rest, decode? (other ++ rest) = some (n, rest) → other = bytes ∨ bytes.length < other.length

theorem chained_encode (n : Nat) :
    ∃ digits last, encode n = digits ++ [last] ∧ (∀ b ∈ digits, 128 ≤ b.toNat) ∧ last.toNat < 128 := by
  induction n using encode.induct with
  | case1 n h =>
    refine ⟨[], UInt8.ofNat n, by rw [encode, if_pos h]; rfl, List.forall_mem_nil _, ?_⟩
    rw [UInt8.toNat_ofNat']
    omega
  | case2 n h ih =>
    obtain ⟨digits, last, hbytes, hdigits, hlast⟩ := ih
    refine ⟨UInt8.ofNat (n % 128 + 128) :: digits, last, by rw [encode, if_neg h, hbytes]; rfl, ?_, hlast⟩
    rw [List.forall_mem_cons, toNat_high]
    exact ⟨by omega, hdigits⟩

theorem length_encode_le (n : Nat) : ∀ k, n < Nat.pow 128 (k + 1) → (encode n).length ≤ k + 1 := by
  induction n using encode.induct with
  | case1 n h =>
    intro k _
    rw [encode, if_pos h, List.length_singleton]
    omega
  | case2 n h ih =>
    intro k hk
    cases k with
    | zero => exact absurd hk h
    | succ k =>
      have hq : n / 128 < Nat.pow 128 (k + 1) := Nat.div_lt_of_lt_mul (by rwa [Nat.mul_comm])
      have hlen := ih k hq
      rw [encode, if_neg h, List.length_cons]
      omega

/-- A byte at least is taken off. -/
theorem length_lt_of_decodeWithin? {bound : Nat} : ∀ {s rest : List UInt8} {n : Nat},
    decodeWithin? bound s = some (n, rest) → rest.length < s.length := by
  induction bound with
  | zero => intro s rest n h; cases h
  | succ bound ih =>
    intro s rest n h
    cases s with
    | nil => cases h
    | cons b s =>
      rw [decodeWithin?] at h
      split at h
      · cases h
        exact Nat.lt_succ_self _
      · obtain ⟨⟨m, r⟩, hm, heq⟩ := Option.map_eq_some_iff.1 h
        cases heq
        exact Nat.lt_succ_of_lt (ih hm)

/-- Whatever is read as a number is its shortest form or longer. -/
theorem shortest_of_decodeWithin? (rest : List UInt8) : ∀ (bytes : List UInt8) (bound n : Nat),
    decodeWithin? bound (bytes ++ rest) = some (n, rest) → bytes = encode n ∨ (encode n).length < bytes.length
  | [], bound, n, h => absurd (length_lt_of_decodeWithin? h) (Nat.lt_irrefl _)
  | b :: bytes, 0, n, h => nomatch h
  | b :: bytes, bound + 1, n, h => by
    have hb := b.toNat_lt
    rw [List.cons_append, decodeWithin?] at h
    split at h
    · rename_i hlow
      obtain ⟨rfl, hrest⟩ := Prod.mk.inj (Option.some.inj h)
      have hnil : bytes = [] := List.append_left_eq_self.1 hrest
      exact .inl (by rw [encode, if_pos hlow, hnil, UInt8.ofNat_toNat])
    · rename_i hhigh
      obtain ⟨⟨m, r⟩, hm, heq⟩ := Option.map_eq_some_iff.1 h
      obtain ⟨rfl, rfl⟩ := Prod.mk.inj heq
      have hlong := length_lt_of_decodeWithin? hm
      rw [List.length_append] at hlong
      by_cases h0 : m = 0
      · -- The digits behind the first are zeros, and the first alone spells the number.
        refine .inr ?_
        rw [encode, if_pos (by omega), List.length_singleton, List.length_cons]
        omega
      · have hencode : encode (b.toNat - 128 + 128 * m) = b :: encode m := by
          have hdigit : (b.toNat - 128 + 128 * m) % 128 + 128 = b.toNat := by omega
          have hquot : (b.toNat - 128 + 128 * m) / 128 = m := by omega
          rw [encode, if_neg (by omega), hdigit, hquot, UInt8.ofNat_toNat]
        rw [hencode, List.cons.injEq, List.length_cons, List.length_cons]
        rcases shortest_of_decodeWithin? r bytes bound m hm with hsame | hless
        · exact .inl ⟨rfl, hsame⟩
        · exact .inr (Nat.succ_lt_succ hless)

theorem decodeWithin?_of_decode? {s rest : List UInt8} {n : Nat} (h : decode? s = some (n, rest)) :
    decodeWithin? 10 s = some (n, rest) := by
  rw [decode?] at h
  split at h
  · split at h
    · rwa [← h]
    · cases h
  · cases h

/-- **What is written for a number is the shortest that is read as it.** -/
theorem isShortest_encode {n : Nat} (h : n < 0x10000000000000000) : IsShortest n (encode n) where
  chained := chained_encode n
  length_le := length_encode_le n 9 (Nat.lt_trans h (by decide))
  reads := decode?_encode h
  shortest other rest hother := shortest_of_decodeWithin? rest other 10 n (decodeWithin?_of_decode? hother)

end Varint
end Wire
end Courier
