import Courier.Proofs.Header.Listing
import Courier.Text.Number
/-!
# Number - how a number may be written

A number is written in its digits, with zeros and a plus sign in front and blanks around it if one likes.  Main
statement: a text is read as a number if and only if it is one of the ways to write it (`paddedWord?_eq_some_iff`).
-/
namespace Courier
namespace Text

open Header (Blanks Tight trim_pad isBlank_of_isAlphanum)

/-- A way to write a number. -/
inductive Spells (n : Nat) : List Char → Prop
  | intro (before sign : List Char) (zeros : Nat) (after : List Char) (blank : Blanks before ∧ Blanks after)
    (signed : sign = [] ∨ sign = ['+']) :
    Spells n (before ++ (sign ++ (List.replicate zeros '0' ++ Nat.toDigits 10 n)) ++ after)

/-! ## Digits -/

theorem digitChar_spec {d : Nat} (h : d < 10) :
    ('0' ≤ d.digitChar ∧ d.digitChar ≤ '9') ∧ d.digitChar.toNat - '0'.toNat = d := by
  decide +revert

theorem digit?_eq_some_iff {c : Char} {d : Nat} : digit? c = some d ↔ d < 10 ∧ c = d.digitChar := by
  constructor
  · intro h
    unfold digit? at h
    split at h
    · rename_i hc
      have hlow : 48 ≤ c.toNat := UInt32.le_iff_toNat_le.1 (Char.le_def.1 hc.1)
      have hhigh : c.toNat ≤ 57 := UInt32.le_iff_toNat_le.1 (Char.le_def.1 hc.2)
      have hd : c.toNat - 48 = d := Option.some.inj h
      refine ⟨by omega, Char.toNat_inj.1 ?_⟩
      rw [Nat.toNat_digitChar_of_lt_ten (by omega)]
      omega
    · cases h
  · rintro ⟨hd, rfl⟩
    rw [digit?, if_pos (digitChar_spec hd).1, (digitChar_spec hd).2]

theorem digits?_cons_digitChar {d : Nat} (hd : d < 10) (acc : Nat) (s : List Char) :
    digits? acc (d.digitChar :: s) = digits? (10 * acc + d) s := by
  rw [digits?, digit?_eq_some_iff.2 ⟨hd, rfl⟩]

theorem digits?_append (acc : Nat) (s t : List Char) : digits? acc (s ++ t) = (digits? acc s).bind (digits? · t) := by
  induction s generalizing acc with
  | nil => rfl
  | cons c s ih =>
    rw [List.cons_append, digits?, digits?]
    cases digit? c with
    | none => rfl
    | some d => exact ih _

theorem toDigits_step {n d : Nat} (hn : 0 < n) (hd : d < 10) :
    Nat.toDigits 10 (10 * n + d) = Nat.toDigits 10 n ++ [d.digitChar] := by
  rw [← Nat.toDigits_append_toDigits (by decide) hn hd, Nat.toDigits_of_lt_base hd]

theorem digits?_toDigits (n : Nat) : digits? 0 (Nat.toDigits 10 n) = some n := by
  induction n using Nat.strongRecOn with
  | ind n ih =>
    obtain hsmall | hlarge := Nat.lt_or_ge n 10
    · rw [Nat.toDigits_of_lt_base hsmall, digits?_cons_digitChar hsmall]
      simp [digits?]
    · have hlast : n % 10 < 10 := Nat.mod_lt _ (by decide)
      rw [← Nat.div_add_mod n 10, toDigits_step (by omega) hlast, digits?_append, ih _ (by omega), Option.bind_some,
        digits?_cons_digitChar hlast]
      rfl

theorem digits?_zeros (zeros : Nat) (s : List Char) : digits? 0 (List.replicate zeros '0' ++ s) = digits? 0 s := by
  induction zeros with
  | zero => rfl
  | succ zeros ih =>
    rw [List.replicate_succ, List.cons_append]
    exact ih

/-- Behind a digit that is no zero, digits continue those of the number. -/
theorem toDigits_of_digits? {acc n : Nat} {s : List Char} (hacc : 0 < acc) (h : digits? acc s = some n) :
    Nat.toDigits 10 n = Nat.toDigits 10 acc ++ s := by
  induction s generalizing acc with
  | nil =>
    cases h
    exact (List.append_nil _).symm
  | cons c s ih =>
    rw [digits?] at h
    cases hc : digit? c with
    | none =>
      rw [hc] at h
      cases h
    | some d =>
      rw [hc] at h
      obtain ⟨hd, rfl⟩ := digit?_eq_some_iff.1 hc
      rw [ih (by omega) h, toDigits_step hacc hd, List.append_assoc, List.singleton_append]

theorem exists_zeros {n : Nat} {s : List Char} (hs : s ≠ []) (h : digits? 0 s = some n) :
    ∃ zeros, s = List.replicate zeros '0' ++ Nat.toDigits 10 n := by
  induction s with
  | nil => exact absurd rfl hs
  | cons c s ih =>
    rw [digits?] at h
    cases hc : digit? c with
    | none =>
      rw [hc] at h
      cases h
    | some d =>
      rw [hc] at h
      obtain ⟨hd, rfl⟩ := digit?_eq_some_iff.1 hc
      obtain rfl | hpos := Nat.eq_zero_or_pos d
      · cases s with
        | nil =>
          cases h
          exact ⟨0, rfl⟩
        | cons c' s =>
          obtain ⟨zeros, hzeros⟩ := ih (List.cons_ne_nil _ _) h
          exact ⟨zeros + 1, by rw [hzeros, List.replicate_succ]; rfl⟩
      · refine ⟨0, ?_⟩
        have hdigits := toDigits_of_digits? (show 0 < 10 * 0 + d by omega) h
        rw [hdigits, Nat.mul_zero, Nat.zero_add, Nat.toDigits_of_lt_base hd]
        rfl

/-! ## Numbers -/

theorem natural?_sign {s : List Char} (h : s ≠ []) : natural? ('+' :: s) = digits? 0 s := by
  cases s with
  | nil => exact absurd rfl h
  | cons c s => rfl

theorem natural?_of_ne {c : Char} (h : c ≠ '+') (s : List Char) : natural? (c :: s) = digits? 0 (c :: s) := by
  unfold natural?
  split <;> simp_all

theorem natural?_eq_some_iff {s : List Char} {n : Nat} : natural? s = some n ↔
    ∃ sign zeros, (sign = [] ∨ sign = ['+']) ∧ s = sign ++ (List.replicate zeros '0' ++ Nat.toDigits 10 n) := by
  constructor
  · intro h
    cases s with
    | nil => cases h
    | cons c s =>
      by_cases hc : c = '+'
      · subst hc
        have hs : s ≠ [] := by
          rintro rfl
          cases h
        obtain ⟨zeros, rfl⟩ := exists_zeros hs (natural?_sign hs ▸ h)
        exact ⟨['+'], zeros, .inr rfl, rfl⟩
      · obtain ⟨zeros, hzeros⟩ := exists_zeros (List.cons_ne_nil c s) (natural?_of_ne hc s ▸ h)
        exact ⟨[], zeros, .inl rfl, hzeros⟩
  · rintro ⟨sign, zeros, hsign, rfl⟩
    have hread : digits? 0 (List.replicate zeros '0' ++ Nat.toDigits 10 n) = some n := by
      rw [digits?_zeros, digits?_toDigits]
    have hne : List.replicate zeros '0' ++ Nat.toDigits 10 n ≠ [] := by simp
    obtain ⟨c, ds, hds⟩ := List.exists_cons_of_ne_nil hne
    rw [hds] at hread ⊢
    have hc : c ≠ '+' := by
      rintro rfl
      cases hread
    obtain rfl | rfl := hsign
    · rw [List.nil_append, natural?_of_ne hc, hread]
    · rw [List.singleton_append, natural?_sign (List.cons_ne_nil c ds), hread]

theorem word?_eq_some_iff {s : List Char} {n : UInt64} : word? s = some n ↔ natural? s = some n.toNat := by
  unfold word?
  cases natural? s with
  | none => simp
  | some m =>
    simp only [Option.some.injEq]
    constructor
    · intro h
      split at h
      · cases h
        exact (UInt64.toNat_ofNat_of_lt' ‹_›).symm
      · cases h
    · rintro rfl
      rw [if_pos n.toNat_lt, UInt64.ofNat_toNat]

/-! ## Blanks around a number -/

theorem exists_pad (s : List Char) : ∃ before after, (Blanks before ∧ Blanks after) ∧ s = before ++ trim s ++ after := by
  refine ⟨s.takeWhile isBlank, ((s.dropWhile isBlank).reverse.takeWhile isBlank).reverse, ⟨?_, ?_⟩, ?_⟩
  · exact List.all_eq_true.1 List.all_takeWhile
  · exact fun c hc => List.all_eq_true.1 List.all_takeWhile c (List.mem_reverse.1 hc)
  · rw [trim, trimEnd, List.append_assoc, ← List.reverse_append, List.takeWhile_append_dropWhile, List.reverse_reverse,
      List.takeWhile_append_dropWhile]

theorem tight_written {n zeros : Nat} {sign : List Char} (hsign : sign = [] ∨ sign = ['+']) :
    Tight (sign ++ (List.replicate zeros '0' ++ Nat.toDigits 10 n)) := by
  have hall : ∀ c ∈ sign ++ (List.replicate zeros '0' ++ Nat.toDigits 10 n), isBlank c = false := by
    intro c hc
    rw [List.mem_append, List.mem_append] at hc
    obtain hc | hc | hc := hc
    · obtain rfl | rfl := hsign
      · cases hc
      · cases List.mem_singleton.1 hc
        rfl
    · cases List.eq_of_mem_replicate hc
      rfl
    · have hdigit := Nat.isDigit_of_mem_toDigits (by decide) (by decide) hc
      exact isBlank_of_isAlphanum (by simp [Char.isAlphanum, hdigit])
  exact ⟨fun c hc => hall c (List.mem_of_mem_head? hc), fun c hc => hall c (List.mem_of_mem_getLast? hc)⟩

/-- **A text is read as a number just where it is a way to write it.** -/
theorem paddedWord?_eq_some_iff {s : String} {n : UInt64} : paddedWord? s = some n ↔ Spells n.toNat s.toList := by
  rw [paddedWord?, word?_eq_some_iff, natural?_eq_some_iff]
  constructor
  · rintro ⟨sign, zeros, hsign, htrim⟩
    obtain ⟨before, after, hblank, hs⟩ := exists_pad s.toList
    rw [htrim] at hs
    rw [hs]
    exact .intro before sign zeros after hblank hsign
  · intro h
    generalize s.toList = cs at h
    obtain ⟨before, sign, zeros, after, ⟨hbefore, hafter⟩, hsign⟩ := h
    exact ⟨sign, zeros, hsign, trim_pad hbefore (tight_written hsign) hafter⟩

theorem spells_toString (n : Nat) : Spells n (toString n).toList := by
  have hblanks : Blanks [] := List.forall_mem_nil _
  have h := Spells.intro (n := n) [] [] 0 [] ⟨hblanks, hblanks⟩ (.inl rfl)
  rwa [List.append_nil, List.nil_append, List.nil_append, List.replicate_zero, List.nil_append,
    ← String.toList_ofList (l := Nat.toDigits 10 n)] at h

end Text
end Courier
