import Courier.Text.Percent
import Mathlib.Data.List.Basic
/-!
# Percent - the bytes that a text with escapes stands for

A percent sign and two hexadecimal digits stand for one byte, and every other character for its own bytes.  Main
statements: decoding gives a text if and only if these are its bytes (`decodeText?_eq_some_iff`), so it gives none
exactly if some percent sign is not followed by two digits or the bytes are no text (`decodeText?_eq_none_iff`).
-/
namespace Courier
namespace Percent

/-- The bytes of a text. -/
def bytes (s : String) : List UInt8 := s.toUTF8.data.toList

/-- The character is the hexadecimal digit of a number, in either case. -/
def Digit (n : Nat) (c : Char) : Prop :=
  "0123456789abcdef".toList[n]? = some c ∨ "0123456789ABCDEF".toList[n]? = some c

instance (n : Nat) (c : Char) : Decidable (Digit n c) := inferInstanceAs (Decidable (_ ∨ _))

/-- A text stands for bytes. -/
inductive StandsFor : List Char → List UInt8 → Prop
  | nil : StandsFor [] []
  | plain {c : Char} {cs : List Char} {bs : List UInt8} (h : c ≠ '%') (rest : StandsFor cs bs) :
    StandsFor (c :: cs) (String.utf8EncodeChar c ++ bs)
  | escape {hi lo : Char} {m n : Nat} {cs : List Char} {bs : List UInt8} (high : Digit m hi) (low : Digit n lo)
    (rest : StandsFor cs bs) : StandsFor ('%' :: hi :: lo :: cs) (UInt8.ofNat (16 * m + n) :: bs)

/-- Two hexadecimal digits come first. -/
def Digits (cs : List Char) : Prop :=
  ∃ hi lo rest m n, cs = hi :: lo :: rest ∧ Digit m hi ∧ Digit n lo

/-- Some percent sign is not followed by two hexadecimal digits. -/
def Broken (cs : List Char) : Prop :=
  ∃ front back, cs = front ++ '%' :: back ∧ ¬ Digits back

/-! ## Characters and bytes -/

theorem bytes_eq (s : String) : bytes s = s.toList.flatMap String.utf8EncodeChar := by
  conv_lhs => rw [← String.ofList_toList (s := s)]
  rw [bytes, String.toUTF8, String.toByteArray_ofList, List.utf8Encode, List.data_toByteArray]

theorem utf8EncodeChar_ascii {c : Char} (h : c.toNat < 128) : String.utf8EncodeChar c = [UInt8.ofNat c.toNat] := by
  have hle : c.val.toNat ≤ 127 := Nat.le_of_lt_succ h
  rw [String.utf8EncodeChar]
  simp only [if_pos hle]
  rfl

/-- No byte of a character beyond ASCII is in ASCII. -/
theorem utf8EncodeChar_large {c : Char} (h : 128 ≤ c.toNat) :
    ∃ b rest, String.utf8EncodeChar c = b :: rest ∧ ∀ x ∈ b :: rest, 128 ≤ x.toNat := by
  have hlt : ¬ c.val.toNat ≤ 127 := Nat.not_le.2 h
  rw [String.utf8EncodeChar]
  simp only [if_neg hlt]
  split
  · refine ⟨_, _, rfl, ?_⟩
    simp only [List.forall_mem_cons, UInt8.toNat_ofNat']
    exact ⟨by omega, by omega, List.forall_mem_nil _⟩
  · split <;> refine ⟨_, _, rfl, ?_⟩ <;> simp only [List.forall_mem_cons, UInt8.toNat_ofNat']
    · exact ⟨by omega, by omega, by omega, List.forall_mem_nil _⟩
    · exact ⟨by omega, by omega, by omega, by omega, List.forall_mem_nil _⟩

theorem exists_utf8EncodeChar (c : Char) : ∃ b rest, String.utf8EncodeChar c = b :: rest := by
  by_cases hc : c.toNat < 128
  · exact ⟨_, _, utf8EncodeChar_ascii hc⟩
  · obtain ⟨b, rest, heq, -⟩ := utf8EncodeChar_large (Nat.le_of_not_lt hc)
    exact ⟨b, rest, heq⟩

/-- A byte of ASCII is a character on its own. -/
theorem eq_of_mem_utf8EncodeChar {c : Char} {b : UInt8} (hb : b ∈ String.utf8EncodeChar c) (h : b.toNat < 128) :
    c.toNat = b.toNat ∧ String.utf8EncodeChar c = [b] := by
  by_cases hc : c.toNat < 128
  · have heq := utf8EncodeChar_ascii hc
    rw [heq, List.mem_singleton] at hb
    subst hb
    rw [UInt8.toNat_ofNat']
    exact ⟨by omega, heq⟩
  · obtain ⟨x, rest, heq, hlarge⟩ := utf8EncodeChar_large (Nat.le_of_not_lt hc)
    rw [heq] at hb
    exact absurd (hlarge b hb) (Nat.not_le.2 h)

theorem ne_of_mem_utf8EncodeChar {c : Char} (hc : c ≠ '%') {b : UInt8} (hb : b ∈ String.utf8EncodeChar c) : b ≠ 37 := by
  rintro rfl
  exact hc (Char.toNat_inj.1 (eq_of_mem_utf8EncodeChar hb (by decide)).1)

/-! ## Digits -/

theorem digit_of_lt {k : Nat} (h : k < 128) {d : UInt8} (hd : hexDigit? (UInt8.ofNat k) = some d) :
    Digit d.toNat (Char.ofNat k) := by
  have hall : ∀ k < 128, (hexDigit? (UInt8.ofNat k)).all (fun d => decide (Digit d.toNat (Char.ofNat k))) = true := by
    decide +kernel
  exact of_decide_eq_true ((Option.all_eq_true _ _).1 (hall k h) d hd)

theorem digits_read {digits : List Char} (hd : digits ∈ ["0123456789abcdef".toList, "0123456789ABCDEF".toList])
    {n : Nat} {c : Char} (h : digits[n]? = some c) :
    c.isAlphanum = true ∧ hexDigit? (UInt8.ofNat c.toNat) = some (UInt8.ofNat n) := by
  have hall : ∀ digits ∈ ["0123456789abcdef".toList, "0123456789ABCDEF".toList], digits.length = 16 ∧
      ∀ n < 16, digits[n]?.all
        (fun c => c.isAlphanum && decide (hexDigit? (UInt8.ofNat c.toNat) = some (UInt8.ofNat n))) = true := by
    decide +kernel
  obtain ⟨hlength, hdigits⟩ := hall digits hd
  have hn : n < 16 := hlength ▸ (List.getElem?_eq_some_iff.1 h).1
  have hc := (Option.all_eq_true _ _).1 (hdigits n hn) c h
  rw [Bool.and_eq_true] at hc
  exact ⟨hc.1, of_decide_eq_true hc.2⟩

theorem isAlphanum_iff {c : Char} : c.isAlphanum = true ↔
    (65 ≤ c.toNat ∧ c.toNat ≤ 90 ∨ 97 ≤ c.toNat ∧ c.toNat ≤ 122) ∨ 48 ≤ c.toNat ∧ c.toNat ≤ 57 := by
  show (decide (c.val ≥ 'A'.val ∧ c.val ≤ 'Z'.val) || (decide (c.val ≥ 'a'.val) && decide (c.val ≤ 'z'.val)) ||
    (decide (c.val ≥ '0'.val) && decide (c.val ≤ '9'.val))) = true ↔ _
  simp only [Bool.or_eq_true, Bool.and_eq_true, decide_eq_true_eq, ge_iff_le, UInt32.le_iff_toNat_le]
  rfl

theorem lt_of_isAlphanum {c : Char} (h : c.isAlphanum) : c.toNat < 128 := by
  have hcases := isAlphanum_iff.1 h
  omega

/-- A digit is a letter or digit of ASCII, and is read as its value. -/
theorem Digit.cases {n : Nat} {c : Char} (h : Digit n c) :
    c.isAlphanum ∧ hexDigit? (UInt8.ofNat c.toNat) = some (UInt8.ofNat n) := by
  rcases h with h | h
  · exact digits_read List.mem_cons_self h
  · exact digits_read (List.mem_cons_of_mem _ (List.mem_singleton.2 rfl)) h

theorem Digit.read {n : Nat} {c : Char} (h : Digit n c) :
    ∃ b, String.utf8EncodeChar c = [b] ∧ hexDigit? b = some (UInt8.ofNat n) :=
  ⟨_, utf8EncodeChar_ascii (lt_of_isAlphanum h.cases.1), h.cases.2⟩

theorem Digit.ne_sign {n : Nat} {c : Char} (h : Digit n c) : c ≠ '%' :=
  fun heq => absurd h.cases.1 (by rw [heq]; decide)

theorem lt_of_hexDigit? {b d : UInt8} (h : hexDigit? b = some d) : b.toNat < 128 := by
  unfold hexDigit? at h
  simp only [UInt8.le_iff_toNat_le] at h
  split at h
  · rename_i hb
    exact Nat.lt_of_le_of_lt hb.2 (by decide)
  · split at h
    · rename_i hb
      exact Nat.lt_of_le_of_lt hb.2 (by decide)
    · split at h
      · rename_i hb
        exact Nat.lt_of_le_of_lt hb.2 (by decide)
      · cases h

/-- A byte that is read as a digit is a character on its own, and that is the digit. -/
theorem digit_of_hexDigit? {b d : UInt8} (h : hexDigit? b = some d) {cs : List Char} {rest : List UInt8}
    (hcs : cs.flatMap String.utf8EncodeChar = b :: rest) :
    ∃ c cs', cs = c :: cs' ∧ Digit d.toNat c ∧ cs'.flatMap String.utf8EncodeChar = rest := by
  cases cs with
  | nil => cases hcs
  | cons c cs =>
    have hb := lt_of_hexDigit? h
    obtain ⟨x, front, hx⟩ := exists_utf8EncodeChar c
    rw [List.flatMap_cons, hx] at hcs
    obtain ⟨rfl, hrest⟩ := List.cons.inj hcs
    obtain ⟨hnat, heq⟩ := eq_of_mem_utf8EncodeChar (c := c) (hx ▸ List.mem_cons_self) hb
    have hdigit := digit_of_lt hb (by rw [UInt8.ofNat_toNat]; exact h)
    rw [← hnat, Char.ofNat_toNat] at hdigit
    rw [hx] at heq
    obtain ⟨-, rfl⟩ := List.cons.inj heq
    exact ⟨c, cs, rfl, hdigit, hrest⟩

/-! ## Decoding -/

theorem decode_cons {b : UInt8} (h : b ≠ 37) (s : List UInt8) : decode (b :: s) = (decode s).map (b :: ·) := by
  match s with
  | [] => simp [decode, h]
  | [c] =>
    by_cases hc : c = 37 <;> simp [decode, h, hc]
  | c :: d :: rest => rw [decode, if_neg h]

theorem decode_append : ∀ {front : List UInt8}, (∀ b ∈ front, b ≠ 37) → ∀ s : List UInt8,
    decode (front ++ s) = (decode s).map (front ++ ·)
  | [], _, s => by simp
  | b :: front, h, s => by
    rw [List.cons_append, decode_cons (h b List.mem_cons_self),
      decode_append (fun x hx => h x (List.mem_cons_of_mem b hx)), Option.map_map]
    rfl

/-- What follows a percent sign decides. -/
theorem decode_sign {s t : List UInt8} : decode (37 :: s) = some t ↔
    ∃ c d rest hi lo u, s = c :: d :: rest ∧ hexDigit? c = some hi ∧ hexDigit? d = some lo ∧ decode rest = some u ∧
      t = (16 * hi + lo) :: u := by
  match s with
  | [] => simp [decode]
  | [c] => simp [decode]
  | c :: d :: rest =>
    rw [decode, if_pos rfl]
    constructor
    · intro h
      split at h
      · rename_i hi lo hhi hlo
        obtain ⟨u, hu, rfl⟩ := Option.map_eq_some_iff.1 h
        exact ⟨c, d, rest, hi, lo, u, rfl, hhi, hlo, hu, rfl⟩
      · cases h
    · rintro ⟨_, _, _, hi, lo, u, heq, hhi, hlo, hu, rfl⟩
      cases heq
      simp only [hhi, hlo, hu, Option.map_some]

theorem StandsFor.decode {cs : List Char} {bs : List UInt8} (h : StandsFor cs bs) :
    Percent.decode (cs.flatMap String.utf8EncodeChar) = some bs := by
  induction h with
  | nil => rfl
  | plain hc _ ih => rw [List.flatMap_cons, decode_append fun b hb => ne_of_mem_utf8EncodeChar hc hb, ih, Option.map_some]
  | escape high low _ ih =>
    obtain ⟨c, hc, hhi⟩ := high.read
    obtain ⟨d, hd, hlo⟩ := low.read
    rw [List.flatMap_cons, List.flatMap_cons, List.flatMap_cons, hc, hd]
    refine decode_sign.2 ⟨c, d, _, _, _, _, rfl, hhi, hlo, ih, ?_⟩
    rw [UInt8.ofNat_add, UInt8.ofNat_mul]
    rfl

theorem standsFor_of_decode : ∀ {cs : List Char} {bs : List UInt8},
    Percent.decode (cs.flatMap String.utf8EncodeChar) = some bs → StandsFor cs bs
  | [], bs, h => by
    cases h
    exact .nil
  | c :: cs, bs, h => by
    by_cases hc : c = '%'
    · subst hc
      obtain ⟨x, y, rest, hi, lo, u, heq, hhi, hlo, hu, rfl⟩ := decode_sign.1 h
      obtain ⟨c, cs, rfl, high, heq⟩ := digit_of_hexDigit? hhi heq
      obtain ⟨d, cs, rfl, low, rfl⟩ := digit_of_hexDigit? hlo heq
      have hrest := StandsFor.escape high low (standsFor_of_decode hu)
      rwa [UInt8.ofNat_add, UInt8.ofNat_mul, UInt8.ofNat_toNat, UInt8.ofNat_toNat] at hrest
    · rw [List.flatMap_cons, decode_append fun b hb => ne_of_mem_utf8EncodeChar hc hb] at h
      obtain ⟨u, hu, rfl⟩ := Option.map_eq_some_iff.1 h
      exact .plain hc (standsFor_of_decode hu)

/-- **The bytes that a text is decoded to are those it stands for.** -/
theorem decode_bytes_iff {s : String} {bs : List UInt8} : decode (bytes s) = some bs ↔ StandsFor s.toList bs := by
  rw [bytes_eq]
  exact ⟨standsFor_of_decode, StandsFor.decode⟩

theorem broken_cons {c : Char} {cs : List Char} : Broken (c :: cs) ↔ c = '%' ∧ ¬ Digits cs ∨ Broken cs := by
  constructor
  · rintro ⟨front, back, heq, hback⟩
    cases front with
    | nil =>
      obtain ⟨rfl, rfl⟩ := List.cons.inj heq
      exact .inl ⟨rfl, hback⟩
    | cons x front => exact .inr ⟨front, back, (List.cons.inj heq).2, hback⟩
  · rintro (⟨rfl, hdigits⟩ | ⟨front, back, rfl, hback⟩)
    · exact ⟨[], cs, rfl, hdigits⟩
    · exact ⟨c :: front, back, rfl, hback⟩

theorem broken_digits {hi lo : Char} {m n : Nat} (high : Digit m hi) (low : Digit n lo) {cs : List Char} :
    Broken (hi :: lo :: cs) ↔ Broken cs := by
  simp only [broken_cons, high.ne_sign, low.ne_sign, false_and, false_or]

/-- **A text stands for bytes unless some percent sign is not followed by two digits.** -/
theorem exists_standsFor_iff : ∀ cs : List Char, (∃ bs, StandsFor cs bs) ↔ ¬ Broken cs
  | [] => by
    refine iff_of_true ⟨_, .nil⟩ ?_
    rintro ⟨front, back, heq, -⟩
    cases front <;> cases heq
  | c :: cs => by
    rw [broken_cons, not_or]
    by_cases hc : c = '%'
    · subst hc
      constructor
      · rintro ⟨bs, h⟩
        cases h with
        | plain hne _ => exact absurd rfl hne
        | escape high low rest =>
          refine ⟨fun h => h.2 ⟨_, _, _, _, _, rfl, high, low⟩, ?_⟩
          rw [broken_digits high low]
          exact (exists_standsFor_iff _).1 ⟨_, rest⟩
      · rintro ⟨hdigits, hrest⟩
        obtain ⟨hi, lo, rest, m, n, rfl, high, low⟩ := not_not.1 (not_and.1 hdigits rfl)
        rw [broken_digits high low] at hrest
        obtain ⟨bs, hbs⟩ := (exists_standsFor_iff rest).2 hrest
        exact ⟨_, .escape high low hbs⟩
    · constructor
      · rintro ⟨bs, h⟩
        cases h with
        | plain _ rest => exact ⟨fun h => hc h.1, (exists_standsFor_iff cs).1 ⟨_, rest⟩⟩
        | escape => exact absurd rfl hc
      · rintro ⟨-, hrest⟩
        obtain ⟨bs, hbs⟩ := (exists_standsFor_iff cs).2 hrest
        exact ⟨_, .plain hc hbs⟩

/-! ## Texts -/

theorem fromUTF8?_eq_some_iff {bs : List UInt8} {t : String} :
    String.fromUTF8? ⟨bs.toArray⟩ = some t ↔ bytes t = bs := by
  rw [String.fromUTF8?]
  constructor
  · intro h
    split at h
    · cases h
      rfl
    · cases h
  · rintro rfl
    rw [bytes, Array.toArray_toList]
    exact dif_pos t.isValidUTF8

/-- **Decoding gives a text if and only if its bytes are those that the text stands for.** -/
theorem decodeText?_eq_some_iff {s t : String} : decodeText? s = some t ↔ StandsFor s.toList (bytes t) := by
  rw [← decode_bytes_iff, decodeText?, Option.bind_eq_some_iff]
  constructor
  · rintro ⟨bs, hbs, ht⟩
    rw [fromUTF8?_eq_some_iff.1 ht]
    exact hbs
  · intro h
    exact ⟨_, h, fromUTF8?_eq_some_iff.2 rfl⟩

/-- **There is no decoding exactly if some percent sign is not followed by two digits or the bytes are no text.** -/
theorem decodeText?_eq_none_iff {s : String} : decodeText? s = none ↔
    Broken s.toList ∨ ∃ bs, StandsFor s.toList bs ∧ ∀ t, bytes t ≠ bs := by
  constructor
  · intro h
    by_cases hbroken : Broken s.toList
    · exact .inl hbroken
    · obtain ⟨bs, hbs⟩ := (exists_standsFor_iff _).2 hbroken
      refine .inr ⟨bs, hbs, ?_⟩
      rintro t rfl
      rw [decodeText?_eq_some_iff.2 hbs] at h
      cases h
  · intro h
    refine Option.eq_none_iff_forall_not_mem.2 fun t ht => ?_
    have hstands := decodeText?_eq_some_iff.1 ht
    rcases h with hbroken | ⟨bs, hbs, hno⟩
    · exact (exists_standsFor_iff _).1 ⟨_, hstands⟩ hbroken
    · have heq := decode_bytes_iff.2 hstands
      rw [decode_bytes_iff.2 hbs] at heq
      exact hno t (Option.some.inj heq).symm

theorem decodeText?_of_not_mem {s : String} (h : '%' ∉ s.toList) : decodeText? s = some s := by
  have hbytes : 37 ∉ bytes s := by
    rw [bytes_eq, List.mem_flatMap]
    rintro ⟨c, hc, hb⟩
    exact ne_of_mem_utf8EncodeChar (fun heq => h (heq ▸ hc)) hb rfl
  rw [decodeText?_eq_some_iff, ← decode_bytes_iff]
  exact decode_of_not_mem hbytes

/-! ## Escaping -/

/-- A text of ASCII letters, digits and escapes, in which every byte that is neither letter nor digit is an escape. -/
inductive Escaped : List UInt8 → List Char → Prop
  | nil : Escaped [] []
  | plain {c : Char} {bs : List UInt8} {cs : List Char} (h : c.isAlphanum) (rest : Escaped bs cs) :
    Escaped (UInt8.ofNat c.toNat :: bs) (c :: cs)
  | escape {hi lo : Char} {m n : Nat} {bs : List UInt8} {cs : List Char} (high : Digit m hi) (low : Digit n lo)
    (rest : Escaped bs cs) : Escaped (UInt8.ofNat (16 * m + n) :: bs) ('%' :: hi :: lo :: cs)

theorem Escaped.standsFor {bs : List UInt8} {cs : List Char} (h : Escaped bs cs) : StandsFor cs bs := by
  induction h with
  | nil => exact .nil
  | @plain c _ _ hc _ ih =>
    have hne : c ≠ '%' := by
      rintro rfl
      cases hc
    have hplain := StandsFor.plain hne ih
    rwa [utf8EncodeChar_ascii (lt_of_isAlphanum hc), List.singleton_append] at hplain
  | escape high low _ ih => exact .escape high low ih

theorem Escaped.chars {bs : List UInt8} {cs : List Char} (h : Escaped bs cs) : ∀ c ∈ cs, c.isAlphanum ∨ c = '%' := by
  induction h with
  | nil => exact List.forall_mem_nil _
  | plain hc _ ih => exact List.forall_mem_cons.2 ⟨.inl hc, ih⟩
  | escape high low _ ih =>
    exact List.forall_mem_cons.2 ⟨.inr rfl, List.forall_mem_cons.2 ⟨.inl high.cases.1,
      List.forall_mem_cons.2 ⟨.inl low.cases.1, ih⟩⟩⟩

/-- **What is escaped is decoded.** -/
theorem Escaped.decodeText? {s : String} {cs : List Char} (h : Escaped (bytes s) cs) :
    Percent.decodeText? (String.ofList cs) = some s := by
  rw [decodeText?_eq_some_iff, String.toList_ofList]
  exact h.standsFor

end Percent
end Courier
