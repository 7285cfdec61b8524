import Courier.Header
import Courier.Proofs.Text.Percent
/-!
# Bytes - texts as the bytes that stand for them

A text is the only one with its bytes.  Main statement: a value counts as text if and only if it is the bytes of one
with nothing but visible ASCII, blanks and tabs (`Header.text?_eq_some_iff`).
-/
namespace Courier
namespace Text

theorem fromUTF8?_eq_some_iff {value : ByteArray} {text : String} :
    String.fromUTF8? value = some text ↔ value = text.toUTF8 := by
  have h : String.fromUTF8? ⟨value.data.toList.toArray⟩ = some text ↔ Percent.bytes text = value.data.toList :=
    Percent.fromUTF8?_eq_some_iff
  rw [Array.toArray_toList] at h
  rw [h, Percent.bytes, Array.toList_inj, eq_comm, ByteArray.ext_iff]

theorem toList_loop (b : ByteArray) (i : Nat) (r : List UInt8) :
    ByteArray.toList.loop b i r = r.reverse ++ b.data.toList.drop i := by
  fun_induction ByteArray.toList.loop b i r with
  | case1 i r h ih =>
    have hi : i < b.data.toList.length := by simpa using h
    have hget : b.get! i = b.data.toList[i] := getElem!_pos b.data i (by simpa using h)
    rw [ih, List.drop_eq_getElem_cons hi, List.reverse_cons, List.append_assoc, List.singleton_append, hget]
  | case2 i r h =>
    have hi : b.data.toList.length ≤ i := by simpa using h
    rw [List.drop_eq_nil_of_le hi, List.append_nil]

theorem toList_eq (b : ByteArray) : b.toList = b.data.toList := toList_loop b 0 []

end Text

namespace Header

/-- A visible character of ASCII, a blank or a tab. -/
def IsTextChar (c : Char) : Prop := 32 ≤ c.toNat ∧ c.toNat < 127 ∨ c.toNat = 9

instance (c : Char) : Decidable (IsTextChar c) := inferInstanceAs (Decidable (_ ∨ _))

theorem isTextChar_of_isAlphanum {c : Char} (h : c.isAlphanum) : IsTextChar c := by
  have hcases := Percent.isAlphanum_iff.1 h
  unfold IsTextChar
  omega

theorem isTextByte_iff {b : UInt8} : isTextByte b = true ↔ 32 ≤ b.toNat ∧ b.toNat < 127 ∨ b.toNat = 9 := by
  simp [isTextByte, UInt8.le_iff_toNat_le, UInt8.lt_iff_toNat_lt, ← UInt8.toNat_inj]

/-- A character counts as text just where all of its bytes do. -/
theorem isTextByte_utf8EncodeChar {c : Char} :
    (∀ b ∈ String.utf8EncodeChar c, isTextByte b = true) ↔ IsTextChar c := by
  by_cases hc : c.toNat < 128
  · have hbyte : (UInt8.ofNat c.toNat).toNat = c.toNat := UInt8.toNat_ofNat_of_lt' (Nat.lt_trans hc (by decide))
    rw [Percent.utf8EncodeChar_ascii hc, List.forall_mem_singleton, isTextByte_iff, hbyte, IsTextChar]
  · obtain ⟨b, rest, hbytes, hlarge⟩ := Percent.utf8EncodeChar_large (Nat.le_of_not_lt hc)
    have hb := hlarge b List.mem_cons_self
    rw [hbytes, List.forall_mem_cons, isTextByte_iff, IsTextChar]
    omega

theorem all_isTextByte_iff {s : String} :
    s.toUTF8.toList.all isTextByte = true ↔ ∀ c ∈ s.toList, IsTextChar c := by
  have hbytes : s.toUTF8.toList = s.toList.flatMap String.utf8EncodeChar := by
    rw [Text.toList_eq]
    exact Percent.bytes_eq s
  simp only [hbytes, List.all_eq_true, List.forall_mem_flatMap, isTextByte_utf8EncodeChar]

theorem text?_eq_some_iff {value : ByteArray} {s : String} :
    text? value = some s ↔ value = s.toUTF8 ∧ ∀ c ∈ s.toList, IsTextChar c := by
  simp only [text?, Option.ite_none_right_eq_some, Text.fromUTF8?_eq_some_iff]
  constructor
  · rintro ⟨hall, rfl⟩
    exact ⟨rfl, all_isTextByte_iff.1 hall⟩
  · rintro ⟨rfl, hall⟩
    exact ⟨all_isTextByte_iff.2 hall, rfl⟩

end Header
end Courier
