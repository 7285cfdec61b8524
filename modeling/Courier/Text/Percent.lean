/-!
# Percent - bytes written as a percent sign and two hexadecimal digits

Every other byte stands for itself.  Main statement: a text without a percent sign is its own decoding.
-/
namespace Courier
namespace Percent

/-- The value of a hexadecimal digit. -/
def hexDigit? (b : UInt8) : Option UInt8 :=
  if 48 ≤ b ∧ b ≤ 57 then some (b - 48)
  else if 65 ≤ b ∧ b ≤ 70 then some (b - 55)
  else if 97 ≤ b ∧ b ≤ 102 then some (b - 87)
  else none

/-- The bytes that a text stands for, unless two digits are missing after some percent sign. -/
def decode : List UInt8 → Option (List UInt8)
  | [] => some []
  | [b] => if b = 37 then none else some [b]
  | [b, c] => if b = 37 ∨ c = 37 then none else some [b, c]
  | b :: c :: d :: rest =>
    if b = 37 then
      match hexDigit? c, hexDigit? d with
      | some hi, some lo => (decode rest).map ((16 * hi + lo) :: ·)
      | _, _ => none
    else (decode (c :: d :: rest)).map (b :: ·)

/-- The text that a text stands for, if its bytes are text again. -/
def decodeText? (s : String) : Option String :=
  (decode s.toUTF8.data.toList).bind fun bytes => String.fromUTF8? ⟨bytes.toArray⟩

/-- The text that a text stands for, and the text itself if it stands for none. -/
def decodeOrKeep (s : String) : String :=
  (decodeText? s).getD s

theorem decode_of_not_mem {s : List UInt8} (h : 37 ∉ s) : decode s = some s := by
  fun_induction decode s <;> grind

end Percent
end Courier
