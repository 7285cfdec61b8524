/-!
# Base64 - bytes written with six bits to a character

Each four characters stand for three bytes; two or three characters at the end stand for one or two.
Padding at the end may be left out.
-/
namespace Courier
namespace Base64

/-- The six bits of a character. -/
def sextet? (b : UInt8) : Option Nat :=
  if 65 ≤ b ∧ b ≤ 90 then some (b.toNat - 65)
  else if 97 ≤ b ∧ b ≤ 122 then some (b.toNat - 71)
  else if 48 ≤ b ∧ b ≤ 57 then some (b.toNat + 4)
  else if b = 43 then some 62
  else if b = 47 then some 63
  else none

/-- The bytes of runs of six bits. -/
def join : List Nat → Option (List UInt8)
  | [] => some []
  | [_] => none
  | [a, b] => some [UInt8.ofNat (4 * a + b / 16)]
  | [a, b, c] => some [UInt8.ofNat (4 * a + b / 16), UInt8.ofNat (16 * b + c / 4)]
  | a :: b :: c :: d :: rest =>
    (join rest).map fun tail =>
      UInt8.ofNat (4 * a + b / 16) :: UInt8.ofNat (16 * b + c / 4) :: UInt8.ofNat (64 * c + d) :: tail

/-- The bytes that a text stands for. -/
def decode? (s : List UInt8) : Option (List UInt8) :=
  ((s.reverse.dropWhile (· == 61)).reverse.mapM sextet?).bind join

end Base64
end Courier
