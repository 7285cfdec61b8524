import Courier.Text.Blank
/-!
# Number - unsigned decimal numbers as settings write them

A number is an optional plus sign and at least one ASCII digit, and it has to fit in 64 bits.
-/
namespace Courier
namespace Text

/-- The value of an ASCII digit. -/
def digit? (c : Char) : Option Nat :=
  if '0' ≤ c ∧ c ≤ '9' then some (c.toNat - '0'.toNat) else none

/-- The number that a run of digits continues `acc` to; absent when some character is no digit. -/
def digits? (acc : Nat) : List Char → Option Nat
  | [] => some acc
  | c :: rest =>
    match digit? c with
    | some d => digits? (10 * acc + d) rest
    | none => none

/-- A number in digits with an optional plus sign in front, of any size. -/
def natural? : List Char → Option Nat
  | [] => none
  | ['+'] => none
  | '+' :: rest => digits? 0 rest
  | s => digits? 0 s

/-- A number that fits in 64 bits. -/
def word? (s : List Char) : Option UInt64 :=
  match natural? s with
  | some n => if n < 0x10000000000000000 then some (UInt64.ofNat n) else none
  | none => none

/-- A number that fits in 64 bits, with blanks around it. -/
def paddedWord? (s : String) : Option UInt64 :=
  word? (trim s.toList)

end Text
end Courier
