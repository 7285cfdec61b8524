import Courier.Double
import Courier.Decimal.Shortest
/-!
# Text - the written form of a double-precision number

The fewest digits that read back are written: in positions with at least one digit after the point for
numbers from 0.0001 up to 10^16, and with an exponent outside.
-/
namespace Courier
namespace Double

/-- The digits of the shortest decimal, without zeros at their end, and the power of ten of the first. -/
def shortestDigits (x : Double) : List Char × Int :=
  let d := Decimal.shortest x.significand x.exponent (x.fraction = 0 && 1 < x.biased)
  let ds := Nat.toDigits 10 d.digits
  ((ds.reverse.dropWhile (· == '0')).reverse, d.exponent + ds.length - 1)

/-- Digits in positions, the first one standing for `10 ^ first`. -/
def positional (ds : List Char) (first : Int) : List Char :=
  if first < 0 then
    '0' :: '.' :: List.replicate (-first - 1).toNat '0' ++ ds
  else
    let whole := first.toNat + 1
    let head := ds.take whole ++ List.replicate (whole - ds.length) '0'
    let rest := ds.drop whole
    head ++ '.' :: if rest.isEmpty then ['0'] else rest

def scientific (ds : List Char) (first : Int) : List Char :=
  let mantissa := match ds with
    | [] => []
    | d :: [] => [d]
    | d :: rest => d :: '.' :: rest
  mantissa ++ 'e' :: (toString first).toList

/-- A finite number without its sign. -/
def magnitude (x : Double) : List Char :=
  if x.significand = 0 then "0.0".toList
  else
    let (ds, first) := x.shortestDigits
    if -4 ≤ first ∧ first < 16 then positional ds first else scientific ds first

def text (x : Double) : String :=
  if x.isNaN then "NaN"
  else
    let sign := if x.isNegative then ['-'] else []
    String.ofList (sign ++ if x.isFinite then x.magnitude else "inf".toList)

end Double
end Courier
