import Awk.Number.Double

/-!
# Decimal digits of an exact value

`fixed` and `scientific` write the magnitude of a double with a given number of
digits.  Both round the exact binary value once, a half going to the even
neighbour.
-/

namespace Awk
namespace Number

/-- `num / den` to the nearest integer, a half to the even neighbour. -/
def roundDiv (num den : Nat) : Nat :=
  let q := num / den
  let r := num % den
  if den < 2 * r ∨ (2 * r = den ∧ q % 2 = 1) then q + 1 else q

/-- The decimal digits of a natural number. -/
def digits (n : Nat) : List Char := Nat.toDigits 10 n

/-- Zeros in front up to a width. -/
def zeroPad (width : Nat) (cs : List Char) : List Char :=
  List.replicate (width - cs.length) '0' ++ cs

/-- Writes `n / 10 ^ places` with that many digits after the point, and no point
when there are none. -/
def placePoint (n places : Nat) : List Char :=
  let cs := zeroPad (places + 1) (digits n)
  let whole := cs.take (cs.length - places)
  if places = 0 then whole else whole ++ '.' :: cs.drop (cs.length - places)

namespace Dyadic

/-- The magnitude with `places` digits after the point. -/
def fixed (d : Dyadic) (places : Nat) : List Char :=
  placePoint (roundDiv (d.numerator * Nat.pow 10 places) d.denominator) places

/-- The greatest power of ten that is at most the magnitude, for a magnitude that
is not zero.  The digit counts of numerator and denominator settle it up to
one. -/
def decimalExponent (d : Dyadic) : Int :=
  let guess : Int := ((digits d.numerator).length : Int) - (digits d.denominator).length
  let reached :=
    if 0 ≤ guess then d.denominator * Nat.pow 10 guess.toNat ≤ d.numerator
    else d.denominator ≤ d.numerator * Nat.pow 10 (-guess).toNat
  if reached then guess else guess - 1

/-- The magnitude over a power of ten, rounded to an integer. -/
def scaled (d : Dyadic) (power : Int) : Nat :=
  if 0 ≤ power then roundDiv d.numerator (d.denominator * Nat.pow 10 power.toNat)
  else roundDiv (d.numerator * Nat.pow 10 (-power).toNat) d.denominator

/-- One digit, a point, `places` digits, and the power of ten that goes with
them.  Rounding up to a power of ten moves the point. -/
def scientific (d : Dyadic) (places : Nat) : List Char × Int :=
  if d.mantissa = 0 then (placePoint 0 places, 0)
  else
    let k := d.decimalExponent
    let n := d.scaled (k - places)
    if n = Nat.pow 10 (places + 1) then (placePoint (Nat.pow 10 places) places, k + 1)
    else (placePoint n places, k)

end Dyadic

end Number
end Awk
