import Awk.Number.Decimal

/-!
# Shortest decimal text

`plain` writes the fewest digits that read back as the same double, in positional
notation at every magnitude.
-/

namespace Awk
namespace Number

namespace Dyadic

/-- Both ends of the interval of reals that round to this double, as numerators
over four times the denominator.  Below a power of two the gap to the next
smaller double is half as wide. -/
def neighbourhood (d : Dyadic) : Nat × Nat :=
  let unit := d.numerator / d.mantissa
  let below := if d.mantissa = 0x10000000000000 ∧ -1074 < d.exponent then unit else 2 * unit
  (4 * d.numerator - below, 4 * d.numerator + 2 * unit)

/-- Whether `n * 10 ^ power` rounds to this double.  The ends of the interval
belong to it when the mantissa is even. -/
def readsBack (d : Dyadic) (n : Nat) (power : Int) : Bool :=
  let (low, high) := d.neighbourhood
  let num := if 0 ≤ power then n * Nat.pow 10 power.toNat else n
  let den := if 0 ≤ power then 1 else Nat.pow 10 (-power).toNat
  let point := num * 4 * d.denominator
  if d.mantissa % 2 = 0 then decide (low * den ≤ point ∧ point ≤ high * den)
  else decide (low * den < point ∧ point < high * den)

/-- The magnitude over a power of ten, rounded down, and whether at least a half was
cut off. -/
def scaledDown (d : Dyadic) (power : Int) : Nat × Bool :=
  let num := if 0 ≤ power then d.numerator else d.numerator * Nat.pow 10 (-power).toNat
  let den := if 0 ≤ power then d.denominator * Nat.pow 10 power.toNat else d.denominator
  (num / den, den ≤ 2 * (num % den))

/-- The coarsest decimal grid that holds a number rounding to this double, tried
from `power` downward, and the nearest such number on it.  Of two that are equally
near the greater is taken. -/
def shortestFrom (d : Dyadic) : Nat → Int → Nat × Int
  | 0, power => (d.scaled power, power)
  | fuel + 1, power =>
    let (n, atLeastHalf) := d.scaledDown power
    let fits := d.readsBack n power
    if d.readsBack (n + 1) power ∧ (atLeastHalf ∨ ¬fits) then (n + 1, power)
    else if fits then (n, power)
    else shortestFrom d fuel (power - 1)

/-- Seventeen digits always suffice. -/
def shortest (d : Dyadic) : Nat × Int := d.shortestFrom 17 d.decimalExponent

end Dyadic

/-- Drops the zeros that end a fraction, and the point when nothing follows it. -/
def trimFraction (cs : List Char) : List Char :=
  if cs.contains '.' then
    let kept := cs.reverse.dropWhile (· == '0')
    (if kept.head? = some '.' then kept.tail else kept).reverse
  else cs

/-- The text of a number in messages. -/
def plain (x : Double) : String :=
  match x.view with
  | .notANumber => "NaN"
  | .infinite negative => if negative then "-inf" else "inf"
  | .finite d =>
    let body :=
      if d.mantissa = 0 then ['0']
      else
        let (n, power) := d.shortest
        if 0 ≤ power then digits (n * Nat.pow 10 power.toNat)
        else trimFraction (placePoint n (-power).toNat)
    String.ofList (if d.negative then '-' :: body else body)

end Number
end Awk
