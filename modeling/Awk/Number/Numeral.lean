import Awk.Number.Double

/-!
# Numerals

A numeral is an optional sign, digits with an optional point among them, and an
optional exponent.  `scan` takes the longest one at the start of a text; an
exponent mark without digits is not part of it.
-/

namespace Awk
namespace Number

def isDigit (c : Char) : Bool := '0' ≤ c && c ≤ '9'

/-- The number a run of digits writes. -/
def ofDigits (cs : List Char) : Nat :=
  cs.foldl (fun n c => 10 * n + (c.toNat - '0'.toNat)) 0

structure Numeral where
  negative : Bool
  whole : List Char
  fraction : List Char
  exponent : Int
deriving DecidableEq, Repr

namespace Numeral

/-- A leading sign and what follows it. -/
def takeSign : List Char → Bool × List Char
  | '+' :: cs => (false, cs)
  | '-' :: cs => (true, cs)
  | cs => (false, cs)

/-- The exponent at the start of a text, zero when there is none. -/
def takeExponent : List Char → Int × List Char
  | [] => (0, [])
  | c :: cs =>
    if c = 'e' ∨ c = 'E' then
      let (negative, body) := takeSign cs
      let ds := body.takeWhile isDigit
      if ds.isEmpty then (0, c :: cs)
      else
        let n : Int := ofDigits ds
        (if negative then -n else n, body.dropWhile isDigit)
    else (0, c :: cs)

/-- The digits after a point, if a point comes next. -/
def takeFraction : List Char → List Char × List Char
  | '.' :: cs => (cs.takeWhile isDigit, cs.dropWhile isDigit)
  | cs => ([], cs)

/-- The longest numeral at the start of a text, and the rest of the text. -/
def scan (cs : List Char) : Option (Numeral × List Char) :=
  let (negative, body) := takeSign cs
  let whole := body.takeWhile isDigit
  let (fraction, afterFraction) := takeFraction (body.dropWhile isDigit)
  if whole.isEmpty && fraction.isEmpty then none
  else
    let (exponent, rest) := takeExponent afterFraction
    some ({ negative, whole, fraction, exponent }, rest)

/-- How many characters the longest numeral at the start of a text has. -/
def prefixLength (cs : List Char) : Nat :=
  match scan cs with
  | some (_, rest) => cs.length - rest.length
  | none => 0

/-- The numeral a whole text writes. -/
def ofText? (cs : List Char) : Option Numeral :=
  match scan cs with
  | some (n, []) => some n
  | _ => none

/-- Digits as one integer, and the power of ten that scales it. -/
def significand (n : Numeral) : Nat := ofDigits (n.whole ++ n.fraction)

def scale (n : Numeral) : Int := n.exponent - n.fraction.length

/-- The nearest double.  Magnitudes far outside the range of doubles are settled
by the number of digits alone, so that no exponent is too large to read. -/
def magnitude (n : Numeral) : Double :=
  let m := n.significand
  if m = 0 then 0.0
  else
    let top : Int := (m.log2 : Int) * 30103 / 100000 + n.scale
    if 310 < top then .infinity
    else if top < -330 then 0.0
    else if 0 ≤ n.scale then .ofFloat (Float.ofScientific m false n.scale.toNat)
    else .ofFloat (Float.ofScientific m true (-n.scale).toNat)

def toDouble (n : Numeral) : Double :=
  if n.negative then -n.magnitude else n.magnitude

/-- A sign and digits alone, as an integer. -/
def toInt? (n : Numeral) (cs : List Char) : Option Int :=
  if cs.contains '.' || cs.contains 'e' || cs.contains 'E' then none
  else
    let m : Int := ofDigits n.whole
    some (if n.negative then -m else m)

end Numeral

/-- Reads a text that is a numeral as a whole. -/
def read? (cs : List Char) : Option Double := (Numeral.ofText? cs).map (·.toDouble)

/-- Reads a 64-bit signed integer, or failing that a double that is finite.  An
integer has no minus zero. -/
def readExact? (cs : List Char) : Option Double :=
  match Numeral.ofText? cs with
  | none => none
  | some n =>
    match n.toInt? cs with
    | some i =>
      if -0x8000000000000000 ≤ i ∧ i < 0x8000000000000000 then some (Double.ofInt i)
      else finite? n.toDouble
    | none => finite? n.toDouble
where
  finite? (x : Double) : Option Double := if x.isFinite then some x else none

end Number
end Awk
