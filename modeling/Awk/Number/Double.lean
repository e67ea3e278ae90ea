/-!
# Doubles

A number of the language is a double, kept as its 64 bits.  It is not a number, an
infinity, or a sign with `mantissa * 2 ^ exponent`.  Every conversion of the language
between numbers, integers and digits is an integer computation on that view, so none
of them depends on how a machine rounds.
-/

namespace Awk

/-- A double by its bits.  What is not a number keeps a sign, which arithmetic hands
on and texts show. -/
structure Double where
  bits : UInt64
deriving DecidableEq, Repr, Inhabited

namespace Number

/-- A finite double, sign and magnitude apart so that the two zeros differ. -/
structure Dyadic where
  negative : Bool
  mantissa : Nat
  exponent : Int
deriving DecidableEq, Repr

inductive View where
  | finite (d : Dyadic)
  | infinite (negative : Bool)
  | notANumber
deriving DecidableEq, Repr

/-- The leading bit of a mantissa, which the bits of a double leave out. -/
def leadingBit : Nat := 0x10000000000000

namespace Dyadic

/-- The magnitude as a quotient of naturals. -/
def numerator (d : Dyadic) : Nat :=
  if 0 ≤ d.exponent then d.mantissa * Nat.pow 2 d.exponent.toNat else d.mantissa

def denominator (d : Dyadic) : Nat :=
  if 0 ≤ d.exponent then 1 else Nat.pow 2 (-d.exponent).toNat

/-- The whole part of the magnitude. -/
def wholePart (d : Dyadic) : Nat := d.numerator / d.denominator

/-- The integer nearest to zero from which the number differs by less than one. -/
def truncate (d : Dyadic) : Int :=
  if d.negative then -(d.wholePart : Int) else d.wholePart

def isInteger (d : Dyadic) : Bool := d.numerator % d.denominator == 0

/-- The double with this view, for a mantissa below `2 ^ 53` and an exponent of
at least `-1074` whose product stays in range. -/
def toDouble (d : Dyadic) : Double :=
  let magnitude : Nat :=
    if d.mantissa = 0 then 0
    else
      let top : Int := (d.mantissa.log2 : Int) + d.exponent
      if -1022 ≤ top then
        (top + 1023).toNat * leadingBit +
          (d.mantissa * Nat.pow 2 (52 - d.mantissa.log2) - leadingBit)
      else
        d.mantissa * Nat.pow 2 (d.exponent + 1074).toNat
  ⟨UInt64.ofNat (magnitude + if d.negative then 0x8000000000000000 else 0)⟩

end Dyadic
end Number

namespace Double

open Number

/-! ## Classes -/

/-- The sign, set for minus zero too. -/
def signBit (x : Double) : Bool := decide (0x8000000000000000 ≤ x.bits)

/-- All bits but the sign. -/
def magnitude (x : Double) : UInt64 := x.bits % 0x8000000000000000

def isNaN (x : Double) : Bool := decide (0x7ff0000000000000 < x.magnitude)

def isFinite (x : Double) : Bool := decide (x.magnitude < 0x7ff0000000000000)

def isZero (x : Double) : Bool := x.magnitude == 0

/-- Splits the bits.  A subnormal has no implicit leading bit and shares the exponent
of the smallest normal numbers. -/
def view (x : Double) : View :=
  let negative := x.signBit
  let biased : Nat := (x.magnitude >>> 52).toNat
  let fraction : Nat := (x.bits % 0x10000000000000).toNat
  if biased = 2047 then
    if fraction = 0 then .infinite negative else .notANumber
  else if biased = 0 then
    .finite { negative, mantissa := fraction, exponent := -1074 }
  else
    .finite { negative, mantissa := fraction + leadingBit, exponent := (biased : Int) - 1075 }

/-! ## Arithmetic -/

/-- The result of an operation that has none. -/
def indefinite : Double := ⟨0xfff8000000000000⟩

def infinity : Double := ⟨0x7ff0000000000000⟩

def toFloat (x : Double) : Float := Float.ofBits x.bits

def ofFloat (x : Float) : Double :=
  let r : Double := ⟨x.toBits⟩
  if r.isNaN then indefinite else r

/-- Applies a function.  Where the result is not a number and the argument is not
either, it is the argument. -/
def map (f : Float → Float) (x : Double) : Double :=
  let r := ofFloat (f x.toFloat)
  if r.isNaN && x.isNaN then x else r

/-- Applies a function of two numbers.  Where the result is not a number, it is the
first argument that is not. -/
def map₂ (f : Float → Float → Float) (x y : Double) : Double :=
  let r := ofFloat (f x.toFloat y.toFloat)
  if r.isNaN then if x.isNaN then x else if y.isNaN then y else r
  else r

instance : OfScientific Double := ⟨fun m s e => ofFloat (OfScientific.ofScientific m s e)⟩

def ofNat (n : Nat) : Double := ofFloat (Float.ofNat n)

def ofInt (n : Int) : Double := ofFloat (Float.ofInt n)

/-- Changes the sign, also of what is not a number. -/
def neg (x : Double) : Double := ⟨x.bits ^^^ 0x8000000000000000⟩

def abs (x : Double) : Double := ⟨x.magnitude⟩

instance : Neg Double := ⟨neg⟩
instance : Add Double := ⟨map₂ Float.add⟩
instance : Sub Double := ⟨map₂ Float.sub⟩
instance : Mul Double := ⟨map₂ Float.mul⟩
instance : Div Double := ⟨map₂ Float.div⟩

def pow (x y : Double) : Double := map₂ Float.pow x y

/-! ## Order -/

/-- Orders all doubles: by value, minus zero before zero, and what is not a number
beyond the infinities. -/
def orderKey (x : Double) : UInt64 :=
  if x.signBit then 0xffffffffffffffff - x.bits else x.bits + 0x8000000000000000

/-- By value; the zeros are equal, and what is not a number is not comparable. -/
def lt (x y : Double) : Bool :=
  !x.isNaN && !y.isNaN && !(x.isZero && y.isZero) && decide (x.orderKey < y.orderKey)

def le (x y : Double) : Bool := !x.isNaN && !y.isNaN && !lt y x

instance : LT Double := ⟨fun x y => lt x y = true⟩
instance : LE Double := ⟨fun x y => le x y = true⟩
instance (x y : Double) : Decidable (x < y) := inferInstanceAs (Decidable (lt x y = true))
instance (x y : Double) : Decidable (x ≤ y) := inferInstanceAs (Decidable (le x y = true))

/-- Doubles by value, or nothing when one of them is not a number. -/
def compare? (x y : Double) : Option Ordering :=
  if x.isNaN || y.isNaN then none
  else if x < y then some .lt
  else if y < x then some .gt
  else some .eq

/-! ## Integers -/

/-- Truncation toward zero, clamped to `lo` and `hi`.  What is not a number
becomes zero. -/
def toIntWithin (lo hi : Int) (x : Double) : Int :=
  match x.view with
  | .notANumber => 0
  | .infinite negative => if negative then lo else hi
  | .finite d => max lo (min hi d.truncate)

def toInt64 (x : Double) : Int := x.toIntWithin (-0x8000000000000000) 0x7fffffffffffffff

def toNat64 (x : Double) : Nat := (x.toIntWithin 0 0xffffffffffffffff).toNat

/-- A natural number below `2 ^ 53` with a sign, so that `-0` keeps its own. -/
private def signed (negative : Bool) (n : Nat) : Double :=
  Dyadic.toDouble { negative, mantissa := n, exponent := 0 }

/-- Drops the fraction.  Numbers of large magnitude have none. -/
def truncate (x : Double) : Double :=
  match x.view with
  | .finite d => if 0 ≤ d.exponent then x else signed d.negative d.wholePart
  | _ => x

/-- The nearest integer, halves away from zero. -/
def round (x : Double) : Double :=
  match x.view with
  | .finite d =>
    if 0 ≤ d.exponent then x
    else signed d.negative ((2 * d.numerator + d.denominator) / (2 * d.denominator))
  | _ => x

/-- The remainder of truncated division, with the sign of the dividend.  It is
exact: both operands are multiples of the smaller of their two powers of two. -/
def remainder (x y : Double) : Double :=
  match x.view, y.view with
  | .finite a, .finite b =>
    if b.mantissa = 0 then indefinite
    else
      let e := min a.exponent b.exponent
      let m := a.mantissa * Nat.pow 2 (a.exponent - e).toNat
      let n := b.mantissa * Nat.pow 2 (b.exponent - e).toNat
      Dyadic.toDouble { negative := a.negative, mantissa := m % n, exponent := e }
  | .finite _, .infinite _ => x
  | .notANumber, _ => x
  | _, .notANumber => y
  | .infinite _, _ => indefinite

end Double
end Awk
