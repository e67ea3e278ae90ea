import Awk.Format.Directive
import Awk.Number.Shortest

/-!
# Laying out a conversion

Sign, radix mark, digits and padding of one argument.  Zeros that fill the width
stand between the sign or mark and the digits.
-/

namespace Awk
namespace Format

/-- A conversion whose width and precision are settled. -/
structure Layout where
  left : Bool
  plus : Bool
  space : Bool
  alternate : Bool
  zero : Bool
  width : Nat
  precision : Option Nat
deriving DecidableEq, Repr

namespace Layout

/-- `mark` and `body` filled up to the width. -/
def pad (l : Layout) (mark body : List Char) (numeric : Bool) : List Char :=
  let fill := l.width - (mark.length + body.length)
  if l.left then mark ++ body ++ List.replicate fill ' '
  else if l.zero && numeric then mark ++ List.replicate fill '0' ++ body
  else List.replicate fill ' ' ++ mark ++ body

def sign (l : Layout) (negative : Bool) : List Char :=
  if negative then ['-'] else if l.plus then ['+'] else if l.space then [' '] else []

/-- At least as many digits as the precision asks for; zero with precision zero has
none. -/
def padDigits (l : Layout) (n : Nat) (digits : List Char) : List Char :=
  match l.precision with
  | none => digits
  | some p => if p = 0 ∧ n = 0 then [] else Number.zeroPad p digits

def text (l : Layout) (s : List Char) : List Char :=
  match l.precision with
  | none => l.pad [] s false
  | some p => l.pad [] (s.take p) false

/-- Infinities and what is not a number are padded with blanks only. -/
def nonFinite (l : Layout) (x : Double) (upper : Bool) : List Char :=
  let body := if x.isNaN then "nan".toList else "inf".toList
  l.pad (l.sign (x.signBit)) (if upper then body.map Char.toUpper else body) false

def signedInteger (l : Layout) (x : Double) : List Char :=
  if x.isFinite then
    let v := x.toInt64
    l.pad (l.sign (v < 0)) (l.padDigits v.natAbs (Number.digits v.natAbs)) l.precision.isNone
  else l.nonFinite x false

/-- How an unsigned integer is written. -/
inductive Radix where
  | octal | decimal | lowerHex | upperHex
deriving DecidableEq, Repr

namespace Radix

def digits (r : Radix) (n : Nat) : List Char :=
  match r with
  | octal => Nat.toDigits 8 n
  | decimal => Nat.toDigits 10 n
  | lowerHex => Nat.toDigits 16 n
  | upperHex => (Nat.toDigits 16 n).map Char.toUpper

/-- The radix mark of the alternate form.  An octal number has one unless a zero
leads it anyway. -/
def mark (r : Radix) (n : Nat) (digits : List Char) : List Char :=
  match r with
  | octal => if digits.head? = some '0' then [] else ['0']
  | decimal => []
  | lowerHex => if n = 0 then [] else ['0', 'x']
  | upperHex => if n = 0 then [] else ['0', 'X']

end Radix

/-- Truncated to 64 bits; a negative number by its two's complement. -/
def unsignedValue (x : Double) : Nat :=
  if x < 0.0 then (x.toInt64 % 0x10000000000000000).toNat else x.toNat64

def unsignedInteger (l : Layout) (r : Radix) (x : Double) : List Char :=
  if x.isFinite then
    let v := unsignedValue x
    let ds := l.padDigits v (r.digits v)
    l.pad (if l.alternate then r.mark v ds else []) ds l.precision.isNone
  else l.nonFinite x (r == .upperHex)

/-- A point even where no digit follows it, in the alternate form. -/
def closePoint (alternate : Bool) (precision : Nat) (cs : List Char) : List Char :=
  if alternate && precision == 0 then cs ++ ['.'] else cs

def fixed (d : Number.Dyadic) (precision : Nat) (alternate : Bool) : List Char :=
  closePoint alternate precision (d.fixed precision)

/-- Mark, sign and at least two digits of an exponent. -/
def exponent (e : Int) (upper : Bool) : List Char :=
  (if upper then 'E' else 'e') :: (if e < 0 then '-' else '+') ::
    Number.zeroPad 2 (Number.digits e.natAbs)

def scientific (d : Number.Dyadic) (precision : Nat) (alternate upper : Bool) : List Char :=
  let (mantissa, e) := d.scientific precision
  closePoint alternate precision mantissa ++ exponent e upper

/-- Positional while the exponent is at least `-4` and below the precision, else
scientific.  The alternate form keeps the zeros that end the fraction. -/
def general (d : Number.Dyadic) (precision : Nat) (alternate upper : Bool) : List Char :=
  let p := max precision 1
  let (mantissa, e) := d.scientific (p - 1)
  if -4 ≤ e ∧ e < p then
    let s := fixed d ((p : Int) - 1 - e).toNat alternate
    if alternate then s else Number.trimFraction s
  else if alternate then closePoint true (p - 1) mantissa ++ exponent e upper
  else Number.trimFraction mantissa ++ exponent e upper

inductive Style where
  | positional | scientific | general
deriving DecidableEq, Repr

def float (l : Layout) (style : Style) (upper : Bool) (x : Double) : List Char :=
  match x.view with
  | .finite d =>
    let precision := l.precision.getD 6
    let body :=
      match style with
      | .positional => fixed d precision l.alternate
      | .scientific => scientific d precision l.alternate upper
      | .general => general d precision l.alternate upper
    l.pad (l.sign (x < 0.0)) body true
  | _ => l.nonFinite x upper

end Layout
end Format
end Awk
