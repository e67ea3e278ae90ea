import Awk.Number.Numeral
import Awk.Text.Class

namespace Awk

/-- A scalar.  Text that comes from outside the program is classified once, when it
arrives: if all of it reads as a number it is kept with that number and compares as
one. -/
inductive Value where
  /-- Never assigned: the empty text, and zero. -/
  | uninit
  | num (x : Double)
  | str (s : String)
  | numStr (s : String) (x : Double)
deriving Repr, Inhabited

namespace Value

/-- The blanks that may surround a number in a text. -/
def isNumericPadding (c : Char) : Bool := c == ' ' || c == '\t' || c == '\n'

/-- The number that all of a text writes, blanks around it aside. -/
def numericText? (s : String) : Option Double :=
  match Number.Numeral.scan (s.toList.dropWhile isNumericPadding) with
  | some (n, rest) => if rest.all isNumericPadding then some n.toDouble else none
  | none => none

/-- Run-time text: fields, input lines, pieces of a split, literals. -/
def ofText (s : String) : Value :=
  match numericText? s with
  | some x => .numStr s x
  | none => .str s

def ofBool (b : Bool) : Value := .num (if b then 1.0 else 0.0)

def ofNat (n : Nat) : Value := .num (Double.ofNat n)

/-- A value assigned from outside before it is first used: an integer, else a finite
number, else text. -/
def infer (s : String) : Value :=
  match Number.readExact? s.toList with
  | some x => .numStr s x
  | none => .str s

/-- The number at the start of a text after white space, zero if there is none. -/
def leadingNumber (s : String) : Double :=
  match Number.Numeral.scan (Text.trimStart s.toList) with
  | some (n, _) => n.toDouble
  | none => 0.0

def toNumber : Value → Double
  | uninit => 0.0
  | num x | numStr _ x => x
  | str s => leadingNumber s

def isTruthy : Value → Bool
  | uninit => false
  | num x | numStr _ x => !x.isZero
  | str s => !s.isEmpty

/-- Whether the value takes the numeric side of a comparison. -/
def comparesNumerically : Value → Bool
  | str _ => false
  | _ => true

end Value
end Awk
