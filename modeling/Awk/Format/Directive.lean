import Awk.Number.Numeral

/-!
# Format strings

A format is a sequence of items: characters that stand for themselves, `%%`, and
conversions.  Reading it into items does not depend on the arguments, so that a
format made of two parts has the items of both.
-/

namespace Awk
namespace Format

/-- A width or precision: absent, written, or taken from the arguments. -/
inductive Count where
  | absent
  | written (n : Nat)
  | argument
deriving DecidableEq, Repr

structure Spec where
  left : Bool
  plus : Bool
  space : Bool
  alternate : Bool
  zero : Bool
  width : Count
  precision : Count
deriving DecidableEq, Repr

namespace Spec

def plain : Spec :=
  { left := false, plus := false, space := false, alternate := false, zero := false
    width := .absent, precision := .absent }

/-- Sets the flag a character stands for. -/
def withFlag? (s : Spec) : Char → Option Spec
  | '-' => some { s with left := true }
  | '+' => some { s with plus := true }
  | ' ' => some { s with space := true }
  | '#' => some { s with alternate := true }
  | '0' => some { s with zero := true }
  | _ => none

def takeFlags (s : Spec) : List Char → Spec × List Char
  | [] => (s, [])
  | c :: cs =>
    match s.withFlag? c with
    | some s' => takeFlags s' cs
    | none => (s, c :: cs)

end Spec

/-- A width or precision is no greater than this.  Long before it a text is longer than any
memory; that padding one can fail there is not said here. -/
def maxCount : Nat := 0xffffffffffffffff

/-- The width or precision that digits write. -/
def countOf (ds : List Char) : Nat := min (Number.ofDigits ds) maxCount

/-- Digits at the start of a text, as a width or precision if there are any. -/
def takeNumber (cs : List Char) : Option Nat × List Char :=
  let ds := cs.takeWhile Number.isDigit
  (if ds.isEmpty then none else some (countOf ds), cs.dropWhile Number.isDigit)

def takeWidth : List Char → Count × List Char
  | '*' :: cs => (.argument, cs)
  | cs =>
    match takeNumber cs with
    | (some n, rest) => (.written n, rest)
    | (none, rest) => (.absent, rest)

/-- A point without digits asks for none. -/
def takePrecision : List Char → Count × List Char
  | '.' :: '*' :: cs => (.argument, cs)
  | '.' :: cs =>
    match takeNumber cs with
    | (some n, rest) => (.written n, rest)
    | (none, rest) => (.written 0, rest)
  | cs => (.absent, cs)

/-- Flags, width and precision after a percent sign. -/
def takeSpec (cs : List Char) : Spec × List Char :=
  let (flags, afterFlags) := Spec.plain.takeFlags cs
  let (width, afterWidth) := takeWidth afterFlags
  let (precision, rest) := takePrecision afterWidth
  ({ flags with width, precision }, rest)

inductive Item where
  | char (c : Char)
  /-- A complete conversion, with the text that wrote it. -/
  | conversion (spec : Spec) (letter : Char) (source : List Char)
  /-- A conversion that the end of the format cuts off. -/
  | unfinished (source : List Char)
deriving DecidableEq, Repr

/-- The first item of a format, and the rest of it. -/
def takeItem : List Char → Option (Item × List Char)
  | [] => none
  | '%' :: '%' :: cs => some (.char '%', cs)
  | '%' :: cs =>
    match takeSpec cs with
    | (spec, letter :: rest) =>
      some (.conversion spec letter ('%' :: cs.take (cs.length - rest.length)), rest)
    | (_, []) => some (.unfinished ('%' :: cs), [])
  | c :: cs => some (.char c, cs)

/-- Every item takes a character, so fuel for each of them is enough. -/
def itemsFrom : Nat → List Char → List Item
  | 0, _ => []
  | n + 1, cs =>
    match takeItem cs with
    | none => []
    | some (item, rest) => item :: itemsFrom n rest

def items (format : List Char) : List Item := itemsFrom format.length format

end Format
end Awk
