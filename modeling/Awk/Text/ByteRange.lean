import Awk.Text.CharSet

/-!
# Byte ranges

A range of code points is cut into pieces.  The UTF-8 encodings of a piece have one
length, and the bytes at each place run through a range of their own, whatever the
bytes at the other places are.
-/

namespace Awk
namespace Text

/-- The first and the last byte of a range. -/
abbrev ByteRange := Nat × Nat

/-- The bytes that encode a code point. -/
def encodingOf (n : Nat) : List Nat :=
  if n < 0x80 then [n]
  else if n < 0x800 then [0xc0 + n / 64, 0x80 + n % 64]
  else if n < 0x10000 then [0xe0 + n / 4096, 0x80 + n / 64 % 64, 0x80 + n % 64]
  else [0xf0 + n / 262144, 0x80 + n / 4096 % 64, 0x80 + n / 64 % 64, 0x80 + n % 64]

namespace CodeRange

/-- The last code points of one, two and three bytes. -/
def lastOfLength : List Nat := [0x7f, 0x7ff, 0xffff]

/-- How many code points share all but the last one, two or three bytes. -/
def blockSizes : List Nat := [64, 4096, 262144]

/-- Where a range that is not made of whole blocks is cut: behind the block in which it
starts, or else before the block in which it ends. -/
def cutAtBlock? (first last size : Nat) : Option Nat :=
  if first / size = last / size then none
  else if first % size ≠ 0 then some (first / size * size + (size - 1))
  else if last % size ≠ size - 1 then some (last / size * size - 1)
  else none

/-- The code point behind which a range is cut: where the length changes, then at
blocks, the small ones first. -/
def cutPoint? (first last : Nat) : Option Nat :=
  match lastOfLength.find? fun n => first ≤ n && n < last with
  | some n => some n
  | none => if last < 0x80 then none else blockSizes.findSome? (cutAtBlock? first last)

/-- The encodings of a range, piece by piece in ascending order.  A range is cut fewer
than sixteen times in a row. -/
def encodingsFrom : Nat → Nat → Nat → List (List ByteRange)
  | 0, _, _ => []
  | fuel + 1, first, last =>
    match cutPoint? first last with
    | some n => encodingsFrom fuel first n ++ encodingsFrom fuel (n + 1) last
    | none => [(encodingOf first).zip (encodingOf last)]

/-- The encodings of the characters in a range. -/
def encodings (r : CodeRange) : List (List ByteRange) :=
  if r.1 < 0xd800 ∧ 0xdfff < r.2 then
    encodingsFrom 16 r.1 0xd7ff ++ encodingsFrom 16 0xe000 r.2
  else encodingsFrom 16 r.1 r.2

end CodeRange

namespace CharSet

/-- The encodings of the members of a set. -/
def encodings (s : CharSet) : List (List ByteRange) := s.ranges.toList.flatMap CodeRange.encodings

end CharSet
end Text
end Awk
