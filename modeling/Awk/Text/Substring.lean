import Awk.Number.Double

namespace Awk
namespace Text

/-- The characters from position `start`, counted from one, up to but not including
position `stop`; those positions a text of `size` characters has. -/
def slice (start stop : Double) (size : Nat) (cs : List Char) : List Char :=
  let last := Double.ofNat size + 1.0
  let first := if start < 1.0 then 1.0 else start
  let stop := if last < stop then last else stop
  if stop ≤ first then []
  else (cs.drop (first.toNat64 - 1)).take ((stop - first).toNat64)

/-- The part of a text that starts at a position and has a length, both rounded.  The
end is found before the start is moved into the text, so a start before the text
shortens the part.  What is not a number selects nothing. -/
def substring (s : String) (start : Double) (length : Option Double) : String :=
  let start := start.round
  let size := s.length
  let stop :=
    match length with
    | some n => start + n.round
    | none => Double.ofNat size + 1.0
  if start.isNaN || stop.isNaN then ""
  else String.ofList (slice start stop size s.toList)

end Text
end Awk
