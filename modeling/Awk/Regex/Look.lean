import Awk.Text.Derived

/-!
# Conditions on a position

A condition holds or fails between two characters and takes none.
-/

namespace Awk
namespace Regex

/-- Where a word starts or ends, by what stands on either side. -/
inductive WordEdge where
  | boundary | notBoundary | start | stop | startHalf | stopHalf
deriving DecidableEq, Repr

inductive Look where
  | textStart | textEnd
  | lineStart | lineEnd
  /-- The same with a carriage return and newline as one line end. -/
  | lineStartCrlf | lineEndCrlf
  | word (edge : WordEdge) (unicode : Bool)
deriving DecidableEq, Repr

/-- Characters of words: ASCII letters, digits and the underscore, and with Unicode
those of every script. -/
def isWordChar (unicode : Bool) (c : Char) : Bool :=
  if unicode && 0x80 ≤ c.toNat then Text.Property.word.contains c else Text.isNameChar c

namespace Look

/-- Whether the condition holds between two characters, either of which may be
missing. -/
def holds (l : Look) (before after : Option Char) : Bool :=
  match l with
  | textStart => before.isNone
  | textEnd => after.isNone
  | lineStart => before.isNone || before == some '\n'
  | lineEnd => after.isNone || after == some '\n'
  | lineStartCrlf =>
    before.isNone || before == some '\n' || (before == some '\r' && after != some '\n')
  | lineEndCrlf =>
    after.isNone || after == some '\r' || (after == some '\n' && before != some '\r')
  | word edge unicode =>
    let l := before.any (isWordChar unicode)
    let r := after.any (isWordChar unicode)
    match edge with
    | .boundary => l != r
    | .notBoundary => l == r
    | .start => !l && r
    | .stop => l && !r
    | .startHalf => !l
    | .stopHalf => !r

end Look
end Regex
end Awk
