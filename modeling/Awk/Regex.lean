import Awk.Regex.Footprint
import Awk.Regex.Pattern
import Awk.Regex.Search

namespace Awk
namespace Regex

/-- Reads and compiles a pattern. -/
def compile (pattern : String) (caseless : Bool) : Except RegexFault Regex :=
  match parsePattern pattern.toList caseless with
  | none => .error .malformed
  | some n => if n.fits then .ok (ofNode n) else .error .tooLarge

/-- A pattern that matches the given text and nothing else. -/
def quote (text : String) : String :=
  String.ofList (text.toList.flatMap fun c => if isMeta c then ['\\', c] else [c])

/-- Whether there is a match anywhere in a text. -/
def matchesText (re : Regex) (text : String) : Bool := re.isMatch text.toList

end Regex
end Awk
