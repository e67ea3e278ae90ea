import Awk.Regex

/-!
# Substitution

In a replacement `&` stands for the text that matched, and a backslash makes an
ampersand or another backslash stand for itself.
-/

namespace Awk
namespace Substitution

def expand (matched : List Char) : List Char → List Char
  | [] => []
  | '\\' :: '&' :: cs => '&' :: expand matched cs
  | '\\' :: '\\' :: cs => '\\' :: expand matched cs
  | '&' :: cs => matched ++ expand matched cs
  | c :: cs => c :: expand matched cs

/-- Puts the pieces of a text together again, each match replaced. -/
def rebuild (replacement : List Char) (cut : List (List Char × List Char)) (tail : List Char) :
    List Char :=
  match cut with
  | [] => tail
  | (gap, matched) :: cut => gap ++ expand matched replacement ++ rebuild replacement cut tail

/-- The matches to be replaced: all of them, or only the first. -/
def chosen (re : Regex) (everywhere : Bool) (text : List Char) : List Regex.Span :=
  if everywhere then re.findAll text else (re.find? text).toList

/-- The text after substitution, and the number of matches replaced. -/
def substitute (re : Regex) (everywhere : Bool) (text replacement : String) : String × Nat :=
  let spans := chosen re everywhere text.toList
  let (cut, tail) := Regex.cutAt 0 spans text.toList
  (String.ofList (rebuild replacement.toList cut tail), spans.length)

end Substitution
end Awk
