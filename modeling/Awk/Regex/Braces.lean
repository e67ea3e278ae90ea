import Awk.Number.Numeral

/-!
# Stray braces

In a pattern of the language a brace that does not enclose the bounds of a
repetition stands for itself.  `escapeStray` writes a backslash before each of
them and changes nothing else.
-/

namespace Awk
namespace Regex
namespace Braces

/-- Whether what follows an opening brace is `n}`, `n,}` or `n,m}`. -/
def closesInterval (cs : List Char) : Bool :=
  let rest := cs.dropWhile Number.isDigit
  !(cs.takeWhile Number.isDigit).isEmpty &&
    match rest with
    | ',' :: more => (more.dropWhile Number.isDigit).head? == some '\x7d'
    | c :: _ => c == '\x7d'
    | [] => false

/-- Where a scan of a pattern stands: outside brackets, inside them, or inside the
braces of a repetition. -/
inductive Mode where
  | plain | bracket | interval
deriving DecidableEq, Repr

def escapeFrom : Mode → List Char → List Char
  | _, [] => []
  | mode, c :: cs =>
    if c = '\\' then
      match cs with
      | [] => ['\\']
      | e :: rest => '\\' :: e :: escapeFrom mode rest
    else
      match mode with
      | .bracket => c :: escapeFrom (if c = ']' then .plain else .bracket) cs
      | .interval => c :: escapeFrom (if c = '\x7d' then .plain else .interval) cs
      | .plain =>
        if c = '[' then
          -- a closing bracket right behind the opening is a member
          match cs with
          | '^' :: ']' :: rest => '[' :: '^' :: ']' :: escapeFrom .bracket rest
          | '^' :: rest => '[' :: '^' :: escapeFrom .bracket rest
          | ']' :: rest => '[' :: ']' :: escapeFrom .bracket rest
          | rest => '[' :: escapeFrom .bracket rest
        else if c = '\x7b' then
          if closesInterval cs then '\x7b' :: escapeFrom .interval cs
          else '\\' :: '\x7b' :: escapeFrom .plain cs
        else if c = '\x7d' then '\\' :: '\x7d' :: escapeFrom .plain cs
        else c :: escapeFrom .plain cs

end Braces

def escapeStray (pattern : String) : String :=
  String.ofList (Braces.escapeFrom .plain pattern.toList)

end Regex
end Awk
