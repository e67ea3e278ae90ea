namespace Awk
namespace Text

/-- The pieces of a text between the characters of a class.  There is always one
more piece than there are such characters. -/
def splitBy (p : Char → Bool) : List Char → List (List Char)
  | [] => [[]]
  | c :: cs =>
    if p c then [] :: splitBy p cs
    else
      match splitBy p cs with
      | [] => [[c]]
      | piece :: pieces => (c :: piece) :: pieces

/-- The characters of a text one by one. -/
def characters (cs : List Char) : List (List Char) := cs.map fun c => [c]

/-- Where a word first occurs in a text, counted in characters. -/
def indexOf? (word : List Char) : List Char → Option Nat
  | [] => if word.isEmpty then some 0 else none
  | c :: cs =>
    if word.isPrefixOf (c :: cs) then some 0 else (indexOf? word cs).map (· + 1)

/-- Replaces every occurrence of a word that is not empty, from the left.  Fuel for
each character is enough. -/
def replaceFrom (word replacement : List Char) : Nat → List Char → List Char
  | 0, cs => cs
  | _ + 1, [] => []
  | fuel + 1, c :: cs =>
    if word.isPrefixOf (c :: cs) then
      replacement ++ replaceFrom word replacement fuel ((c :: cs).drop word.length)
    else c :: replaceFrom word replacement fuel cs

def replace (word replacement cs : List Char) : List Char :=
  replaceFrom word replacement (cs.length + 1) cs

end Text
end Awk
