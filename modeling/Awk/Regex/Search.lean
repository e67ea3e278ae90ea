import Awk.Regex.Automaton

/-!
# Search

Of a regular expression records, fields and substitutions ask only that it finds the first
match at or behind a position of a text.  The matches of a whole text are found one behind
the other.
-/

namespace Awk
namespace Regex

/-- A position in a text: how many characters precede it, the last of them, and
those that follow. -/
structure Point where
  index : Nat
  before : Option Char
  rest : List Char

namespace Point

def start (text : List Char) : Point := { index := 0, before := none, rest := text }

/-- `n` characters further on. -/
def skip (p : Point) : Nat → Point
  | 0 => p
  | n + 1 =>
    match p.rest with
    | [] => p
    | c :: cs => skip { index := p.index + 1, before := some c, rest := cs } n

end Point

end Regex

/-- A regular expression that is ready for use. -/
structure Regex where
  /-- The first match at or behind a position. -/
  findFrom? : Regex.Point → Option Regex.Span
  /-- A match lies in the text that is searched. -/
  between : ∀ {p : Regex.Point} {m : Regex.Span}, findFrom? p = some m →
    m.Between p.index (p.index + p.rest.length)

namespace Regex

/-- The expression that a program matches. -/
def ofAutomaton (a : Automaton) : Regex where
  findFrom? p := a.search p.before p.index [] none p.rest
  between h :=
    Automaton.search_between (Nat.le_refl _) (fun _ ht => absurd ht List.not_mem_nil)
      (fun _ hm => by cases hm) h

def ofNode (n : Node) : Regex := ofAutomaton (.ofNode n)

/-- The first match in a text. -/
def find? (re : Regex) (text : List Char) : Option Span := re.findFrom? (.start text)

def isMatch (re : Regex) (text : List Char) : Bool := (find? re text).isSome

/-- All matches from a position on, none overlapping.  An empty match right behind
the match before it does not count; the search goes on one character further. -/
def findAllFrom (re : Regex) : Nat → Point → Option Nat → List Span
  | 0, _, _ => []
  | fuel + 1, p, last =>
    match re.findFrom? p with
    | none => []
    | some m =>
      if m.isEmpty && last == some m.stop then
        if p.rest.isEmpty then [] else findAllFrom re fuel (p.skip 1) none
      else m :: findAllFrom re fuel (p.skip (m.stop - p.index)) (some m.stop)

/-- All matches in a text, from left to right. -/
def findAll (re : Regex) (text : List Char) : List Span :=
  findAllFrom re (2 * text.length + 2) (.start text) none

/-- The first of all matches that is not empty. -/
def findNonEmptyFrom? (re : Regex) : Nat → Point → Option Nat → Option Span
  | 0, _, _ => none
  | fuel + 1, p, last =>
    match re.findFrom? p with
    | none => none
    | some m =>
      if m.isEmpty then
        if last == some m.stop then
          if p.rest.isEmpty then none else findNonEmptyFrom? re fuel (p.skip 1) none
        else findNonEmptyFrom? re fuel (p.skip (m.stop - p.index)) (some m.stop)
      else some m

def findNonEmpty? (re : Regex) (text : List Char) : Option Span :=
  findNonEmptyFrom? re (2 * text.length + 2) (.start text) none

/-- The text before each match, paired with the match, and the text behind the
last. -/
def cutAt : Nat → List Span → List Char → List (List Char × List Char) × List Char
  | _, [], text => ([], text)
  | position, m :: ms, text =>
    let gap := text.take (m.start - position)
    let rest := text.drop (m.start - position)
    let matched := rest.take (m.stop - m.start)
    let (pieces, tail) := cutAt m.stop ms (rest.drop (m.stop - m.start))
    ((gap, matched) :: pieces, tail)

def pieces (re : Regex) (text : List Char) : List (List Char × List Char) × List Char :=
  cutAt 0 (findAll re text) text

/-- The texts between matches. -/
def split (re : Regex) (text : List Char) : List (List Char) :=
  let (cut, tail) := pieces re text
  cut.map (·.1) ++ [tail]

end Regex
end Awk
