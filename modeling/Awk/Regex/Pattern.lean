import Awk.Error
import Awk.Number.Numeral
import Awk.Regex.Bracket
import Awk.Regex.Node

/-!
# Reading patterns

A pattern is read from left to right with a stack of open groups.  Flags set
inside a group hold until it closes, in all alternatives that follow.  There are
no back references and no conditions on text before or behind.
-/

namespace Awk
namespace Regex

open Text (CharSet)

/-- One item of a sequence: an expression with its depth, or a change of flags, which
cannot be repeated. -/
inductive Item where
  | node (n : Node) (depth : Nat)
  | flags

namespace Item

def node? : Item → Option Node
  | node n _ => some n
  | flags => none

def depth : Item → Nat
  | node _ d => d
  | flags => 0

end Item

/-- An open group: the alternatives and items read before it, in reverse, its number if
it has one, and the flags to return to. -/
structure Frame where
  alternatives : List (Node × Nat)
  items : List Item
  index : Option Nat
  flags : Flags

structure PatternState where
  rest : List Char
  flags : Flags
  alternatives : List (Node × Nat)
  items : List Item
  stack : List Frame
  names : List (List Char)
  /-- How many numbered groups have been opened. -/
  groups : Nat

/-- Items in reverse order as one expression.  Several items are a level of their
own. -/
def joinItems (items : List Item) : Node × Nat :=
  let deepest := items.foldl (fun d i => max d i.depth) 0
  let depth := if items.length ≤ 1 then deepest else deepest + 1
  (Node.sequence (items.reverse.filterMap Item.node?), depth)

/-- Alternatives in reverse order as one expression. -/
def joinAlternatives (alternatives : List (Node × Nat)) : Node × Nat :=
  match alternatives with
  | [a] => a
  | alternatives =>
    (Node.choice (alternatives.reverse.map (·.1)),
      alternatives.foldl (fun d a => max d a.2) 0 + 1)

/-- A letter or underscore starts the name of a group; digits, points and brackets may
follow. -/
def isGroupNameChar (first : Bool) (c : Char) : Bool :=
  c == '_' || Text.isAlphabetic c ||
    (!first && (c == '.' || c == '[' || c == ']' || (Text.category c).isNumber))

def takeGroupName (names : List (List Char)) (cs : List Char) : Option (List Char × List Char) :=
  let name := cs.takeWhile (· != '>')
  match name, cs.dropWhile (· != '>') with
  | c :: more, _ :: rest =>
    if isGroupNameChar true c && more.all (isGroupNameChar false) && !names.contains name then
      some (name, rest)
    else none
  | _, _ => none

/-- Flag letters up to a colon or closing parenthesis.  A hyphen turns off what
follows it; nothing may be said twice. -/
def takeFlags : List Char → Flags → Bool → List Char → Option ((Flags × Char × Bool) × List Char)
  | _, _, _, [] => none
  | seen, f, negated, c :: cs =>
    if c = ':' ∨ c = ')' then
      if seen.head? = some '-' then none else some ((f, c, seen.isEmpty), cs)
    else if seen.contains c then none
    else if c = '-' then takeFlags (c :: seen) f true cs
    else
      match f.set? c (!negated) with
      | some f => takeFlags (c :: seen) f negated cs
      | none => none

namespace PatternState

def close (s : PatternState) : Node × Nat :=
  joinAlternatives (joinItems s.items :: s.alternatives)

/-- Opens a group whose contents are read with the given flags. -/
def openGroup (s : PatternState) (index : Option Nat) (flags : Flags) (rest : List Char) :
    PatternState :=
  { s with
    rest, flags, alternatives := [], items := []
    stack := { alternatives := s.alternatives, items := s.items, index, flags := s.flags } ::
      s.stack }

/-- Opens a numbered group. -/
def openNumbered (s : PatternState) (rest : List Char) : PatternState :=
  { s with groups := s.groups + 1 }.openGroup (some (s.groups + 1)) s.flags rest

/-- What follows an opening parenthesis. -/
def takeGroup (s : PatternState) (cs : List Char) : Option PatternState :=
  let cs := s.flags.skip cs
  let named (rest : List Char) : Option PatternState := do
    let (name, rest) ← takeGroupName s.names rest
    return { s with names := name :: s.names }.openNumbered rest
  match cs with
  | '?' :: '=' :: _ | '?' :: '!' :: _ => none
  | '?' :: '<' :: '=' :: _ | '?' :: '<' :: '!' :: _ => none
  | '?' :: 'P' :: '<' :: rest => named rest
  | '?' :: '<' :: rest => named rest
  | '?' :: rest =>
    match takeFlags [] s.flags false rest with
    | none => none
    | some ((flags, stop, isEmpty), rest) =>
      if stop = ')' then
        if isEmpty then none else some { s with rest, flags, items := .flags :: s.items }
      else some (s.openGroup none flags rest)
  | cs => some (s.openNumbered cs)

def closeGroup (s : PatternState) (rest : List Char) : Option PatternState :=
  match s.stack with
  | [] => none
  | frame :: stack =>
    let (n, d) := s.close
    let n := match frame.index with
      | some i => .group i n
      | none => n
    some { s with
      rest, flags := frame.flags, alternatives := frame.alternatives
      items := .node n (d + 1) :: frame.items, stack }

/-- A question mark behind a repetition makes it prefer fewer. -/
def takeLazy (f : Flags) : List Char → Bool × List Char
  | '?' :: cs => (f.swapGreed, cs)
  | cs => (!f.swapGreed, cs)

/-- Repeats the last item. -/
def repeatLast (s : PatternState) (least : Nat) (most : Option Nat) (greedy : Bool)
    (rest : List Char) : Option PatternState :=
  match s.items with
  | .node n d :: items =>
    some { s with rest, items := .node (n.repeated least most greedy) (d + 1) :: items }
  | _ => none

def repeatSimple (s : PatternState) (least : Nat) (most : Option Nat) (cs : List Char) :
    Option PatternState :=
  let (greedy, rest) := takeLazy s.flags cs
  s.repeatLast least most greedy rest

/-- Digits, with what a verbose pattern skips behind each. -/
def takeDigits (f : Flags) : Nat → List Char → List Char × List Char
  | 0, cs => ([], cs)
  | _ + 1, [] => ([], [])
  | fuel + 1, c :: cs =>
    if Number.isDigit c then
      let (ds, rest) := takeDigits f fuel (f.skip cs)
      (c :: ds, rest)
    else ([], c :: cs)

/-- Digits with blanks around them; the bound of a repetition fits in 32 bits. -/
def takeBound (f : Flags) (cs : List Char) : Option Nat × List Char :=
  let (ds, rest) := takeDigits f cs.length (cs.dropWhile Text.isWhiteSpace)
  let n := Number.ofDigits ds
  (if ds.isEmpty || 0x100000000 ≤ n then none else some n, rest.dropWhile Text.isWhiteSpace)

/-- A repetition in braces: `n`, `n,` or `n,m`. -/
def repeatBounded (s : PatternState) (cs : List Char) : Option PatternState := do
  let (least?, rest) := takeBound s.flags (s.flags.skip cs)
  let least ← least?
  let (most, rest) ←
    match rest with
    | ',' :: rest =>
      match s.flags.skip rest with
      | '\x7d' :: rest => some (none, '\x7d' :: rest)
      | rest =>
        let (m?, rest) := takeBound s.flags rest
        m?.map fun m => (some m, rest)
    | rest => some (some least, rest)
  match rest with
  | '\x7d' :: rest =>
    let (greedy, rest) := takeLazy s.flags (s.flags.skip rest)
    if least ≤ most.getD least then s.repeatLast least most greedy rest else none
  | _ => none

def push (s : PatternState) (n : Node) (depth : Nat) (rest : List Char) : PatternState :=
  { s with rest, items := .node n depth :: s.items }

/-- The expression of an atom outside brackets. -/
def atomNode? (f : Flags) : Atom → Option Node
  | .look l => some (.look l)
  | .set s => some (.ofSet s !f.unicode)
  | .char c byte =>
    if !f.unicode && byte && 0x80 ≤ c.toNat then none
    else some (.ofSet (f.fold (CharSet.single c)) !f.unicode)

/-- Any character but a line end, or any at all. -/
def dotSet (f : Flags) : CharSet :=
  if f.dotAll then .all
  else if f.crlf then CharSet.compl ⟨#[(0xa, 0xa), (0xd, 0xd)]⟩
  else (CharSet.single '\n').compl

def lineStart (f : Flags) : Look :=
  if f.multiLine then if f.crlf then .lineStartCrlf else .lineStart else .textStart

def lineEnd (f : Flags) : Look :=
  if f.multiLine then if f.crlf then .lineEndCrlf else .lineEnd else .textEnd

/-- Reads the next item, whose first character is `c`. -/
def step (s : PatternState) (c : Char) (cs : List Char) : Option PatternState :=
  match c with
  | '(' => s.takeGroup cs
  | ')' => s.closeGroup cs
  | '|' =>
    some { s with rest := cs, items := [], alternatives := joinItems s.items :: s.alternatives }
  | '[' => do
    let ((set, depth), rest) ← Bracket.take s.flags cs
    return s.push (.ofSet set !s.flags.unicode) depth rest
  | '?' => s.repeatSimple 0 (some 1) cs
  | '*' => s.repeatSimple 0 none cs
  | '+' => s.repeatSimple 1 none cs
  | '\x7b' => s.repeatBounded cs
  | '.' => if s.flags.unicode then some (s.push (.ofSet (dotSet s.flags) false) 0 cs) else none
  | '^' => some (s.push (.look (lineStart s.flags)) 0 cs)
  | '$' => some (s.push (.look (lineEnd s.flags)) 0 cs)
  | '\\' => do
    let (a, rest) ← Atom.takeEscape s.flags cs
    let n ← atomNode? s.flags a
    return s.push n 0 rest
  | c => do
    let n ← atomNode? s.flags (.char c false)
    return s.push n 0 cs

/-- Expressions nest no deeper than this. -/
def maxDepth : Nat := 250

/-- Reads to the end of the pattern.  Every item takes a character. -/
def run : Nat → PatternState → Option Node
  | 0, _ => none
  | fuel + 1, s =>
    match s.flags.skip s.rest with
    | [] =>
      if s.stack.isEmpty then
        let (n, d) := s.close
        if d ≤ maxDepth then some n else none
      else none
    | c :: cs =>
      match s.step c cs with
      | none => none
      | some s => run fuel s

end PatternState

/-- The expression a pattern writes. -/
def parsePattern (pattern : List Char) (caseless : Bool) : Option Node :=
  PatternState.run (pattern.length + 1)
    { rest := pattern, flags := .initial caseless, alternatives := [], items := [], stack := []
      names := [], groups := 0 }

end Regex
end Awk
