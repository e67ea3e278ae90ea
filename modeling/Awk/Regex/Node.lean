import Awk.Regex.Look

/-!
# Regular expressions

An expression is built from literals, sets of characters and conditions on a position
by sequence, choice and repetition.  Where several matches start at one place the
order of choice decides, not length.

Sequences and choices lean to the right.  The functions `sequence`, `choice`,
`repeated` and `ofSet` keep expressions small: they build what matches the same texts
in the same order of preference.
-/

namespace Awk
namespace Regex

open Text (CharSet)

inductive Node where
  | empty
  /-- One or more characters. -/
  | literal (text : List Char)
  /-- A class of characters, or of bytes, which without Unicode is one of ASCII.  They match the
  same texts, but are not the same expression. -/
  | set (s : CharSet) (bytes : Bool)
  | look (l : Look)
  /-- A numbered group. -/
  | group (index : Nat) (body : Node)
  /-- From `least` to `most` times, as often as possible if `greedy`. -/
  | rep (body : Node) (least : Nat) (most : Option Nat) (greedy : Bool)
  | seq (first rest : Node)
  /-- The first choice is tried first. -/
  | alt (first rest : Node)
deriving DecidableEq

namespace Node

/-- The least length of a match in characters.  The empty set, and all that needs it,
has none. -/
def minLength? : Node → Option Nat
  | empty | look _ => some 0
  | literal text => some text.length
  | set s _ => if s.isEmpty then none else some 1
  | group _ a => a.minLength?
  | rep a least _ _ => a.minLength?.map (least * ·)
  | seq a b =>
    match a.minLength?, b.minLength? with
    | some m, some n => some (m + n)
    | _, _ => none
  | alt a b =>
    match a.minLength?, b.minLength? with
    | some m, some n => some (min m n)
    | _, _ => none

/-- The greatest length of a match in characters, where there is one. -/
def maxLength? : Node → Option Nat
  | empty | look _ => some 0
  | literal text => some text.length
  | set s _ => if s.isEmpty then none else some 1
  | group _ a => a.maxLength?
  | rep a _ most _ =>
    match a.maxLength?, most with
    | some m, some n => some (m * n)
    | _, _ => none
  | seq a b =>
    match a.maxLength?, b.maxLength? with
    | some m, some n => some (m + n)
    | _, _ => none
  | alt a b =>
    match a.maxLength?, b.maxLength? with
    | some m, some n => some (max m n)
    | _, _ => none

/-- A match takes at least one character. -/
def takesText (a : Node) : Bool := a.minLength?.any (0 < ·)

/-- A match takes no character. -/
def takesNothing (a : Node) : Bool := a.maxLength? == some 0

/-- A set of one character is that character, and the empty set is a class of bytes. -/
def ofSet (s : CharSet) (bytes : Bool) : Node :=
  match s.only? with
  | some c => literal [c]
  | none => set s (bytes || s.isEmpty)

/-- Repeating what takes no character changes nothing after the first time. -/
def repeated (a : Node) (least : Nat) (most : Option Nat) (greedy : Bool) : Node :=
  let idle := a.takesNothing
  let least := if idle then min least 1 else least
  let most := if idle then some (min (most.getD 1) 1) else most
  if most = some 0 then empty
  else if least = 1 ∧ most = some 1 then a
  else rep a least most greedy

/-- The parts of a sequence. -/
def parts : Node → List Node
  | empty => []
  | seq a b => a :: b.parts
  | a => [a]

def ofParts : List Node → Node
  | [] => empty
  | [a] => a
  | a :: rest => seq a (ofParts rest)

/-- Joins literals that follow each other. -/
def joinLiterals : List Node → List Node
  | [] => []
  | literal s :: rest =>
    match joinLiterals rest with
    | literal t :: rest => literal (s ++ t) :: rest
    | rest => literal s :: rest
  | a :: rest => a :: joinLiterals rest

def sequence (nodes : List Node) : Node := ofParts (joinLiterals (nodes.flatMap parts))

/-- The branches of a choice, the first first. -/
def branches : Node → List Node
  | alt a b => a :: b.branches
  | a => [a]

def ofBranches : List Node → Node
  | [] => set .none true
  | [a] => a
  | a :: rest => alt a (ofBranches rest)

/-- A branch that is one character. -/
def char? : Node → Option Char
  | literal [c] => some c
  | _ => none

def set? : Node → Option CharSet
  | set s _ => some s
  | _ => none

/-- What two lists have in common from the start. -/
def commonStart : List Node → List Node → List Node
  | a :: as, b :: bs => if a = b then a :: commonStart as bs else []
  | _, _ => []

/-- The parts with which all branches start, if all are sequences. -/
def sharedStart : List Node → List Node
  | [] => []
  | [a] => match a with
    | seq .. => a.parts
    | _ => []
  | a :: rest => match a with
    | seq .. => commonStart a.parts (sharedStart rest)
    | _ => []

/-- A choice of single characters, or of sets, is a class of characters; what all branches start
with is taken out of the choice, where a class of bytes is not one of characters.  Taking it out may
leave a choice of either kind. -/
def choiceFrom : Nat → List Node → Node
  | 0, nodes => ofBranches nodes
  | fuel + 1, nodes =>
    let nodes := nodes.flatMap branches
    match nodes with
    | [a] => a
    | nodes =>
      match nodes.mapM char?, nodes.mapM set? with
      | some cs, _ => ofSet (.unionAll (cs.map .single)) false
      | none, some sets => ofSet (.unionAll sets) false
      | none, none =>
        match sharedStart nodes with
        | [] => ofBranches nodes
        | start =>
          let rests := nodes.map fun a => ofParts (a.parts.drop start.length)
          sequence (start ++ [choiceFrom fuel rests])

def choice (nodes : List Node) : Node := choiceFrom (nodes.length + 1) nodes

/-- Every match starts at the start of the text. -/
def startsAtStart : Node → Bool
  | look .textStart => true
  | group _ a => a.startsAtStart
  | rep a least _ _ => 0 < least && a.startsAtStart
  | seq a b => a.startsAtStart || (a.takesNothing && b.startsAtStart)
  | alt a b => a.startsAtStart && b.startsAtStart
  | _ => false

/-- Every match ends at the end of the text. -/
def endsAtEnd : Node → Bool
  | look .textEnd => true
  | group _ a => a.endsAtEnd
  | rep a least _ _ => 0 < least && a.endsAtEnd
  | seq a b => b.endsAtEnd || (b.takesNothing && a.endsAtEnd)
  | alt a b => a.endsAtEnd && b.endsAtEnd
  | _ => false

end Node
end Regex
end Awk
