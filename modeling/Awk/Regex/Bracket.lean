import Awk.Regex.Atom

/-!
# Bracket expressions

A bracket expression lists characters, ranges and classes.  Brackets nest, and
operators join what stands before them with what stands behind.
-/

namespace Awk
namespace Regex
namespace Bracket

open Text (CharSet)

inductive SetOp where
  | inter | diff | symmDiff
deriving DecidableEq, Repr

def SetOp.apply : SetOp → CharSet → CharSet → CharSet
  | inter => CharSet.inter
  | diff => CharSet.diff
  | symmDiff => CharSet.symmDiff

/-- What has been listed: the union, how many items it has, and how deep brackets nest
in them. -/
structure Listed where
  set : CharSet
  count : Nat
  depth : Nat

namespace Listed

def start : Listed := ⟨.none, 0, 0⟩

def add (l : Listed) (s : CharSet) (depth : Nat) : Listed :=
  ⟨l.set.union s, l.count + 1, max l.depth depth⟩

/-- A list of several items is a level of its own. -/
def level (l : Listed) : Nat := if l.count ≤ 1 then l.depth else l.depth + 1

end Listed

/-- An operand and the operator behind it. -/
structure Operand where
  set : CharSet
  depth : Nat
  op : SetOp

/-- Joins the operand before an operator with the list behind it, and gives the set and
its depth.  Each side is made caseless by itself. -/
def joinSets (f : Flags) (left : Option Operand) (right : Listed) : CharSet × Nat :=
  match left with
  | none => (right.set, right.level)
  | some o => (o.op.apply (f.fold o.set) (f.fold right.set), max o.depth right.level + 1)

/-- A class `[:name:]`, without its opening bracket.  It is `none` where no class is
named, and holds no set where the class must not be used. -/
def takeNamedClass (f : Flags) (cs : List Char) : Option (Option CharSet × List Char) :=
  match cs with
  | ':' :: cs =>
    let (negated, cs) := match cs with
      | '^' :: cs => (true, cs)
      | cs => (false, cs)
    match cs.dropWhile (· != ':') with
    | ':' :: ']' :: rest => do
      let s ← Class.ofName? (String.ofList (cs.takeWhile (· != ':')))
      return (f.finish? negated s, rest)
    | _ => none
  | _ => none

/-- A member of a bracket expression: a character or an escape. -/
def takeMember (f : Flags) : List Char → Option (Atom × List Char)
  | [] => none
  | '\\' :: cs => Atom.takeEscape f cs
  | c :: cs => some (.char c false, cs)

/-- Without Unicode a bracket expression is about bytes, and only ASCII may be
written in it. -/
def memberChar? (f : Flags) : Atom → Option Char
  | .char c _ => if f.unicode || c.toNat < 0x80 then some c else none
  | _ => none

/-- The set of a member that is not the start of a range. -/
def memberSet? (f : Flags) (a : Atom) : Option CharSet :=
  match a with
  | .set s => some s
  | .look _ => none
  | a => (memberChar? f a).map CharSet.single

/-- A member, or a range from one character to another.  A hyphen before a closing
bracket or another hyphen makes no range. -/
def takeRange (f : Flags) (cs : List Char) : Option (CharSet × List Char) := do
  let (first, rest) ← takeMember f cs
  let rest := f.skip rest
  match rest with
  | [] => none
  | '-' :: after =>
    let next := f.peek? after
    if next == some ']' || next == some '-' then
      let s ← memberSet? f first
      return (s, rest)
    else
      let (last, rest) ← takeMember f (f.skip after)
      let a ← memberChar? f first
      let b ← memberChar? f last
      if a ≤ b then return (CharSet.range a b, rest) else none
  | rest =>
    let s ← memberSet? f first
    return (s, rest)

/-- Hyphens right after the opening stand for themselves. -/
def takeHyphens (f : Flags) : Nat → Listed → List Char → Listed × List Char
  | 0, l, cs => (l, cs)
  | fuel + 1, l, '-' :: cs => takeHyphens f fuel (l.add (.single '-') 0) (f.skip cs)
  | _ + 1, l, cs => (l, cs)

/-- What stands behind an opening bracket: whether the set is negated, and the
members that have no other meaning there. -/
def takeOpening (f : Flags) (cs : List Char) : Bool × Listed × List Char :=
  let cs := f.skip cs
  let (negated, cs) := match cs with
    | '^' :: cs => (true, f.skip cs)
    | cs => (false, cs)
  match cs with
  | ']' :: rest => (negated, Listed.start.add (.single ']') 0, f.skip rest)
  | cs =>
    let (l, rest) := takeHyphens f cs.length .start cs
    (negated, l, rest)

/-- The rest of a bracket expression, which gives its set and how deep brackets nest
in it.  `left` is the operand of an operator still to be applied, `listed` what has
been read since. -/
def takeSet (f : Flags) : Nat → Bool → Option Operand → Listed → List Char →
    Option ((CharSet × Nat) × List Char)
  | 0, _, _, _, _ => none
  | fuel + 1, negated, left, listed, cs =>
    let operator (op : SetOp) (rest : List Char) : Option ((CharSet × Nat) × List Char) :=
      let (s, depth) := joinSets f left listed
      takeSet f fuel negated (some ⟨s, depth, op⟩) .start rest
    match f.skip cs with
    | [] => none
    | ']' :: rest => do
      let (s, depth) := joinSets f left listed
      let s ← f.finish? negated s
      return ((s, depth + 1), rest)
    | '&' :: '&' :: rest => operator .inter rest
    | '-' :: '-' :: rest => operator .diff rest
    | '~' :: '~' :: rest => operator .symmDiff rest
    | '[' :: rest =>
      match takeNamedClass f rest with
      | some (some s, rest) => takeSet f fuel negated left (listed.add s 0) rest
      | some (none, _) => none
      | none =>
        let (inner, opening, rest) := takeOpening f rest
        match takeSet f fuel inner none opening rest with
        | some ((s, depth), rest) => takeSet f fuel negated left (listed.add s depth) rest
        | none => none
    | cs =>
      match takeRange f cs with
      | some (s, rest) => takeSet f fuel negated left (listed.add s 0) rest
      | none => none

/-- A bracket expression behind its opening bracket. -/
def take (f : Flags) (cs : List Char) : Option ((CharSet × Nat) × List Char) :=
  let (negated, opening, rest) := takeOpening f cs
  takeSet f (2 * cs.length + 2) negated none opening rest

end Bracket
end Regex
end Awk
