/-!
# Sets of characters

A set is an array of ranges of code points in ascending order.  Ranges that overlap
or touch are joined, so that equal sets are equal arrays.  The code points from
D800 to DFFF are no characters; a range may lie across them.
-/

namespace Awk
namespace Text

/-- The first and the last code point of a range. -/
abbrev CodeRange := Nat × Nat

/-- Index of the last entry that starts at or before `n`, by bisection of the
indices from `lo` to below `hi`. -/
def locate {α : Type} (runs : Array (Nat × α)) (n : Nat) : Nat → Nat → Nat → Nat
  | 0, lo, _ => lo
  | fuel + 1, lo, hi =>
    if hi ≤ lo + 1 then lo
    else
      let mid := (lo + hi) / 2
      match runs[mid]? with
      | some (first, _) =>
        if first ≤ n then locate runs n fuel mid hi else locate runs n fuel lo mid
      | none => lo

namespace CodeRange

/-- The greatest code point. -/
def top : Nat := 0x10ffff

/-- The character behind a code point. -/
def next (n : Nat) : Nat := if n = 0xd7ff then 0xe000 else n + 1

/-- The character before a code point. -/
def previous (n : Nat) : Nat := if n = 0xe000 then 0xd7ff else n - 1

/-- Two lists in ascending order as one. -/
def interleave : List CodeRange → List CodeRange → List CodeRange
  | [], ys => ys
  | x :: xs, ys =>
    ys.takeWhile (fun y => y.1 < x.1) ++ x :: interleave xs (ys.dropWhile fun y => y.1 < x.1)

/-- Joins a range with those behind it that overlap or touch it, and these among
themselves. -/
def joinFrom (first last : Nat) : List CodeRange → List CodeRange
  | [] => [(first, last)]
  | (a, b) :: rest =>
    if a ≤ last + 1 then joinFrom first (max last b) rest else (first, last) :: joinFrom a b rest

def join : List CodeRange → List CodeRange
  | [] => []
  | (a, b) :: rest => joinFrom a b rest

/-- What lies between ranges, from behind `last` on.  Between D7FF and E000 there is
nothing, and the two themselves are taken. -/
def gapsFrom (last : Nat) : List CodeRange → List CodeRange
  | [] => if last < top then [(next last, top)] else []
  | (a, b) :: rest =>
    (min (next last) (previous a), max (next last) (previous a)) :: gapsFrom b rest

def gaps : List CodeRange → List CodeRange
  | [] => [(0, top)]
  | (a, b) :: rest => (if 0 < a then [(0, previous a)] else []) ++ gapsFrom b rest

/-- What is left of a range without those in a list that overlap it. -/
def cut (first last : Nat) : List CodeRange → List CodeRange
  | [] => [(first, last)]
  | (a, b) :: rest =>
    (if first < a then [(first, previous a)] else []) ++
      if b < last then cut (next b) last rest else []

/-- The parts of `ys` that meet a range, from the list on that may still meet the
ranges behind it. -/
def meeting (x : CodeRange) (ys : List CodeRange) : List CodeRange :=
  ys.takeWhile fun y => y.1 ≤ x.2

def remaining (x : CodeRange) (ys : List CodeRange) : List CodeRange :=
  ys.dropWhile fun y => y.2 < x.1

def common : List CodeRange → List CodeRange → List CodeRange
  | [], _ => []
  | x :: xs, ys =>
    let ys := remaining x ys
    (meeting x ys).map (fun y => (max x.1 y.1, min x.2 y.2)) ++ common xs ys

def without : List CodeRange → List CodeRange → List CodeRange
  | [], _ => []
  | x :: xs, ys =>
    let ys := remaining x ys
    cut x.1 x.2 (meeting x ys) ++ without xs ys

end CodeRange

structure CharSet where
  ranges : Array CodeRange
deriving DecidableEq, Repr

namespace CharSet

/-- The set of ranges given in ascending order. -/
def ofRanges (ranges : List CodeRange) : CharSet := ⟨(CodeRange.join ranges).toArray⟩

def none : CharSet := ⟨#[]⟩

def all : CharSet := ⟨#[(0, CodeRange.top)]⟩

def range (first last : Char) : CharSet := ⟨#[(first.toNat, last.toNat)]⟩

def single (c : Char) : CharSet := range c c

/-- Whether a character belongs to the set: the last range that starts at or before
it must reach it. -/
def contains (s : CharSet) (c : Char) : Bool :=
  match s.ranges[locate s.ranges c.toNat 16 0 s.ranges.size]? with
  | some (first, last) => first ≤ c.toNat && c.toNat ≤ last
  | Option.none => false

def union (s t : CharSet) : CharSet :=
  ofRanges (CodeRange.interleave s.ranges.toList t.ranges.toList)

def inter (s t : CharSet) : CharSet :=
  ⟨(CodeRange.common s.ranges.toList t.ranges.toList).toArray⟩

def diff (s t : CharSet) : CharSet :=
  ⟨(CodeRange.without s.ranges.toList t.ranges.toList).toArray⟩

def symmDiff (s t : CharSet) : CharSet := (s.union t).diff (s.inter t)

def compl (s : CharSet) : CharSet := ⟨(CodeRange.gaps s.ranges.toList).toArray⟩

def isEmpty (s : CharSet) : Bool := s.ranges.isEmpty

/-- No member lies beyond ASCII. -/
def isAscii (s : CharSet) : Bool :=
  match s.ranges.back? with
  | some (_, last) => last < 0x80
  | Option.none => true

/-- The only member. -/
def only? (s : CharSet) : Option Char :=
  match s.ranges.toList with
  | [(first, last)] => if first = last then some (Char.ofNat first) else Option.none
  | _ => Option.none

/-- Joins neighbours in a list of sets. -/
def joinPairs : List CharSet → List CharSet
  | s :: t :: rest => s.union t :: joinPairs rest
  | sets => sets

/-- The union of many sets.  Joining neighbours first keeps the work low; `fuel`
halvings leave one set. -/
def unionFrom : Nat → List CharSet → CharSet
  | 0, sets => sets.foldl union none
  | fuel + 1, sets =>
    match sets with
    | [] => none
    | [s] => s
    | sets => unionFrom fuel (joinPairs sets)

def unionAll (sets : List CharSet) : CharSet := unionFrom 16 sets

/-- The code points from the start of one entry to the next, for the entries whose
value passes a test. -/
def selectRuns {α : Type} (p : α → Bool) : List (Nat × α) → List CodeRange
  | [] => []
  | (first, a) :: rest =>
    let last := match rest with
      | (n, _) :: _ => n - 1
      | [] => CodeRange.top
    if p a then (first, last) :: selectRuns p rest else selectRuns p rest

/-- The characters to which a table of runs gives a value that passes a test. -/
def ofRuns {α : Type} (runs : Array (Nat × α)) (p : α → Bool) : CharSet :=
  ofRanges (selectRuns p runs.toList)

end CharSet
end Text
end Awk
