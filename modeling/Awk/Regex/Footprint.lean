import Awk.Regex.Node
import Awk.Text.ByteRange
import Std.Data.HashMap

/-!
# The size of an expression

An expression is accepted if two automata that read its matches byte by byte are small
enough: one that reads forward and notes where groups start and end, and one that
reads backward.  Their sizes are counted without building them.  A state counts
32 bytes, and a state that looks a byte up in a table or goes on at several places
counts more by each entry.
-/

namespace Awk
namespace Regex

open Text (ByteRange CharSet)

inductive Direction where
  | forward | backward
deriving DecidableEq, Repr

/-- How much of an automaton is laid out.  States are numbered from zero on. -/
structure Extent where
  states : Nat
  bytes : Nat
deriving DecidableEq, Repr

namespace Extent

/-- The greatest size in bytes. -/
def limit : Nat := 10485760

def empty : Extent := { states := 0, bytes := 0 }

def fits (e : Extent) : Bool := e.bytes ≤ limit

/-- Adds a number of states that go on at one place. -/
def plain (e : Extent) (n : Nat) : Extent :=
  { states := e.states + n, bytes := e.bytes + 32 * n }

/-- Adds a state that looks a byte up in a table of `n` ranges. -/
def table (e : Extent) (n : Nat) : Extent :=
  { states := e.states + 1, bytes := e.bytes + 32 + 8 * n }

/-- Adds a state that goes on at `n` places. -/
def fork (e : Extent) (n : Nat) : Extent :=
  { states := e.states + 1, bytes := e.bytes + 32 + 4 * n }

end Extent

/-- Finds states again by what they do.  There is a fixed number of slots, and a
description takes the slot of its hash from the one that held it. -/
structure Memo where
  capacity : Nat
  slots : Std.HashMap Nat (List Nat × Nat)

namespace Memo

def ofCapacity (capacity : Nat) : Memo := { capacity, slots := {} }

/-- Takes in the numbers of a description one by one. -/
def hash (key : List Nat) : UInt64 :=
  key.foldl (fun h n => (h ^^^ n.toUInt64) * 1099511628211) 14695981039346656037

def slotOf (m : Memo) (key : List Nat) : Nat := (hash key).toNat % m.capacity

def find? (m : Memo) (key : List Nat) : Option Nat :=
  match m.slots[m.slotOf key]? with
  | some (held, state) => if held = key then some state else none
  | none => none

def insert (m : Memo) (key : List Nat) (state : Nat) : Memo :=
  { m with slots := m.slots.insert (m.slotOf key) (key, state) }

end Memo

/-- Adds the states of an expression. -/
abbrev Layout := Extent → Extent

namespace Layout

/-- Up to `n` copies in a row, no more than it takes to see that they do not fit. -/
def copies (f : Layout) : Nat → Layout
  | 0, e => e
  | n + 1, e => if e.fits then copies f n (f e) else e

/-- Encodings that start with the same range of bytes, without it. -/
def groupByFirst : List (List ByteRange) → List (ByteRange × List (List ByteRange))
  | [] => []
  | [] :: rest => groupByFirst rest
  | (r :: tail) :: rest =>
    match groupByFirst rest with
    | (r', tails) :: groups =>
      if r = r' then (r, tail :: tails) :: groups else (r, [tail]) :: (r', tails) :: groups
    | [] => [(r, [tail])]

/-- The states behind a table of ranges, then the table, unless there is one like it.
Encodings of at most `depth` bytes end in `target`. -/
def encodingTables (target : Nat) :
    Nat → List (List ByteRange) → Memo → Extent → Nat × Memo × Extent
  | 0, _, memo, e => (target, memo, e)
  | depth + 1, encodings, memo, e =>
    match groupByFirst encodings with
    | [] => (target, memo, e)
    | groups =>
      let (rows, memo, e) := groups.foldl
        (fun (rows, memo, e) ((first, last), tails) =>
          let (next, memo, e) := encodingTables target depth tails memo e
          (next :: last :: first :: rows, memo, e))
        (([] : List Nat), memo, e)
      let key := rows.reverse
      match memo.find? key with
      | some state => (state, memo, e)
      | none => (e.states, memo.insert key e.states, e.table groups.length)

/-- States that read an encoding from its end, shared where encodings start alike. -/
def encodingChain : List ByteRange → Nat → Memo → Extent → Memo × Extent
  | [], _, memo, e => (memo, e)
  | (first, last) :: rest, next, memo, e =>
    let key := [next, first, last]
    match memo.find? key with
    | some state => encodingChain rest state memo e
    | none => encodingChain rest e.states (memo.insert key e.states) (e.plain 1)

/-- A set within ASCII is one table.  Any other is a tree of tables forward, and
backward a choice among its encodings. -/
def ofSet (d : Direction) (s : CharSet) : Layout :=
  let encodings := s.encodings
  if s.isAscii then fun e => (e.plain 1).table s.ranges.size
  else
    match d with
    | .forward => fun e =>
      (encodingTables e.states 5 encodings (.ofCapacity 10000) (e.plain 1)).2.2
    | .backward => fun e =>
      let e := e.fork encodings.length
      (encodings.foldl (fun (memo, below) r => encodingChain r e.states memo below)
        (Memo.ofCapacity 1000, e.plain 1)).2

/-- The words between those that are empty.  At the start, one empty word is as good
as many. -/
def chunksOf (words : List (List Nat)) : List (List (List Nat)) :=
  match words with
  | [] :: rest => [] :: (rest.dropWhile (·.isEmpty)).splitOnP (·.isEmpty)
  | words => words.splitOnP (·.isEmpty)

/-- Words as a tree: each place has a table of the bytes that come next, or several
where words that end there divide those before them from those behind.  Places where
all words end are left out. -/
def wordTree : Nat → List (List Nat) → Layout
  | 0, _, e => e
  | depth + 1, words, e =>
    if words.all (·.isEmpty) then e
    else
      let chunks := chunksOf words
      let e := chunks.foldl
        (fun e chunk =>
          let bytes := (chunk.filterMap (·.head?)).eraseDups
          let e := bytes.foldl
            (fun e b => wordTree depth ((chunk.filter (·.head? == some b)).map (·.drop 1)) e) e
          match bytes.length with
          | 0 => e
          | 1 => e.plain 1
          | n => e.table n)
        e
      e.fork ((chunks.filter (!·.isEmpty)).length + (chunks.length - 1))

def bytesOf (text : List Char) : List Nat := text.flatMap fun c => Text.encodingOf c.toNat

/-- A choice among texts. -/
def ofTexts (d : Direction) (texts : List (List Char)) : Layout :=
  let words := texts.map fun text =>
    match d with
    | .forward => bytesOf text
    | .backward => (bytesOf text).reverse
  let depth := words.foldl (fun n w => max n w.length) 0
  fun e => wordTree (depth + 1) words (e.plain 1)

/-- A choice: the fork and the state where its branches meet stand behind the second
branch. -/
def choice : List Layout → Layout
  | [] => id
  | [f] => f
  | f :: g :: rest => fun e =>
    rest.foldl (fun e h => h e) (((g (f e)).fork (rest.length + 2)).plain 1)

/-- A repetition.  A body that may match nothing is repeated behind a fork of its
own. -/
def repeated (takesText : Bool) (f : Layout) : Nat → Option Nat → Layout
  | 0, some 1 => fun e => (f (e.fork 2)).plain 1
  | 0, none =>
    if takesText then fun e => f (e.fork 2)
    else fun e => (((f e).fork 2).fork 2).plain 1
  | n, none => fun e => (copies f n e).fork 2
  | n, some most =>
    let least := if n = 0 then fun e => e.plain 1 else copies f n
    if n = most then least
    else fun e => copies (fun e => f (e.fork 2)) (most - n) ((least e).plain 1)

end Layout

namespace Node

def text? : Node → Option (List Char)
  | literal text => some text
  | _ => none

/-- The layout of an expression from those of its branches. -/
def layoutOfBranches (d : Direction) (a : Node) (layouts : List Layout) : Layout :=
  match a.branches.mapM text? with
  | some (s :: t :: rest) => .ofTexts d (s :: t :: rest)
  | _ => .choice layouts

/-- The layouts of the branches of an expression, which is one where it is no choice. -/
def branchLayouts (d : Direction) : Node → List Layout
  | empty | look _ => [fun e => e.plain 1]
  | literal text => [fun e => e.plain (Layout.bytesOf text).length]
  | set s _ => [.ofSet d s]
  | group _ a =>
    let body := layoutOfBranches d a (a.branchLayouts d)
    match d with
    | .forward => [fun e => (body (e.plain 1)).plain 1]
    | .backward => [body]
  | rep a least most _ =>
    [.repeated a.takesText (layoutOfBranches d a (a.branchLayouts d)) least most]
  | seq a b =>
    let first := layoutOfBranches d a (a.branchLayouts d)
    let second := layoutOfBranches d b (b.branchLayouts d)
    match d with
    | .forward => [fun e => second (first e)]
    | .backward => [fun e => first (second e)]
  | alt a b => layoutOfBranches d a (a.branchLayouts d) :: b.branchLayouts d

def layout (d : Direction) (a : Node) : Layout := layoutOfBranches d a (a.branchLayouts d)

/-- Every match starts at the end from which the text is read. -/
def isAnchored (a : Node) : Direction → Bool
  | .forward => a.startsAtStart
  | .backward => a.endsAtEnd

/-- The size of the automaton of an expression.  One that may match anywhere first
passes over any bytes. -/
def extent (d : Direction) (a : Node) : Extent :=
  let e := if a.isAnchored d then Extent.empty.plain 1 else ((Extent.empty.fork 2).plain 1).table 1
  match d with
  | .forward => (a.layout d (e.plain 1)).plain 2
  | .backward => (a.layout d e).plain 1

/-- Bytes that are enough for the states of a set.  A range within a block has one
encoding, and any range has at most 24. -/
def setBound (s : CharSet) : Nat :=
  s.ranges.foldl (fun n (first, last) => n + if first / 64 = last / 64 then 168 else 4032) 112

/-- Bytes that are enough for the states of an expression in either direction, found
without laying them out. -/
def sizeBound : Node → Nat
  | empty | look _ => 32
  | literal text => 384 * text.length
  | set s _ => setBound s
  | group _ a => a.sizeBound + 64
  | rep a least most _ => (a.sizeBound + 40) * most.getD (least + 1) + 112
  | seq a b => a.sizeBound + b.sizeBound
  | alt a b => a.sizeBound + b.sizeBound + 128

/-- Neither automaton is too large. -/
def fits (a : Node) : Bool :=
  a.sizeBound + 256 ≤ Extent.limit ||
    ((a.extent .forward).fits && (a.extent .backward).fits)

end Node
end Regex
end Awk
