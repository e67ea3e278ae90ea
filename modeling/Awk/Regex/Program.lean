import Awk.Regex.Node

/-!
# Matching programs

An expression becomes a program of four instructions.  Expressions are compiled
back to front: each is told where to go on, and says where it starts.
-/

namespace Awk
namespace Regex

open Text (CharSet)

inductive Inst where
  | accept
  | char (s : CharSet) (next : Nat)
  | look (l : Look) (next : Nat)
  /-- Goes on at both places; threads at the first come first. -/
  | split (first second : Nat)

abbrev Code := Array Inst

namespace Code

def push (code : Code) (i : Inst) : Nat × Code := (code.size, Array.push code i)

/-- A fork to `body` and `exit`, the former first if greedy. -/
def fork (greedy : Bool) (body exit : Nat) : Inst :=
  if greedy then .split body exit else .split exit body

end Code

namespace Node

/-- `n` copies in a row, each made by `compile` from the place where it goes on. -/
def copies (compile : Nat → Code → Nat × Code) : Nat → Nat → Code → Nat × Code
  | 0, next, code => (next, code)
  | n + 1, next, code =>
    let (entry, code) := compile next code
    copies compile n entry code

/-- `n` copies in a row, before each of which the way out to `exit` is open. -/
def optionalCopies (compile : Nat → Code → Nat × Code) (greedy : Bool) (exit : Nat) :
    Nat → Nat → Code → Nat × Code
  | 0, next, code => (next, code)
  | n + 1, next, code =>
    let (entry, code) := compile next code
    let (fork, code) := code.push (Code.fork greedy entry exit)
    optionalCopies compile greedy exit n fork code

/-- A body that is run once and then again as often as it likes.  The fork behind
the body is written first and aimed when the body's start is known. -/
def atLeastOnce (compile : Nat → Code → Nat × Code) (greedy : Bool) (next : Nat) (code : Code) :
    Nat × Nat × Code :=
  let (fork, code) := code.push .accept
  let (entry, code) := compile fork code
  (fork, entry, code.setIfInBounds fork (Code.fork greedy entry next))

/-- The characters of a text, one after the other. -/
def compileText : List Char → Nat → Code → Nat × Code
  | [], next, code => (next, code)
  | c :: cs, next, code =>
    let (entry, code) := compileText cs next code
    code.push (.char (.single c) entry)

/-- Adds the instructions of an expression after which matching goes on at `next`,
and gives the place where it starts.  A body that may match nothing is repeated
behind a separate fork, so that trying it again and leaving it keep their order. -/
def compile : Node → Nat → Code → Nat × Code
  | empty, next, code => (next, code)
  | literal text, next, code => compileText text next code
  | set s _, next, code => code.push (.char s next)
  | look l, next, code => code.push (.look l next)
  | group _ a, next, code => a.compile next code
  | seq a b, next, code =>
    let (entry, code) := b.compile next code
    a.compile entry code
  | alt a b, next, code =>
    let (first, code) := a.compile next code
    let (second, code) := b.compile next code
    code.push (.split first second)
  | rep a least none greedy, next, code =>
    let (fork, entry, code) := atLeastOnce a.compile greedy next code
    match least with
    | 0 => if a.takesText then (fork, code) else code.push (Code.fork greedy entry next)
    | n + 1 => copies a.compile n entry code
  | rep a least (some most) greedy, next, code =>
    let (entry, code) := optionalCopies a.compile greedy next (most - least) next code
    copies a.compile least entry code

end Node

/-- A program, and where it starts. -/
structure Automaton where
  code : Code
  start : Nat

namespace Automaton

def ofNode (n : Node) : Automaton :=
  let (start, code) := n.compile 0 #[.accept]
  { code, start }

end Automaton
end Regex
end Awk
