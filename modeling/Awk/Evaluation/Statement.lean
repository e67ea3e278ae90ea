import Awk.Evaluation.Call

/-!
# Statements
-/

namespace Awk
namespace Stmt

open Eval

/-- A loop with a test before its body and a step behind it; either can end the loop.
A body that ends in `break` ends the loop normally, and one that leaves it by other
means passes that on. -/
def loop (before : Eval Bool) (body : Eval Flow) (after : Eval Bool) : Nat → Eval Flow
  | 0 => throw .exhausted
  | n + 1 => do
    if ← before then
      match ← body with
      | .normal | .continue_ =>
        if ← after then loop before body after n else return .normal
      | .break_ => return .normal
      | flow => return flow
    else return .normal

/-- A test that is absent is true.  A signal raised by the test ends the loop. -/
def loopTest (self : Meaning) : Option Expr → Eval Bool
  | none => return !(← isPending)
  | some e => do
    let holds ← self.isTrue e
    return holds && !(← isPending)

/-- The step of a `for` loop.  A signal raised by it ends the loop. -/
def loopStep (self : Meaning) : Option Expr → Eval Bool
  | none => return true
  | some e => do
    let _ ← self.value e
    return !(← isPending)

/-- Runs the body for each of the keys that the array had at first. -/
def forKeys (var : String) (body : Eval Flow) : List String → Eval Flow
  | [] => return .normal
  | key :: keys => do
    onScope (Scope.setVar var (.ofText key))
    match ← body with
    | .normal | .continue_ => forKeys var body keys
    | .break_ => return .normal
    | flow => return flow

/-- The texts of arguments with the output separator between, each as the separator
and the format stand once it has its value. -/
def printed (self : Meaning) : List Expr → Eval String
  | [] => return ""
  | e :: es => do
    let text ← textUnder (·.ofmt) (← self.value e)
    return text ++ (← more es)
where
  more : List Expr → Eval String
  | [] => return ""
  | e :: es => do
    let v ← self.value e
    let ofs := (← scope).ofs
    let text ← textUnder (·.ofmt) v
    return ofs ++ text ++ (← more es)

/-- Nothing is printed once a signal is raised. -/
def runPrint (self : Meaning) (args : List Expr) : Eval Flow := do
  if args.isEmpty then printRecord
  else
    let line ← printed self args
    if !(← isPending) then write (line ++ (← scope).ors)
  return .normal

def runPrintf (self : Meaning) (format : Expr) (args : List Expr) : Eval Flow := do
  let format ← self.text format
  let values ← self.values args
  if !(← isPending) then write (← formatted format values)
  return .normal

/-- A status is a whole number of 32 bits; without one the last stays. -/
def exitCode (self : Meaning) : Option Expr → Eval Int
  | none => return (← get).exitCode
  | some e => return (← self.number e).toIntWithin (-0x80000000) 0x7fffffff

def runDelete (self : Meaning) (array : String) (index : List Expr) : Eval Flow := do
  if index.isEmpty then onScope (Scope.clearArray array)
  else
    let key ← self.key index
    onScope (Scope.deleteElement array key)
  return .normal

/-- Ends in the signal that a function raised, and goes on only if there is none. -/
def unlessPending (x : Eval Flow) : Eval Flow := do
  match ← takePending with
  | some s => return .signal s
  | none => x

/-- The turns of a `for` loop behind its first clause, which ends the loop if it raises a signal.
Where there is no such clause nothing looks for a signal before the test. -/
def behindInit (self : Meaning) (init : Option Expr) (turns : Eval Flow) : Eval Flow :=
  match init with
  | none => turns
  | some e => do
    let _ ← self.value e
    unlessPending turns

/-- A signal that a function raised takes the place of the statement's own end. -/
def settled (flow : Flow) : Eval Flow := unlessPending (return flow)

/-- What a statement does, from the meanings of its parts.  The fuel bounds the turns
of a loop. -/
def rule (self : Meaning) (fuel : Nat) : Stmt → Eval Flow
  | expr e => do
    let _ ← self.value e
    return .normal
  | print args _ => runPrint self args
  | printf format args _ => runPrintf self format args
  | ifElse test ifTrue ifFalse _ => do
    let holds ← self.isTrue test
    if ← isPending then return .normal
    else if holds then self.run ifTrue
    else
      match ifFalse with
      | some s => self.run s
      | none => return .normal
  | whileLoop test body _ =>
    loop (loopTest self (some test)) (self.run body) (pure true) fuel
  | doWhile body test _ => loop (pure true) (self.run body) (loopTest self (some test)) fuel
  | forLoop init test update body _ =>
    behindInit self init (loop (loopTest self test) (self.run body) (loopStep self update) fuel)
  | forIn var array body _ => do
    let keys ← onScope (Scope.arrayKeys array)
    forKeys var (self.run body) (← arranged keys)
  | block body _ => Call.sequence self.run body
  | breakLoop _ => return .break_
  | continueLoop _ => return .continue_
  | next _ => return .signal .next
  | nextFile _ => return .signal .nextFile
  | exit code _ => return .signal (.exit (← exitCode self code))
  | returnValue none _ => return .return_ .uninit
  | returnValue (some e) _ => return .return_ (← self.value e)
  | delete array index _ => runDelete self array index
  | empty => return .normal

end Stmt
end Awk
