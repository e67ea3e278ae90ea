import Awk.Program

/-!
# Which parameters are arrays

A parameter stands for an array when the body of its function subscripts it, asks
for membership in it, runs over it, deletes from it or has a built-in fill it, or
when it is passed on to such a parameter of another function.  The last rule is
followed until nothing changes.
-/

namespace Awk

/-- What a piece of program does with names: those it uses as arrays, and those it
passes on by themselves, with the function and the position. -/
structure Usage where
  arrays : List String
  forwards : List (String × String × Nat)

namespace Usage

def none : Usage := { arrays := [], forwards := [] }

def array (name : String) : Usage := { arrays := [name], forwards := [] }

def forward (name callee : String) (position : Nat) : Usage :=
  { arrays := [], forwards := [(name, callee, position)] }

protected def append (a b : Usage) : Usage :=
  { arrays := a.arrays ++ b.arrays, forwards := a.forwards ++ b.forwards }

instance : Append Usage := ⟨Usage.append⟩

end Usage

mutual

def Expr.usage : Expr → Usage
  | .number .. | .string .. | .regex .. | .var .. => .none
  | .field e _ | .group e _ | .step _ e _ | .unary _ e _ => e.usage
  | .element array indices _ => .array array ++ Expr.usages indices
  | .contains key array _ => .array array ++ Expr.usages key
  | .arith _ l r _ | .relation _ l r _ | .logic _ l r _ | .concat l r _ => l.usage ++ r.usage
  | .assign _ target value _ => target.usage ++ value.usage
  | .cond test ifTrue ifFalse _ => test.usage ++ ifTrue.usage ++ ifFalse.usage
  | .matching subject pattern _ _ => subject.usage ++ pattern.usage
  | .call name args _ => Expr.argumentUsages name 0 args
  | .builtin b args _ => Expr.builtinUsages b 0 args
  | .getline target file _ => Expr.usage? target ++ Expr.usage? file

def Expr.usage? : Option Expr → Usage
  | none => .none
  | some e => e.usage

def Expr.usages : List Expr → Usage
  | [] => .none
  | e :: es => e.usage ++ Expr.usages es

/-- A bare name is passed on; anything else is used where it stands. -/
def Expr.argumentUsages (callee : String) (position : Nat) : List Expr → Usage
  | [] => .none
  | e :: es =>
    (match e with
      | .var name _ => .forward name callee position
      | e => e.usage) ++ Expr.argumentUsages callee (position + 1) es

def Expr.builtinUsages (b : Builtin) (position : Nat) : List Expr → Usage
  | [] => .none
  | e :: es =>
    (match e with
      | .var name _ => if b.arrayPosition? = some position then .array name else .none
      | e => e.usage) ++ Expr.builtinUsages b (position + 1) es

end

mutual

def Stmt.usage : Stmt → Usage
  | .expr e => e.usage
  | .print args _ => Expr.usages args
  | .printf format args _ => format.usage ++ Expr.usages args
  | .ifElse test ifTrue ifFalse _ => test.usage ++ ifTrue.usage ++ Stmt.usage? ifFalse
  | .whileLoop test body _ => test.usage ++ body.usage
  | .doWhile body test _ => test.usage ++ body.usage
  | .forLoop init test update body _ =>
    Expr.usage? init ++ Expr.usage? test ++ Expr.usage? update ++ body.usage
  | .forIn _ array body _ => .array array ++ body.usage
  | .block body _ => Stmt.usages body
  | .exit code _ => Expr.usage? code
  | .returnValue value _ => Expr.usage? value
  | .delete array index _ => .array array ++ Expr.usages index
  | .breakLoop _ | .continueLoop _ | .next _ | .nextFile _ | .empty => .none

def Stmt.usage? : Option Stmt → Usage
  | none => .none
  | some s => s.usage

def Stmt.usages : List Stmt → Usage
  | [] => .none
  | s :: ss => s.usage ++ Stmt.usages ss

end

namespace Function

def usage (f : Function) : Usage := Stmt.usages f.body.body

/-- Marks the parameters that the body uses as arrays itself. -/
def markDirect (f : Function) : Function :=
  { f with arrayParams := f.params.map fun p => f.usage.arrays.contains p }

/-- Marks the parameters that are passed on to a marked parameter. -/
def markForwarded (functions : List Function) (f : Function) : Function :=
  let taken (p : String) : Bool :=
    f.usage.forwards.any fun (name, callee, position) =>
      name == p &&
        match functions.find? (·.name == callee) with
        | some g => g.isArrayParam position
        | none => false
  { f with arrayParams := (f.params.zip f.arrayParams).map fun (p, marked) => marked || taken p }

end Function

namespace Program

def arrayMarks (functions : List Function) : List (List Bool) := functions.map (·.arrayParams)

/-- Follows forwarded parameters round by round until a round marks nothing new.
Every other round marks a parameter, so as many rounds as there are parameters are
enough. -/
def closeForwards : Nat → List Function → List Function
  | 0, functions => functions
  | n + 1, functions =>
    let marked := functions.map (Function.markForwarded functions)
    if arrayMarks marked = arrayMarks functions then functions else closeForwards n marked

def resolveArrayParams (p : Program) : Program :=
  let rounds := (p.functions.flatMap (·.params)).length + 1
  { p with functions := closeForwards rounds (p.functions.map Function.markDirect) }

end Program
end Awk
