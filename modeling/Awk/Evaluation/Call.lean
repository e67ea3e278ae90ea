import Awk.Evaluation.Target

/-!
# Calls

Arguments are bound from left to right while the caller's names are in view.  A call
has a frame of its own, which goes however the call ends.
-/

namespace Awk
namespace Call

open Eval

/-- Runs statements in order until one of them does not end normally. -/
def sequence (run : Stmt → Eval Flow) : List Stmt → Eval Flow
  | [] => return .normal
  | s :: rest => do
    match ← run s with
    | .normal => sequence run rest
    | flow => return flow

/-- What a parameter stands for, and the arrays made for it.  A parameter for an array
that gets none gets a new one. -/
def bindParam (self : Meaning) (isArray : Bool) : Option Expr → Eval (Binding × List Nat)
  | some (.var name place) => do
    if isArray || (← scope).isArray name then
      return (.array (← onScope (Scope.arrayId name)), [])
    else return (.scalar (← self.value (.var name place)), [])
  | some e => do
    if isArray then fresh else return (.scalar (← self.value e), [])
  | none => do
    if isArray then fresh else return (.scalar .uninit, [])
where
  fresh : Eval (Binding × List Nat) := do
    let id ← onScope Scope.newArray
    return (.array id, [id])

def bindParams (self : Meaning) :
    List (String × Bool) → List Expr → Eval (List (String × Binding) × List Nat)
  | [], _ => return ([], [])
  | (param, isArray) :: params, args => do
    let (b, made) ← bindParam self isArray args.head?
    let (bindings, owned) ← bindParams self params args.tail
    return ((param, b) :: bindings, made ++ owned)

/-- Runs in a new frame. -/
def inFrame {α : Type} (bindings : List (String × Binding)) (owned : List Nat) (x : Eval α) :
    Eval α := fun m =>
  match x (m.enterCall bindings owned) with
  | .ok a m => .ok a m.leaveCall
  | .error stop m => .error stop m.leaveCall

/-- The value of a call whose body has ended.  A signal is left for the statement that
holds the call. -/
def conclude : Flow → Eval Value
  | .return_ v => return v
  | .signal s => do
    modify fun m => { m with pending := some s }
    return .uninit
  | _ => return .uninit

/-- Binds the parameters of a call, unless it has too many arguments or there are too
many calls. -/
def enter (self : Meaning) (f : Function) (args : List Expr) (place : Location) :
    Eval (List (String × Binding) × List Nat) := do
  if f.params.length < args.length then
    failAt (.tooManyArguments f.name args.length f.params.length) place
  else if maxCallDepth ≤ (← get).callDepth then failAt (.callDepthExceeded f.name) place
  else bindParams self (f.params.zipIdx.map fun (param, i) => (param, f.isArrayParam i)) args

/-- Runs the body of a function in a frame of its own. -/
def body (self : Meaning) (f : Function) (bindings : List (String × Binding))
    (owned : List Nat) : Eval Flow :=
  inFrame bindings owned (sequence self.run f.body.body)

/-- Calls a function of the program. -/
def user (self : Meaning) (f : Function) (args : List Expr) (place : Location) : Eval Value := do
  let (bindings, owned) ← enter self f args place
  conclude (← body self f bindings owned)

/-- Calls a function of the program or, if it has none of that name, of the host. -/
def named (self : Meaning) (p : Program) (name : String) (args : List Expr) (place : Location) :
    Eval Value := do
  match p.function? name with
  | some f => user self f args place
  | none =>
    match (← get).host.function? name with
    | some f => return .ofText (f (← self.texts args))
    | none => raise (.undefinedFunction name place)

end Call
end Awk
