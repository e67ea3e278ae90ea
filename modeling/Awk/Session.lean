import Awk.Run

/-!
# Sessions

A program is set up, run, and possibly set up and run again.  Variables, counters,
ranges and the status stay from one run to the next.
-/

namespace Awk

/-- What can be set up before a run. -/
inductive Setting where
  | host (h : Host)
  | fieldSeparator (fs : String)
  | args (args : List String)
  | policy (p : Policy)
  /-- What the run finds whenever it looks whether it has been cancelled. -/
  | cancelled (answers : Answers Bool)
  | seed (x : Double)
  /-- An assignment `name=value` with escapes in its value. -/
  | assign (text : String)
  | preset (name value : String)

namespace Setting

def apply : Setting → Eval Unit
  | host h => modify fun m => { m with host := h }
  | fieldSeparator fs => Eval.onScope (Scope.setVar "FS" (.ofText fs))
  | args as => Eval.modifyScope (Scope.setArgs as)
  | policy p => modify fun m => { m with policy := p }
  | cancelled answers => modify fun m => { m with world := { m.world with cancelled := answers } }
  | seed x => modify (Machine.setSeed x)
  | assign text => Eval.onScope (Scope.assign text)
  | preset name value => Eval.onScope (Scope.preset name value)

/-- Applies settings in order up to the first that fails. -/
def applyAll : List Setting → Eval Unit
  | [] => return ()
  | s :: rest => do
    s.apply
    applyAll rest

end Setting

namespace Session

/-- The machine for a program that has not run. -/
def start (p : Program) (world : World) : Machine :=
  { Machine.initial world with activeRanges := Array.replicate p.rules.length false }

/-- Fuel that no run uses up. -/
def ample : Nat := 0x4000000000000000

/-- Runs a program over inputs. -/
def run (p : Program) (sources : List Source) (sink : Sink) : Eval Int := do
  modify fun m => { m with sink }
  Run.program p ample sources

/-- The inputs that operands name; without any, standard input. -/
def operandSources (operands : List String) : List Source :=
  if operands.isEmpty then [.operand "-"] else operands.map .operand

end Session
end Awk
