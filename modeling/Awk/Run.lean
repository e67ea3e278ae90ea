import Awk.Evaluation

/-!
# Runs

A run has three phases: the `BEGIN` rules, the other rules for each record, and the
`END` rules, which are never left out.
-/

namespace Awk

namespace Rule

def isBegin (r : Rule) : Bool :=
  match r.pattern with
  | some .begin_ => true
  | _ => false

def isEnd (r : Rule) : Bool :=
  match r.pattern with
  | some .end_ => true
  | _ => false

end Rule

namespace Run

open Eval

/-- Catches errors, and nothing else that stops a computation. -/
def attempt {α : Type} (x : Eval α) : Eval (Except Error α) := fun m =>
  match x m with
  | .ok a m => .ok (.ok a) m
  | .error (.failed e) m => .ok (.error e) m
  | .error stop m => .error stop m

/-- Leaves all calls and forgets their signals. -/
def reset : Eval Unit :=
  modify fun m => { m with pending := none, scope := m.scope.popAll, callDepth := 0 }

/-- Deals with the failure of a rule as the policy says. -/
def handle (e : Error) : Eval Unit := do
  reset
  match (← get).policy with
  | .abort => raise e
  | .skipRule => modify fun m => { m with skipped := e :: m.skipped }

/-- What a rule does with a record that it selects. -/
def act (self : Meaning) (r : Rule) : Eval Flow :=
  match r.action with
  | some block => Call.sequence self.run block.body
  | none => do
    printRecord
    return .normal

def setExitCode (code : Int) : Eval Unit := modify fun m => { m with exitCode := code }

/-- Runs the `BEGIN` rules.  Tells whether one of them ended the program. -/
def beginRules (self : Meaning) : List Rule → Eval Bool
  | [] => return false
  | r :: rest => do
    match ← attempt (act self r) with
    | .ok (.signal (.exit code)) =>
      setExitCode code
      return true
    | .ok _ => beginRules self rest
    | .error e =>
      handle e
      beginRules self rest

def endRules (self : Meaning) : List Rule → Eval Unit
  | [] => return ()
  | r :: rest => do
    match ← attempt (act self r) with
    | .ok (.signal (.exit code)) => setExitCode code
    | .ok _ => endRules self rest
    | .error e =>
      reset
      raise e

def passes (self : Meaning) : Test → Eval Bool
  | .regex pattern => do
    let re ← regexOf pattern
    return re.matchesText (← scope).record.text
  | .expr e => self.isTrue e

def isActive (m : Machine) (i : Nat) : Bool := (m.activeRanges[i]?).getD false

def setActive (i : Nat) (b : Bool) : Eval Unit :=
  modify fun m => { m with activeRanges := m.activeRanges.setIfInBounds i b }

/-- Whether rule `i` selects the record.  One record can both begin and end a range. -/
def selects (self : Meaning) (i : Nat) : Option Pattern → Eval Bool
  | none => return true
  | some .begin_ | some .end_ => return false
  | some (.test t) => passes self t
  | some (.range first last) => do
    if isActive (← get) i then
      if ← passes self last then setActive i false
      return true
    else if ← passes self first then
      let ends ← passes self last
      setActive i !ends
      return true
    else return false

/-- Applies a rule to the record.  A signal raised while the pattern is tested counts
before the action. -/
def dispatch (self : Meaning) (i : Nat) (r : Rule) : Eval Flow := do
  let selected ← selects self i r.pattern
  match ← takePending with
  | some s => return .signal s
  | none => if selected then act self r else return .normal

/-- Applies the rules to the record in order, until a signal ends that.  Tells what
the signal asks beyond that. -/
def processRecord (self : Meaning) : List (Rule × Nat) → Eval (Option Signal)
  | [] => return none
  | (r, i) :: rest => do
    match ← attempt (dispatch self i r) with
    | .ok (.signal .next) => return none
    | .ok (.signal s) => return some s
    | .ok _ => processRecord self rest
    | .error e =>
      handle e
      processRecord self rest

/-- The status of a run that was cancelled. -/
def cancelledCode : Int := 2

/-- Reads records and applies the rules to each until the input ends. -/
def mainRules (self : Meaning) (rules : List (Rule × Nat)) : Nat → Eval Unit
  | 0 => throw .exhausted
  | n + 1 => do
    if ← isCancelled then setExitCode cancelledCode
    else
      match ← nextRecord with
      | none => return ()
      | some record =>
        countRecord
        modifyScope (Scope.setRecord record)
        match ← processRecord self rules with
        | some (.exit code) => setExitCode code
        | some .nextFile =>
          modify fun m => { m with current := none }
          mainRules self rules n
        | _ => mainRules self rules n

/-- The phases that a failure or `exit` cuts short.  A program of `BEGIN` rules alone
reads no input. -/
def beforeEnd (self : Meaning) (p : Program) (fuel : Nat) : Eval Unit := do
  let exited ← beginRules self (p.rules.filter (·.isBegin))
  if !exited && !p.onlyBegin then
    mainRules self (p.rules.zipIdx.filter fun (r, _) => !r.isBegin && !r.isEnd) fuel

def closeInputs : Eval Unit := modify fun m => { m with current := none, opened := ∅ }

/-- All phases over inputs, from the meanings of terms.  Of several errors the first
counts. -/
def phases (self : Meaning) (p : Program) (fuel : Nat) (sources : List Source) : Eval Int := do
  modify fun m => { m with sources }
  let began ← attempt (beforeEnd self p fuel)
  let ended ← attempt (endRules self (p.rules.filter (·.isEnd)))
  closeInputs
  let flushed ← attempt flush
  match began, ended, flushed with
  | .error e, _, _ | .ok _, .error e, _ | .ok _, .ok _, .error e => raise e
  | .ok _, .ok _, .ok _ => return (← get).exitCode

/-- Runs a program over inputs and yields its status. -/
def program (p : Program) (fuel : Nat) (sources : List Source) : Eval Int :=
  phases (meaning p fuel) p fuel sources

end Run
end Awk
