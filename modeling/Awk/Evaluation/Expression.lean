import Awk.Evaluation.Builtin
import Awk.Evaluation.Call

/-!
# Expressions
-/

namespace Awk

namespace Arith

def evaluate (op : Arith) (x y : Double) : Except Fault Double :=
  match op with
  | add => .ok (x + y)
  | sub => .ok (x - y)
  | mul => .ok (x * y)
  | div => if y.isZero then .error .divisionByZero else .ok (x / y)
  | mod => if y.isZero then .error .remainderByZero else .ok (x.remainder y)
  | pow => .ok (Double.pow x y)

end Arith

namespace Relation

def holds : Relation → Ordering → Bool
  | lt, o => o.isLT
  | le, o => o.isLE
  | gt, o => o.isGT
  | ge, o => o.isGE
  | eq, o => o.isEq
  | ne, o => o.isNe

end Relation

namespace UnaryOp

def evaluate : UnaryOp → Value → Value
  | neg, v => .num (-v.toNumber)
  | pos, v => .num v.toNumber
  | not, v => .ofBool !v.isTruthy

end UnaryOp

namespace Step

def delta : Step → Double
  | preIncrement | postIncrement => 1.0
  | preDecrement | postDecrement => -1.0

/-- Whether the value is that after the step. -/
def yieldsNew : Step → Bool
  | preIncrement | preDecrement => true
  | postIncrement | postDecrement => false

end Step

namespace Expr

open Eval

def evalLogic (self : Meaning) (op : Logic) (left right : Expr) : Eval Value := do
  let l ← self.isTrue left
  match op, l with
  | .and, false => return .ofBool false
  | .or, true => return .ofBool true
  | _, _ => return .ofBool (← self.isTrue right)

/-- The target is settled before the value is computed, and its old value read after
that. -/
def evalAssign (self : Meaning) (op : Option Arith) (target value : Expr) : Eval Value := do
  let target ← Target.resolve self target
  let v ← self.value value
  let v ←
    match op with
    | none => pure v
    | some op => do
      let old ← target.read
      let x ← ofExcept (op.evaluate old.toNumber v.toNumber)
      pure (Value.num x)
  target.write v
  return v

def evalStep (self : Meaning) (how : Step) (target : Expr) : Eval Value := do
  let target ← Target.resolve self target
  let old := (← target.read).toNumber
  let new := old + how.delta
  target.write (.num new)
  return .num (if how.yieldsNew then new else old)

def resolveTarget? (self : Meaning) : Option Expr → Eval (Option Target)
  | none => return none
  | some e => return some (← Target.resolve self e)

/-- The next record of the file that is named, or of the main input, which alone
counts records. -/
def getlineRecord (self : Meaning) : Option Expr → Eval (Except Unit (Option String))
  | some file => do readFile (← self.text file)
  | none => do
    let record ← nextRecord
    if record.isSome then countRecord
    return .ok record

/-- One for a record, zero at the end of input, minus one if a file cannot be read. -/
def evalGetline (self : Meaning) (target file : Option Expr) : Eval Value := do
  let target ← resolveTarget? self target
  match ← getlineRecord self file with
  | .error () => return .num (-1.0)
  | .ok none => return .num 0.0
  | .ok (some record) =>
    match target with
    | some target => target.write (.ofText record)
    | none => modifyScope (Scope.setRecord record)
    return .num 1.0

/-- The value of an expression from the meanings of its parts. -/
def rule (p : Program) (self : Meaning) : Expr → Eval Value
  | number x _ => return .num x
  | string s _ => return .ofText s
  | regex pattern _ => do
    let re ← regexOf pattern
    return .ofBool (re.matchesText (← scope).record.text)
  | var name _ => onScope (Scope.getVar name)
  | field index _ => do
    let i ← self.fieldIndex index
    return (← scope).getField i
  | element array indices _ => do
    let key ← self.key indices
    onScope (Scope.getElement array key)
  | arith op left right _ => do
    let x ← self.number left
    let y ← self.number right
    return .num (← ofExcept (op.evaluate x y))
  | relation op left right _ => do
    let l ← self.value left
    let r ← self.value right
    return .ofBool (op.holds (l.compare r))
  | logic op left right _ => evalLogic self op left right
  | concat left right _ => do
    let l ← self.text left
    let r ← self.text right
    return .ofText (l ++ r)
  | unary op operand _ => return op.evaluate (← self.value operand)
  | assign op target value _ => evalAssign self op target value
  | step how target _ => evalStep self how target
  | cond test ifTrue ifFalse _ => do
    if ← self.isTrue test then self.value ifTrue else self.value ifFalse
  | call name args place => Call.named self p name args place
  | builtin b args place => b.call self args place
  | contains key array _ => do
    let key ← self.key key
    return .ofBool (← onScope (Scope.hasElement array key))
  | matching subject pattern negated _ => do
    let text ← self.text subject
    let re ← regexOf (← self.pattern pattern)
    return .ofBool (re.matchesText text != negated)
  | getline target file _ => evalGetline self target file
  | group inner _ => self.value inner

end Expr
end Awk
