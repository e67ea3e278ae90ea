import Awk.Input
import Awk.Program

/-!
# Meanings and targets

The meaning of a term is given by rules from the meanings of its parts, which each
rule takes as an argument.
-/

namespace Awk

/-- What the parts of a term do. -/
structure Meaning where
  value : Expr → Eval Value
  run : Stmt → Eval Flow

namespace Meaning

def text (self : Meaning) (e : Expr) : Eval String := do Eval.textOf (← self.value e)

def number (self : Meaning) (e : Expr) : Eval Double := return (← self.value e).toNumber

def isTrue (self : Meaning) (e : Expr) : Eval Bool := return (← self.value e).isTruthy

/-- The values of terms from left to right. -/
def values (self : Meaning) : List Expr → Eval (List Value)
  | [] => return []
  | e :: es => return (← self.value e) :: (← self.values es)

def texts (self : Meaning) : List Expr → Eval (List String)
  | [] => return []
  | e :: es => return (← self.text e) :: (← self.texts es)

/-- The key of an element: the texts of the subscripts with `SUBSEP` between. -/
def key (self : Meaning) (indices : List Expr) : Eval String := do
  let values ← self.values indices
  let s ← Eval.scope
  Eval.requireTexts s.convfmt values
  return s.subsep.intercalate (values.map (·.toText s.convfmt))

def fieldIndex (self : Meaning) (e : Expr) : Eval Nat := do
  let n ← self.number e
  if n < 0.0 || n.isNaN then Eval.fail (.fieldIndexInvalid n)
  else if Double.ofNat maxFields < n then Eval.fail (.fieldIndexAboveLimit n)
  else return n.toNat64

/-- A pattern: a regular expression as it is written, and the text of anything else. -/
def pattern (self : Meaning) : Expr → Eval String
  | .regex pattern _ => return pattern
  | e => self.text e

end Meaning

/-- What an assignment writes.  Subscripts and field numbers are settled, so that they
are evaluated once. -/
inductive Target where
  | var (name : String)
  | element (array key : String)
  | field (index : Nat)
deriving DecidableEq, Repr

namespace Target

def resolve (self : Meaning) : Expr → Eval Target
  | .var name _ => return .var name
  | .element array indices _ => return .element array (← self.key indices)
  | .field index _ => return .field (← self.fieldIndex index)
  | .group inner _ => resolve self inner
  | e => Eval.failAt .notAssignable e.place

def read : Target → Eval Value
  | var name => Eval.onScope (Scope.getVar name)
  | element array key => Eval.onScope (Scope.getElement array key)
  | field i => return (← Eval.scope).getField i

/-- A variable that is kept as a text takes the text of what is assigned to it. -/
def write (v : Value) : Target → Eval Unit
  | var name => do
    if (Special.ofName? name).any (·.isText) then
      Eval.requireTexts (← Eval.scope).convfmt [v]
    Eval.onScope (Scope.setVar name v)
  | element array key => Eval.onScope (Scope.setElement array key v)
  | field i => do
    let text ← Eval.textOf v
    Eval.modifyScope (Scope.setField i text)

end Target
end Awk
