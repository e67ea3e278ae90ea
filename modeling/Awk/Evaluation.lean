import Awk.Evaluation.Expression
import Awk.Evaluation.Statement

/-!
# Evaluation

Ties the rules together.  The fuel bounds the depth of terms within terms, calls
included, and within one loop the number of turns.
-/

namespace Awk

mutual

/-- The value of an expression.  An error without a place gets that of the innermost
expression it comes from. -/
def eval (p : Program) : Nat → Expr → Eval Value
  | 0, _ => throw .exhausted
  | n + 1, e => Eval.located e.place (Expr.rule p ⟨eval p n, exec p n⟩ e)

/-- What a statement does. -/
def exec (p : Program) : Nat → Stmt → Eval Flow
  | 0, _ => throw .exhausted
  | n + 1, s => do Stmt.settled (← Stmt.rule ⟨eval p n, exec p n⟩ n s)

end

/-- The meaning of a program's terms with a given fuel. -/
def meaning (p : Program) (fuel : Nat) : Meaning := ⟨eval p fuel, exec p fuel⟩

end Awk
