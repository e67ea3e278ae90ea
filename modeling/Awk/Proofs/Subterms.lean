import Awk.Proofs.ArrayUse

/-!
# Terms within terms

What holds of every node of a term holds of every part that is evaluated with it.  `Expr.Everywhere`
and `Stmt.Everywhere` say of a term that all of its nodes have a property; from that follows what
the walk over the rules of the evaluator asks of one node.
-/

namespace Awk

namespace Expr

/-- The expressions right below a node. -/
def parts : Expr → List Expr
  | number .. | string .. | regex .. | var .. => []
  | field e _ | unary _ e _ | group e _ | step _ e _ => [e]
  | element _ es _ | call _ es _ | builtin _ es _ | contains es _ _ => es
  | arith _ l r _ | relation _ l r _ | logic _ l r _ | concat l r _ | matching l r _ _
  | assign _ l r _ => [l, r]
  | cond test ifTrue ifFalse _ => [test, ifTrue, ifFalse]
  | getline target file _ => target.toList ++ file.toList

/-- The variables that a node may assign itself. -/
def assigned : Expr → List String
  | assign _ target _ _ | step _ target _ | getline (some target) _ _ => target.named?.toList
  | builtin .sub (_ :: _ :: target :: _) _ | builtin .gsub (_ :: _ :: target :: _) _ =>
    target.named?.toList
  | _ => []

/-- All nodes of the expression have the property. -/
inductive Everywhere (P : Expr → Prop) : Expr → Prop where
  | intro {e : Expr} : P e → (∀ part ∈ e.parts, Everywhere P part) → Everywhere P e

end Expr

namespace Stmt

/-- The expressions right below a statement. -/
def exprs : Stmt → List Expr
  | expr e => [e]
  | print args _ => args
  | printf format args _ => format :: args
  | ifElse test _ _ _ | whileLoop test _ _ | doWhile _ test _ => [test]
  | forLoop init test update _ _ => init.toList ++ test.toList ++ update.toList
  | exit code _ => code.toList
  | returnValue value _ => value.toList
  | delete _ index _ => index
  | forIn .. | block .. | breakLoop .. | continueLoop .. | next .. | nextFile .. | empty => []

/-- The statements right below a statement. -/
def parts : Stmt → List Stmt
  | ifElse _ ifTrue ifFalse _ => ifTrue :: ifFalse.toList
  | whileLoop _ body _ | doWhile body _ _ | forLoop _ _ _ body _ | forIn _ _ body _ => [body]
  | block body _ => body
  | _ => []

/-- The variables that a statement assigns itself. -/
def assigned : Stmt → List String
  | forIn var _ _ _ => [var]
  | _ => []

/-- All nodes of the statement have the property that is asked of their kind. -/
inductive Everywhere (P : Expr → Prop) (S : Stmt → Prop) : Stmt → Prop where
  | intro {s : Stmt} : S s → (∀ e ∈ s.exprs, e.Everywhere P) →
      (∀ part ∈ s.parts, Everywhere P S part) → Everywhere P S s

end Stmt

namespace Pattern

def exprs : Pattern → List Expr
  | begin_ | end_ => []
  | test t => ofTest t
  | range first last => ofTest first ++ ofTest last
where
  ofTest : Test → List Expr
  | .expr e => [e]
  | .regex _ => []

end Pattern

namespace Program

/-- All nodes of the rules and the functions have the property that is asked of their kind. -/
structure Everywhere (P : Expr → Prop) (S : Stmt → Prop) (p : Program) : Prop where
  patterns : ∀ r ∈ p.rules, ∀ pattern ∈ r.pattern, ∀ e ∈ pattern.exprs, e.Everywhere P
  actions : ∀ r ∈ p.rules, ∀ action ∈ r.action, ∀ s ∈ action.body, s.Everywhere P S
  bodies : ∀ f ∈ p.functions, ∀ s ∈ f.body.body, s.Everywhere P S

end Program

/-! ## Variables that may be assigned -/

/-- Everything is permitted but to assign other variables than these. -/
def Permit.assigning (W : String → Prop) : Permit := fun _ a =>
  match a with
  | .setVar name _ => W name
  | _ => True

/-- A node assigns only these variables. -/
def Expr.Assigns (W : String → Prop) (e : Expr) : Prop := ∀ name ∈ e.assigned, W name

def Stmt.Assigns (W : String → Prop) (s : Stmt) : Prop := ∀ name ∈ s.assigned, W name

namespace Expr.Everywhere

variable {P : Expr → Prop} {e : Expr}

theorem node (h : e.Everywhere P) : P e := by
  cases h with
  | intro hnode _ => exact hnode

theorem part (h : e.Everywhere P) {part : Expr} (hpart : part ∈ e.parts) : part.Everywhere P := by
  cases h with
  | intro _ hparts => exact hparts part hpart

variable {W : String → Prop}

theorem permittedTarget (h : e.Everywhere P) (hW : ∀ name ∈ e.named?, W name) :
    e.PermittedTarget (.assigning W) (·.Everywhere P) := by
  fun_induction Expr.PermittedTarget (.assigning W) (·.Everywhere P) e with
  | case1 name => exact ⟨trivial, fun _ => hW name rfl⟩
  | case2 array indices => exact ⟨fun _ => ⟨trivial, fun _ => trivial⟩, fun _ he => h.part he⟩
  | case3 index => exact h.part (List.mem_singleton_self index)
  | case4 inner place ih => exact ih (h.part (List.mem_singleton_self inner)) hW
  | case5 e => trivial

theorem permittedArray (e : Expr) : e.PermittedArray (.assigning W) := by
  fun_induction Expr.PermittedArray (.assigning W) e with
  | case1 name => trivial
  | case2 inner place ih => exact ih
  | case3 e => trivial

theorem builtinPermitted {b : Builtin} {args : List Expr} {place : Location}
    (hargs : ∀ e ∈ args, e.Everywhere P) (hW : (builtin b args place).Assigns W) :
    b.Permitted (.assigning W) (·.Everywhere P) args := by
  have htarget : ∀ pattern replacement more, b = .sub ∨ b = .gsub →
      args = pattern :: replacement :: more → ∀ e ∈ more.head?,
        e.PermittedTarget (.assigning W) (·.Everywhere P) := by
    rintro pattern replacement more hb rfl e he
    obtain ⟨rest, rfl⟩ : ∃ rest, more = e :: rest := List.head?_eq_some_iff.mp he
    refine (hargs e (by simp)).permittedTarget fun name hname => hW name ?_
    rcases hb with rfl | rfl <;> exact Option.mem_toList.mpr hname
  unfold Builtin.Permitted
  split
  · next s array more =>
    exact ⟨hargs s (by simp), permittedArray array, fun e he => hargs e (by simp [he])⟩
  · next pattern replacement more =>
    refine ⟨hargs pattern (by simp), hargs replacement (by simp), fun e he => ?_⟩
    exact htarget pattern replacement more (by simp) rfl e he
  · next pattern replacement more =>
    refine ⟨hargs pattern (by simp), hargs replacement (by simp), fun e he => ?_⟩
    exact htarget pattern replacement more (by simp) rfl e he
  · exact permittedArray _
  · exact permittedArray _
  · exact hargs

/-- A node makes only accesses that are permitted if it assigns only what may be assigned. -/
theorem permitted (h : e.Everywhere P) (hW : e.Assigns W) :
    e.Permitted (.assigning W) (·.Everywhere P) := by
  cases e with
  | number | string | regex | var | call => trivial
  | field index | unary op index | group index => exact h.part (List.mem_singleton_self index)
  | element array indices place => exact ⟨fun _ => trivial, fun _ he => h.part he⟩
  | contains key array place => exact ⟨fun _ => trivial, fun _ he => h.part he⟩
  | arith _ l r | relation _ l r | logic _ l r | concat l r | matching l r =>
    exact ⟨h.part (List.mem_cons_self ..), h.part (List.mem_cons_of_mem _ (List.mem_cons_self ..))⟩
  | assign op target value place =>
    refine ⟨(h.part (List.mem_cons_self ..)).permittedTarget fun name hname => hW name ?_,
      h.part (List.mem_cons_of_mem _ (List.mem_cons_self ..))⟩
    exact Option.mem_toList.mpr hname
  | step how target place =>
    refine (h.part (List.mem_singleton_self target)).permittedTarget fun name hname => hW name ?_
    exact Option.mem_toList.mpr hname
  | cond test ifTrue ifFalse place =>
    exact ⟨h.part (by simp [parts]), h.part (by simp [parts]), h.part (by simp [parts])⟩
  | builtin b args place => exact builtinPermitted (fun _ he => h.part he) hW
  | getline target file place =>
    refine ⟨fun e he => ?_, fun e he => h.part (by simp [parts, Option.mem_def.mp he])⟩
    cases he
    refine (h.part (by simp [parts])).permittedTarget fun name hname => hW name ?_
    exact Option.mem_toList.mpr hname

end Expr.Everywhere

namespace Stmt.Everywhere

variable {P : Expr → Prop} {S : Stmt → Prop} {W : String → Prop} {s : Stmt}

theorem node (h : s.Everywhere P S) : S s := by
  cases h with
  | intro hnode _ _ => exact hnode

theorem expr (h : s.Everywhere P S) {e : Expr} (he : e ∈ s.exprs) : e.Everywhere P := by
  cases h with
  | intro _ hexprs _ => exact hexprs e he

theorem part (h : s.Everywhere P S) {part : Stmt} (hpart : part ∈ s.parts) :
    part.Everywhere P S := by
  cases h with
  | intro _ _ hparts => exact hparts part hpart

theorem permitted (h : s.Everywhere P S) (hW : s.Assigns W) :
    s.Permitted (.assigning W) (·.Everywhere P) (·.Everywhere P S) := by
  cases s with
  | breakLoop | continueLoop | next | nextFile | empty => trivial
  | expr e => exact h.expr (List.mem_singleton_self e)
  | print args place => exact fun _ he => h.expr he
  | printf format args place =>
    exact ⟨h.expr (List.mem_cons_self ..), fun _ he => h.expr (List.mem_cons_of_mem _ he)⟩
  | ifElse test ifTrue ifFalse place =>
    refine ⟨h.expr (List.mem_singleton_self test), h.part (List.mem_cons_self ..), fun s hs => ?_⟩
    exact h.part (List.mem_cons_of_mem _ (Option.mem_toList.mpr hs))
  | whileLoop test body place | doWhile body test place =>
    exact ⟨h.expr (List.mem_singleton_self test), h.part (List.mem_singleton_self body)⟩
  | forLoop init test update body place =>
    refine ⟨fun e he => ?_, fun e he => ?_, fun e he => ?_, h.part (List.mem_singleton_self body)⟩
    all_goals exact h.expr (by simp [exprs, Option.mem_def.mp he])
  | forIn var array body place =>
    exact ⟨trivial, fun _ => hW var (List.mem_singleton_self var),
      h.part (List.mem_singleton_self body)⟩
  | block body place => exact fun _ hs => h.part hs
  | exit code place => exact fun _ he => h.expr (Option.mem_toList.mpr he)
  | returnValue value place => exact fun _ he => h.expr (Option.mem_toList.mpr he)
  | delete array index place => exact ⟨trivial, fun _ => trivial, fun _ he => h.expr he⟩

end Stmt.Everywhere

end Awk
