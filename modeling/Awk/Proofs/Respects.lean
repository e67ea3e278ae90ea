import Awk.Proofs.Permits

/-!
# What programs respect

A relation that every primitive step and every sequence respects, whatever the names, holds
between what a rule makes of two families of parts as soon as it holds between the parts:
`Respects.exprRule` and `RespectsCalls.stmtRule`.  A property of single computations is the
case of a relation that looks at one side only.
-/

namespace Awk

open Eval

/-- A relation between computations that holds between every primitive step and itself
and between sequences of what it holds between. -/
structure Respects (Q : ∀ ⦃α : Type⦄, Eval α → Eval α → Prop) : Prop where
  pure {α : Type} (a : α) : Q (pure a) (pure a)
  bind {α β : Type} {x y : Eval α} {f g : α → Eval β} :
    Q x y → (∀ a, Q (f a) (g a)) → Q (x >>= f) (y >>= g)
  stop {α : Type} (why : Stop) : Q (throw why : Eval α) (throw why)
  located {α : Type} {x y : Eval α} (place : Location) :
    Q x y → Q (Eval.located place x) (Eval.located place y)
  access {α : Type} (a : Scope.Access α) : Q (onScope a.op) (onScope a.op)
  newArray : Q (onScope Scope.newArray) (onScope Scope.newArray)
  fillArray (id : Nat) (values : List Value) :
    Q (onScope (Scope.fillArray id values)) (onScope (Scope.fillArray id values))
  sameNames (f : Scope → Scope) : (∀ s, Scope.SameNames s (f s)) →
    Q (modifyScope f) (modifyScope f)
  write (text : String) : Q (Eval.write text) (Eval.write text)
  detached {α : Type} (x : Eval α) : Detached x → Q x x

namespace Respects

variable {Q : ∀ ⦃α : Type⦄, Eval α → Eval α → Prop} (h : Respects Q)

include h

/-- Where all accesses are respected nothing has to be forbidden. -/
theorem under : RespectsUnder .all Q where
  pure := h.pure
  bind := h.bind
  stop := h.stop
  located := h.located
  access a _ := h.access a
  assign text := by
    unfold Scope.assign
    split
    · next name value _ =>
      unfold Scope.preset
      split
      · exact h.access (.setVar name (.infer (Text.unescape value)))
      · exact h.stop _
    · exact h.stop _
  refill name values result _ := by
    have hscope : Q Eval.scope Eval.scope := h.detached _ fun _ => ⟨rfl, rfl, rfl, rfl, rfl⟩
    refine h.bind (h.access (.arrayId name)) fun id => h.bind hscope fun _ => ?_
    exact h.bind (h.fillArray id _) fun _ => h.pure _
  sameNames := h.sameNames
  write := h.write
  detached := h.detached

theorem isPending : Q Eval.isPending Eval.isPending := h.under.isPending

variable {self self' : Meaning} (hv : ∀ e, Q (self.value e) (self'.value e))

include hv

theorem isTrue (e : Expr) : Q (self.isTrue e) (self'.isTrue e) :=
  h.bind (hv e) fun _ => h.pure _

theorem enter (f : Function) (args : List Expr) (place : Location) :
    Q (Call.enter self f args place) (Call.enter self' f args place) :=
  h.under.enter (E := fun _ => True) (fun e _ => hv e) h.newArray f place (fun _ _ => trivial)
    fun _ _ _ _ _ => trivial

/-- A call that is not one of a function of the program. -/
theorem hostCall (name : String) (args : List Expr) (place : Location) {p : Program}
    (hp : p.function? name = none) :
    Q (Call.named self p name args place) (Call.named self' p name args place) :=
  h.under.hostCall (E := fun _ => True) (fun e _ => hv e) name place hp fun _ _ => trivial

/-- A rule for expressions respects what its parts respect, except that a call of a
function of the program has to be looked at on its own. -/
theorem exprRule {p : Program} (e : Expr)
    (hcall : ∀ name args place, e = .call name args place →
      Q (Call.named self p name args place) (Call.named self' p name args place)) :
    Q (e.rule p self) (e.rule p self') :=
  h.under.exprRule (fun e _ => hv e) e.permitted_all hcall

theorem loopTest (test : Option Expr) : Q (Stmt.loopTest self test) (Stmt.loopTest self' test) :=
  h.under.loopTest (E := fun _ => True) (fun e _ => hv e) fun _ _ => trivial

theorem loopStep (update : Option Expr) :
    Q (Stmt.loopStep self update) (Stmt.loopStep self' update) :=
  h.under.loopStep (E := fun _ => True) (fun e _ => hv e) fun _ _ => trivial

theorem runPrint (args : List Expr) : Q (Stmt.runPrint self args) (Stmt.runPrint self' args) :=
  h.under.runPrint (E := fun _ => True) (fun e _ => hv e) fun _ _ => trivial

theorem runPrintf (format : Expr) (args : List Expr) :
    Q (Stmt.runPrintf self format args) (Stmt.runPrintf self' format args) :=
  h.under.runPrintf (E := fun _ => True) (fun e _ => hv e) trivial fun _ _ => trivial

theorem exitCode (code : Option Expr) : Q (Stmt.exitCode self code) (Stmt.exitCode self' code) :=
  h.under.exitCode (E := fun _ => True) (fun e _ => hv e) fun _ _ => trivial

theorem runDelete (array : String) (index : List Expr) :
    Q (Stmt.runDelete self array index) (Stmt.runDelete self' array index) :=
  h.under.runDelete (E := fun _ => True) (fun e _ => hv e) trivial (fun _ => trivial)
    fun _ _ => trivial

end Respects

/-- A relation that also respects what only statements and calls do: to take a signal or
leave one behind, and to run in a new frame. -/
structure RespectsCalls (Q : ∀ ⦃α : Type⦄, Eval α → Eval α → Prop) : Prop extends Respects Q where
  takePending : Q Eval.takePending Eval.takePending
  leave (s : Signal) : Q (modify fun m : Machine => { m with pending := some s })
    (modify fun m : Machine => { m with pending := some s })
  inFrame {α : Type} {x y : Eval α} (bindings : List (String × Binding)) (owned : List Nat) :
    Q x y → Q (Call.inFrame bindings owned x) (Call.inFrame bindings owned y)

namespace RespectsCalls

variable {Q : ∀ ⦃α : Type⦄, Eval α → Eval α → Prop} (h : RespectsCalls Q)

include h

theorem statements : RespectsStatements .all Q where
  toRespectsUnder := h.under
  takePending := h.takePending

variable {self self' : Meaning} (hv : ∀ e, Q (self.value e) (self'.value e))
  (hr : ∀ s, Q (self.run s) (self'.run s))

include hv hr

theorem stmtRule (fuel : Nat) (s : Stmt) : Q (s.rule self fuel) (s.rule self' fuel) :=
  h.statements.stmtRule (fun e _ => hv e) (fun s _ => hr s) fuel s.permitted_all

theorem user (f : Function) (args : List Expr) (place : Location) :
    Q (Call.user self f args place) (Call.user self' f args place) := by
  refine h.bind (h.enter hv f args place) fun bound => ?_
  have hbody : Q (Call.sequence self.run f.body.body) (Call.sequence self'.run f.body.body) :=
    h.under.sequence fun s _ => hr s
  refine h.bind (h.inFrame bound.1 bound.2 hbody) fun flow => ?_
  cases flow with
  | signal s => exact h.bind (h.leave s) fun _ => h.pure _
  | _ => exact h.pure _

theorem named (p : Program) (name : String) (args : List Expr) (place : Location) :
    Q (Call.named self p name args place) (Call.named self' p name args place) := by
  cases hp : p.function? name with
  | none => exact h.hostCall hv name args place hp
  | some f =>
    unfold Call.named
    rw [hp]
    exact h.user hv hr f args place

omit hv hr in
/-- What all steps respect, programs respect, whatever the fuel. -/
theorem evaluation (p : Program) (n : Nat) :
    (∀ e, Q (eval p n e) (eval p n e)) ∧ ∀ s, Q (exec p n s) (exec p n s) := by
  induction n with
  | zero => exact ⟨fun _ => h.stop _, fun _ => h.stop _⟩
  | succ n ih =>
    have hv : ∀ e, Q ((meaning p n).value e) ((meaning p n).value e) := ih.1
    have hr : ∀ s, Q ((meaning p n).run s) ((meaning p n).run s) := ih.2
    constructor
    · intro e
      refine h.located e.place (h.exprRule hv e fun name args place _ => ?_)
      exact h.named hv hr p name args place
    · intro s
      exact h.statements.settled (h.stmtRule hv hr n s)

omit hv hr in
theorem binding (p : Program) (n : Nat) (f : Function) (args : List Expr) (place : Location) :
    Q (Call.enter (meaning p n) f args place) (Call.enter (meaning p n) f args place) :=
  h.enter (h.evaluation p n).1 f args place

omit hv hr in
theorem block (p : Program) (n : Nat) (body : List Stmt) :
    Q (Call.sequence (exec p n) body) (Call.sequence (exec p n) body) :=
  h.under.sequence fun s _ => (h.evaluation p n).2 s

end RespectsCalls
end Awk
