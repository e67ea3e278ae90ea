import Awk.Proofs.Subterms
import Awk.Run

/-!
# Whole programs and whole runs

The walk over the rules of the evaluator, taken on to calls and to the phases of a run.  A relation
that respects what terms do, what calls do around them and what the driver of a run does around
those, holds between a run and the same run with other meanings of its terms.
-/

namespace Awk

open Eval

/-- A relation that respects also what calls do around bodies. -/
structure RespectsProgram (A : Permit) (Q : ∀ ⦃α : Type⦄, Eval α → Eval α → Prop) : Prop
    extends RespectsBodies A Q where
  newArray : Q (onScope Scope.newArray) (onScope Scope.newArray)
  leave (s : Signal) : Q (modify fun m : Machine => { m with pending := some s })
    (modify fun m : Machine => { m with pending := some s })
  inFrame {α : Type} {x y : Eval α} (bindings : List (String × Binding)) (owned : List Nat) :
    Q x y → Q (Call.inFrame bindings owned x) (Call.inFrame bindings owned y)

namespace RespectsProgram

variable {A : Permit} {Q : ∀ ⦃α : Type⦄, Eval α → Eval α → Prop} (h : RespectsProgram A Q)

include h

theorem conclude (flow : Flow) : Q (Call.conclude flow) (Call.conclude flow) := by
  cases flow with
  | signal s => exact h.bind (h.leave s) fun _ => h.pure _
  | _ => exact h.pure _

theorem user {self self' : Meaning} {E : Expr → Prop} {S : Stmt → Prop}
    (harrays : ∀ name, A (.arrayId name)) (hv : ∀ e, E e → Q (self.value e) (self'.value e))
    (hr : ∀ s, S s → Q (self.run s) (self'.run s)) {f : Function}
    (hbody : ∀ s ∈ f.body.body, S s) {args : List Expr} (hargs : ∀ e ∈ args, E e)
    (place : Location) : Q (Call.user self f args place) (Call.user self' f args place) := by
  have henter := h.enter hv h.newArray f place hargs fun _ name _ _ _ => harrays name
  have hseq : Q (Call.sequence self.run f.body.body) (Call.sequence self'.run f.body.body) :=
    h.sequence fun s hs => hr s (hbody s hs)
  exact h.bind henter fun bound => h.bind (h.inFrame bound.1 bound.2 hseq) h.conclude

omit h in
/-- What all steps respect holds between the terms of programs and other meanings of them that come
about by putting something around the rules. -/
theorem variants (h : RespectsProgram .all Q) {p : Program} (self : Nat → Meaning)
    (hzero : (∀ e, Q (eval p 0 e) ((self 0).value e)) ∧ ∀ s, Q (exec p 0 s) ((self 0).run s))
    (hvalue : ∀ n e, Q (eval p (n + 1) e) (Eval.located e.place (e.rule p (self n))) →
      Q (eval p (n + 1) e) ((self (n + 1)).value e))
    (hrun : ∀ n s, Q (exec p (n + 1) s) (s.rule (self n) n >>= Stmt.settled) →
      Q (exec p (n + 1) s) ((self (n + 1)).run s))
    (n : Nat) :
    (∀ e, Q (eval p n e) ((self n).value e)) ∧ ∀ s, Q (exec p n s) ((self n).run s) := by
  have huser : ∀ n, (∀ e, True → Q ((meaning p n).value e) ((self n).value e)) →
      (∀ s, True → Q ((meaning p n).run s) ((self n).run s)) → ∀ f args place,
      Q (Call.user (meaning p n) f args place) (Call.user (self n) f args place) :=
    fun n hv hr f args place => h.user (fun _ => trivial) hv hr (fun _ _ => trivial)
      (fun _ _ => trivial) place
  have hall : (∀ e, True → Q (eval p n e) ((self n).value e)) ∧
      ∀ s, True → Q (exec p n s) ((self n).run s) :=
    h.evaluations self (fun e _ => e.permitted_all) (fun s _ => s.permitted_all)
      (fun _ _ _ _ _ _ => trivial) hzero (fun n e _ hx => hvalue n e hx)
      (fun n s _ hx => hrun n s hx)
      (fun n hv hr _ f args place _ _ => huser n hv hr f args place) n
  exact ⟨fun e => hall.1 e trivial, fun s => hall.2 s trivial⟩

omit h in
/-- What all steps respect, programs respect. -/
theorem evaluation (h : RespectsProgram .all Q) (p : Program) (n : Nat) :
    (∀ e, Q (eval p n e) (eval p n e)) ∧ ∀ s, Q (exec p n s) (exec p n s) :=
  h.variants (meaning p) ⟨fun _ => h.stop _, fun _ => h.stop _⟩ (fun _ _ hx => hx)
    (fun _ _ hx => hx) n

omit h in
/-- What all steps respect that assign only some variables, programs respect that assign only those,
also if something is put around the rules of the terms. -/
theorem programs {W : String → Prop} (h : RespectsProgram (.assigning W) Q) {p : Program}
    {P : Expr → Prop} {S : Stmt → Prop} (hp : p.Everywhere P S) (hP : ∀ e, P e → e.Assigns W)
    (hS : ∀ s, S s → s.Assigns W) (self : Nat → Meaning)
    (hzero : (∀ e, Q (eval p 0 e) ((self 0).value e)) ∧ ∀ s, Q (exec p 0 s) ((self 0).run s))
    (hvalue : ∀ n e, e.Everywhere P →
      Q (eval p (n + 1) e) (Eval.located e.place (e.rule p (self n))) →
      Q (eval p (n + 1) e) ((self (n + 1)).value e))
    (hrun : ∀ n s, s.Everywhere P S → Q (exec p (n + 1) s) (s.rule (self n) n >>= Stmt.settled) →
      Q (exec p (n + 1) s) ((self (n + 1)).run s))
    (n : Nat) :
    (∀ e, e.Everywhere P → Q (eval p n e) ((self n).value e)) ∧
      ∀ s, s.Everywhere P S → Q (exec p n s) ((self n).run s) := by
  refine h.evaluations self (fun e he => he.permitted (hP e he.node))
    (fun s hs => hs.permitted (hS s hs.node)) (fun name args place hcall e he => hcall.part he)
    hzero hvalue hrun ?_ n
  intro n hv hr name f args place hf hcall
  have hmem : f ∈ p.functions := List.mem_of_find?_eq_some hf
  have hbody := fun s hs => hp.bodies f hmem s hs
  have hargs : ∀ e ∈ args, e.Everywhere P := fun e he => hcall.part he
  have hv' : ∀ e, e.Everywhere P → Q ((meaning p n).value e) ((self n).value e) := hv
  have hr' : ∀ s, s.Everywhere P S → Q ((meaning p n).run s) ((self n).run s) := hr
  exact h.user (fun _ => trivial) hv' hr' hbody hargs place

end RespectsProgram

theorem isCancelled_run (m : Machine) : isCancelled m = .ok m.world.cancelled.now
    { m with world := { m.world with cancelled := m.world.cancelled.later } } := rfl

/-- One turn of the main loop reads a record, counts it and applies the rules to it. -/
theorem mainRules_turn (self : Meaning) (rules : List (Rule × Nat)) (turns : Nat) :
    Run.mainRules self rules (turns + 1) = (do
      if ← isCancelled then Run.setExitCode Run.cancelledCode
      else
        match ← Eval.nextCounted with
        | none => return ()
        | some record =>
          modifyScope (Scope.setRecord record)
          match ← Run.processRecord self rules with
          | some (.exit code) => Run.setExitCode code
          | some .nextFile =>
            modify fun m => { m with current := none }
            Run.mainRules self rules turns
          | _ => Run.mainRules self rules turns) := by
  rw [Run.mainRules]
  congr 1
  funext cancelled
  split
  · rfl
  · rw [Eval.nextCounted, bind_assoc]
    congr 1
    funext record
    cases record with
    | none => rfl
    | some record =>
      refine .trans ?_ (bind_assoc Eval.countRecord (fun _ => pure (some record)) _).symm
      rfl

namespace RespectsExprs

variable {A : Permit} {Q : ∀ ⦃α : Type⦄, Eval α → Eval α → Prop} (h : RespectsExprs A Q)
  {self self' : Meaning} {E : Expr → Prop} (hv : ∀ e, E e → Q (self.value e) (self'.value e))

include h hv

theorem passes {t : Test} (ht : ∀ e ∈ Pattern.exprs.ofTest t, E e) :
    Q (Run.passes self t) (Run.passes self' t) := by
  cases t with
  | regex pattern => exact h.bind (h.regexOf pattern) fun _ => h.bind h.scope fun _ => h.pure _
  | expr e => exact h.isTrue hv (ht e (List.mem_singleton_self e))

theorem selects {i : Nat} (hactive : ∀ b, Q (Run.setActive i b) (Run.setActive i b))
    {pattern : Option Pattern} (hp : ∀ t ∈ pattern, ∀ e ∈ t.exprs, E e) :
    Q (Run.selects self i pattern) (Run.selects self' i pattern) := by
  rcases pattern with _ | _ | _ | t | ⟨first, last⟩
  · exact h.pure _
  · exact h.pure _
  · exact h.pure _
  · exact h.passes hv (hp _ rfl)
  · have hfirst := h.passes hv fun e he => hp _ rfl e (List.mem_append_left _ he)
    have hlast := h.passes hv fun e he => hp _ rfl e (List.mem_append_right _ he)
    show Q ((do return Run.isActive (← get) i) >>= fun active => if active then _ else _)
      ((do return Run.isActive (← get) i) >>= fun active => if active then _ else _)
    refine h.bind (h.gets fun _ _ => rfl) fun active => ?_
    split
    · refine h.bind hlast fun ends => ?_
      dsimp only
      split
      · exact h.bind (hactive false) fun _ => h.pure _
      · exact h.pure _
    · refine h.bind hfirst fun begins => ?_
      split
      · exact h.bind hlast fun ends => h.bind (hactive _) fun _ => h.pure _
      · exact h.pure _

end RespectsExprs

/-- A relation that respects also what the driver of a run does to carry out a step, but for what it
notes of ranges. -/
structure RespectsSteps (A : Permit) (Q : ∀ ⦃α : Type⦄, Eval α → Eval α → Prop) : Prop
    extends RespectsProgram A Q where
  attempt {α : Type} {x y : Eval α} : Q x y → Q (Run.attempt x) (Run.attempt y)
  isCancelled : Q Eval.isCancelled Eval.isCancelled
  closeInputs : Q Run.closeInputs Run.closeInputs

/-- A relation that respects also what the driver of a run does to carry out a rule. -/
structure RespectsRules (A : Permit) (Q : ∀ ⦃α : Type⦄, Eval α → Eval α → Prop) : Prop
    extends RespectsSteps A Q where
  setActive (i : Nat) (b : Bool) : Q (Run.setActive i b) (Run.setActive i b)

/-- A relation that respects also what the driver makes of the end of a rule. -/
structure RespectsRuns (A : Permit) (Q : ∀ ⦃α : Type⦄, Eval α → Eval α → Prop) : Prop
    extends RespectsRules A Q where
  reset : Q Run.reset Run.reset
  handle (e : Error) : Q (Run.handle e) (Run.handle e)
  setExitCode (code : Int) : Q (Run.setExitCode code) (Run.setExitCode code)
  leaveInput : Q (modify fun m : Machine => { m with current := none })
    (modify fun m : Machine => { m with current := none })

namespace RespectsProgram

variable {A : Permit} {Q : ∀ ⦃α : Type⦄, Eval α → Eval α → Prop} (h : RespectsProgram A Q)
  {self self' : Meaning} {E : Expr → Prop} {S : Stmt → Prop}
  (hv : ∀ e, E e → Q (self.value e) (self'.value e)) (hr : ∀ s, S s → Q (self.run s) (self'.run s))

include h

include hr in
theorem act {r : Rule} (hact : ∀ action ∈ r.action, ∀ s ∈ action.body, S s) :
    Q (Run.act self r) (Run.act self' r) := by
  unfold Run.act
  cases haction : r.action with
  | none => exact h.bind h.printRecord fun _ => h.pure _
  | some block => exact h.sequence fun s hs => hr s (hact block haction s hs)

include hv hr in
theorem dispatch {i : Nat} (hactive : ∀ b, Q (Run.setActive i b) (Run.setActive i b)) {r : Rule}
    (hp : ∀ t ∈ r.pattern, ∀ e ∈ t.exprs, E e)
    (hact : ∀ action ∈ r.action, ∀ s ∈ action.body, S s) :
    Q (Run.dispatch self i r) (Run.dispatch self' i r) := by
  refine h.bind (h.selects hv hactive hp) fun selected => h.unlessPending ?_
  cases selected with
  | true => exact h.act hr hact
  | false => exact h.pure _

end RespectsProgram

namespace RespectsRuns

variable {A : Permit} {Q : ∀ ⦃α : Type⦄, Eval α → Eval α → Prop} (h : RespectsRuns A Q)
  {self self' : Meaning} {E : Expr → Prop} {S : Stmt → Prop}
  (hv : ∀ e, E e → Q (self.value e) (self'.value e)) (hr : ∀ s, S s → Q (self.run s) (self'.run s))

include h

section

include hr

theorem beginRules {rules : List Rule}
    (hact : ∀ r ∈ rules, ∀ action ∈ r.action, ∀ s ∈ action.body, S s) :
    Q (Run.beginRules self rules) (Run.beginRules self' rules) := by
  induction rules with
  | nil => exact h.pure _
  | cons r rest ih =>
    obtain ⟨hfirst, hrest⟩ := List.forall_mem_cons.mp hact
    refine h.bind (h.attempt (h.act hr hfirst)) fun flow => ?_
    split
    · exact h.bind (h.setExitCode _) fun _ => h.pure _
    · exact ih hrest
    · exact h.bind (h.handle _) fun _ => ih hrest

theorem endRules {rules : List Rule}
    (hact : ∀ r ∈ rules, ∀ action ∈ r.action, ∀ s ∈ action.body, S s) :
    Q (Run.endRules self rules) (Run.endRules self' rules) := by
  induction rules with
  | nil => exact h.pure _
  | cons r rest ih =>
    obtain ⟨hfirst, hrest⟩ := List.forall_mem_cons.mp hact
    refine h.bind (h.attempt (h.act hr hfirst)) fun flow => ?_
    split
    · exact h.setExitCode _
    · exact ih hrest
    · exact h.bind h.reset fun _ => h.stop _

end

include hv hr

theorem processRecord {rules : List (Rule × Nat)}
    (hp : ∀ r ∈ rules, ∀ t ∈ r.1.pattern, ∀ e ∈ t.exprs, E e)
    (hact : ∀ r ∈ rules, ∀ action ∈ r.1.action, ∀ s ∈ action.body, S s) :
    Q (Run.processRecord self rules) (Run.processRecord self' rules) := by
  induction rules with
  | nil => exact h.pure _
  | cons rule rest ih =>
    obtain ⟨r, i⟩ := rule
    obtain ⟨hpfirst, hprest⟩ := List.forall_mem_cons.mp hp
    obtain ⟨hactfirst, hactrest⟩ := List.forall_mem_cons.mp hact
    refine h.bind (h.attempt (h.dispatch hv hr (h.setActive i) hpfirst hactfirst)) fun flow => ?_
    split
    · exact h.pure _
    · exact h.pure _
    · exact ih hprest hactrest
    · exact h.bind (h.handle _) fun _ => ih hprest hactrest

theorem mainRules {rules : List (Rule × Nat)}
    (hp : ∀ r ∈ rules, ∀ t ∈ r.1.pattern, ∀ e ∈ t.exprs, E e)
    (hact : ∀ r ∈ rules, ∀ action ∈ r.1.action, ∀ s ∈ action.body, S s) (turns : Nat) :
    Q (Run.mainRules self rules turns) (Run.mainRules self' rules turns) := by
  induction turns with
  | zero => exact h.stop _
  | succ turns ih =>
    rw [mainRules_turn, mainRules_turn]
    refine h.bind (h.isCancelled) fun cancelled => ?_
    split
    · exact h.setExitCode _
    · refine h.bind h.nextCounted fun record => ?_
      cases record with
      | none => exact h.pure _
      | some record =>
        refine h.bind (h.record _ (.setRecord record)) fun _ =>
          h.bind (h.processRecord hv hr hp hact) fun signal => ?_
        split
        · exact h.setExitCode _
        · exact h.bind h.leaveInput fun _ => ih
        · exact ih

/-- What is respected by terms, calls and the driver holds between two runs over the same inputs. -/
theorem phases {p : Program} {sources : List Source}
    (hstart : Q (modify fun m : Machine => { m with sources }) (modify fun m => { m with sources }))
    (hp : ∀ r ∈ p.rules, ∀ t ∈ r.pattern, ∀ e ∈ t.exprs, E e)
    (hact : ∀ r ∈ p.rules, ∀ action ∈ r.action, ∀ s ∈ action.body, S s) (turns : Nat) :
    Q (Run.phases self p turns sources) (Run.phases self' p turns sources) := by
  have hmain : ∀ r ∈ p.rules.zipIdx.filter fun r => !r.1.isBegin && !r.1.isEnd, r.1 ∈ p.rules :=
    fun r hr => List.fst_mem_of_mem_zipIdx (List.mem_of_mem_filter hr)
  have hbegan : Q (Run.beforeEnd self p turns) (Run.beforeEnd self' p turns) := by
    refine h.bind (h.beginRules hr fun r hr => hact r (List.mem_of_mem_filter hr)) fun exited => ?_
    split
    · exact h.mainRules hv hr (fun r hr => hp r.1 (hmain r hr)) (fun r hr => hact r.1 (hmain r hr))
        turns
    · exact h.pure _
  have hended : Q (Run.endRules self (p.rules.filter (·.isEnd)))
      (Run.endRules self' (p.rules.filter (·.isEnd))) :=
    h.endRules hr fun r hr => hact r (List.mem_of_mem_filter hr)
  refine h.bind hstart fun _ => h.bind (h.attempt hbegan) fun began =>
    h.bind (h.attempt hended) fun ended => h.bind h.closeInputs fun _ =>
      h.bind (h.attempt h.flush) fun flushed => ?_
  split
  · exact h.stop _
  · exact h.stop _
  · exact h.stop _
  · exact h.gets fun _ _ => rfl

end RespectsRuns
end Awk
