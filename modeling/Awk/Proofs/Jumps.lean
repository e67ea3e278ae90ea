import Awk.Evaluation
import Awk.Proofs.Computation

/-!
# Jumps

`break` and `continue` are for the loop around them and `return` is for the call.  A
statement ends in one of them only if it has it in its own text, outside of the loops that
take it: what the functions that it calls have in theirs does not count.
-/

namespace Awk

open Eval

inductive Jump where
  | break_
  | continue_
  | return_
deriving DecidableEq, Repr

namespace Flow

def jump? : Flow → Option Jump
  | .normal => none
  | .break_ => some .break_
  | .continue_ => some .continue_
  | .signal _ => none
  | .return_ _ => some .return_

end Flow

namespace Stmt

/-- The statement holds a jump that none of its loops takes. -/
inductive Jumps : Jump → Stmt → Prop
  | breakLoop (place : Location) : Jumps .break_ (.breakLoop place)
  | continueLoop (place : Location) : Jumps .continue_ (.continueLoop place)
  | returnValue (value : Option Expr) (place : Location) :
    Jumps .return_ (.returnValue value place)
  | ifTrue {j : Jump} {test : Expr} {s : Stmt} {ifFalse : Option Stmt} {place : Location} :
    Jumps j s → Jumps j (.ifElse test s ifFalse place)
  | ifFalse {j : Jump} {test : Expr} {ifTrue s : Stmt} {place : Location} :
    Jumps j s → Jumps j (.ifElse test ifTrue (some s) place)
  | block {j : Jump} {s : Stmt} {body : List Stmt} {place : Location} :
    s ∈ body → Jumps j s → Jumps j (.block body place)
  | whileLoop {test : Expr} {body : Stmt} {place : Location} :
    Jumps .return_ body → Jumps .return_ (.whileLoop test body place)
  | doWhile {body : Stmt} {test : Expr} {place : Location} :
    Jumps .return_ body → Jumps .return_ (.doWhile body test place)
  | forLoop {init test update : Option Expr} {body : Stmt} {place : Location} :
    Jumps .return_ body → Jumps .return_ (.forLoop init test update body place)
  | forIn {var array : String} {body : Stmt} {place : Location} :
    Jumps .return_ body → Jumps .return_ (.forIn var array body place)

def isLoop : Stmt → Bool
  | whileLoop .. | doWhile .. | forLoop .. | forIn .. => true
  | _ => false

theorem jumps_of_isLoop {s : Stmt} {j : Jump} (hs : s.isLoop) (h : s.Jumps j) : j = .return_ := by
  cases h with
  | whileLoop _ => rfl
  | doWhile _ => rfl
  | forLoop _ => rfl
  | forIn _ => rfl
  | _ => cases hs

/-- The statement may end so. -/
def Allows (s : Stmt) (flow : Flow) : Prop := ∀ j, flow.jump? = some j → s.Jumps j

end Stmt

/-- What is true of the end of a computation that does not stop. -/
def Ends (P : Flow → Prop) (x : Eval Flow) : Prop := ∀ m flow m', x m = .ok flow m' → P flow

namespace Ends

variable {P Q : Flow → Prop}

theorem pure {flow : Flow} (h : P flow) : Ends P (pure flow) := by
  intro m flow' m' hrun
  cases hrun
  exact h

theorem stop (why : Stop) : Ends P (throw why) := by
  intro m flow m' hrun
  cases hrun

theorem mono {x : Eval Flow} (h : Ends P x) (himp : ∀ flow, P flow → Q flow) : Ends Q x :=
  fun m flow m' hrun => himp flow (h m flow m' hrun)

theorem bind {α : Type} {x : Eval α} {f : α → Eval Flow} (hf : ∀ a, Ends P (f a)) :
    Ends P (x >>= f) := by
  intro m flow m' hrun
  obtain ⟨a, m₁, -, hf₁⟩ := bind_ok_inv hrun
  exact hf a m₁ flow m' hf₁

theorem bind_of {x : Eval Flow} {f : Flow → Eval Flow} (hx : Ends P x)
    (hf : ∀ flow, P flow → Ends Q (f flow)) : Ends Q (x >>= f) := by
  intro m flow m' hrun
  obtain ⟨flow₁, m₁, hx₁, hf₁⟩ := bind_ok_inv hrun
  exact hf flow₁ (hx m flow₁ m₁ hx₁) m₁ flow m' hf₁

/-- A sequence ends normally or as one of its statements. -/
theorem sequence {run : Stmt → Eval Flow} (hr : ∀ s, Ends s.Allows (run s)) (body : List Stmt) :
    Ends (fun flow => flow = .normal ∨ ∃ s ∈ body, s.Allows flow) (Call.sequence run body) := by
  induction body with
  | nil => exact pure (.inl rfl)
  | cons s rest ih =>
    refine bind_of (hr s) fun flow hflow => ?_
    split
    · refine ih.mono fun flow hrest => ?_
      rcases hrest with hnormal | ⟨s', hmem, hs'⟩
      · exact .inl hnormal
      · exact .inr ⟨s', List.mem_cons_of_mem s hmem, hs'⟩
    · exact pure (.inr ⟨s, List.mem_cons_self, hflow⟩)

/-- How a loop ends whose body ends in one of the ways `P`. -/
def Loop (P : Flow → Prop) (flow : Flow) : Prop :=
  flow.jump? = none ∨ flow.jump? = some .return_ ∧ P flow

/-- A loop takes the jumps that are for it. -/
theorem loop {before after : Eval Bool} {body : Eval Flow} (hbody : Ends P body) (n : Nat) :
    Ends (Loop P) (Stmt.loop before body after n) := by
  induction n with
  | zero => exact stop _
  | succ n ih =>
    refine bind fun go => ?_
    split
    · refine bind_of hbody fun flow hflow => ?_
      have hnext : Ends (Loop P)
          (do if ← after then Stmt.loop before body after n else return .normal) := by
        refine bind fun go => ?_
        split
        · exact ih
        · exact pure (.inl rfl)
      cases flow with
      | normal => exact hnext
      | continue_ => exact hnext
      | break_ => exact pure (.inl rfl)
      | signal s => exact pure (.inl rfl)
      | return_ v => exact pure (.inr ⟨rfl, hflow⟩)
    · exact pure (.inl rfl)

theorem forKeys {body : Eval Flow} (hbody : Ends P body) (var : String) (keys : List String) :
    Ends (Loop P) (Stmt.forKeys var body keys) := by
  induction keys with
  | nil => exact pure (.inl rfl)
  | cons key keys ih =>
    refine bind fun _ => bind_of hbody fun flow hflow => ?_
    cases flow with
    | normal => exact ih
    | continue_ => exact ih
    | break_ => exact pure (.inl rfl)
    | signal s => exact pure (.inl rfl)
    | return_ v => exact pure (.inr ⟨rfl, hflow⟩)

end Ends

namespace Stmt

theorem allows_of_none {s : Stmt} {flow : Flow} (h : flow.jump? = none) : s.Allows flow := by
  intro j hj
  rw [h] at hj
  cases hj

/-- A loop that holds what its body holds of `return` may end as loops do. -/
theorem allows_of_loop {s body : Stmt} {flow : Flow} (hs : body.Jumps .return_ → s.Jumps .return_)
    (h : Ends.Loop body.Allows flow) : s.Allows flow := by
  rcases h with hnone | ⟨hreturn, hbody⟩
  · exact allows_of_none hnone
  · intro j hj
    have hj' : j = .return_ := Option.some.inj (hj.symm.trans hreturn)
    rw [hj']
    exact hs (hbody .return_ hreturn)

theorem unlessPending_ends {s : Stmt} {x : Eval Flow} (hx : Ends s.Allows x) :
    Ends s.Allows (unlessPending x) := by
  refine .bind fun taken => ?_
  cases taken with
  | some signal => exact .pure (allows_of_none rfl)
  | none => exact hx

theorem ends_normal {α : Type} {s : Stmt} (x : Eval α) :
    Ends s.Allows (x >>= fun _ => Pure.pure .normal) :=
  .bind fun _ => .pure (allows_of_none rfl)

theorem rule_ends {self : Meaning} (hr : ∀ s, Ends s.Allows (self.run s)) (fuel : Nat) (s : Stmt) :
    Ends s.Allows (s.rule self fuel) := by
  cases s with
  | expr e => exact ends_normal _
  | print args place =>
    show Ends _ (runPrint self args)
    unfold runPrint
    split
    · exact ends_normal _
    · refine .bind fun _ => .bind fun _ => ?_
      dsimp only
      split
      · exact .bind fun _ => ends_normal _
      · exact .pure (allows_of_none rfl)
  | printf format args place =>
    refine .bind fun _ => .bind fun _ => .bind fun _ => ?_
    dsimp only
    split
    · exact .bind fun _ => ends_normal _
    · exact .pure (allows_of_none rfl)
  | ifElse test ifTrue ifFalse place =>
    refine .bind fun holds => .bind fun _ => ?_
    split
    · exact .pure (allows_of_none rfl)
    · split
      · exact (hr ifTrue).mono fun flow h j hj => .ifTrue (h j hj)
      · cases ifFalse with
        | some s => exact (hr s).mono fun flow h j hj => .ifFalse (h j hj)
        | none => exact .pure (allows_of_none rfl)
  | whileLoop test body place =>
    exact (Ends.loop (hr body) fuel).mono fun _ => allows_of_loop .whileLoop
  | doWhile body test place =>
    exact (Ends.loop (hr body) fuel).mono fun _ => allows_of_loop .doWhile
  | forLoop init test update body place =>
    have hloop : ∀ before after, Ends (Stmt.forLoop init test update body place).Allows
        (loop before (self.run body) after fuel) := fun _ _ =>
      (Ends.loop (hr body) fuel).mono fun _ => allows_of_loop .forLoop
    cases init with
    | none => exact hloop _ _
    | some e => exact .bind fun _ => unlessPending_ends (hloop _ _)
  | forIn var array body place =>
    exact .bind fun _ => .bind fun keys =>
      (Ends.forKeys (hr body) var keys).mono fun _ => allows_of_loop .forIn
  | block body place =>
    refine (Ends.sequence hr body).mono fun flow h => ?_
    rcases h with rfl | ⟨s, hmem, hs⟩
    · exact allows_of_none rfl
    · exact fun j hj => .block hmem (hs j hj)
  | breakLoop place =>
    refine .pure fun j hj => ?_
    cases hj
    exact .breakLoop place
  | continueLoop place =>
    refine .pure fun j hj => ?_
    cases hj
    exact .continueLoop place
  | next place => exact .pure (allows_of_none rfl)
  | nextFile place => exact .pure (allows_of_none rfl)
  | exit code place => exact .bind fun _ => .pure (allows_of_none rfl)
  | returnValue value place =>
    have hreturn : ∀ v, (Stmt.returnValue value place).Allows (.return_ v) := by
      intro v j hj
      cases hj
      exact .returnValue value place
    cases value with
    | none => exact .pure (hreturn _)
    | some e => exact .bind fun _ => .pure (hreturn _)
  | delete array index place =>
    show Ends _ (runDelete self array index)
    unfold runDelete
    split
    · exact ends_normal _
    · exact .bind fun _ => ends_normal _
  | empty => exact .pure (allows_of_none rfl)

end Stmt

/-- A statement ends in a jump only if it holds it, whatever the functions that it calls
hold. -/
theorem exec_ends (p : Program) (n : Nat) (s : Stmt) : Ends s.Allows (exec p n s) := by
  induction n generalizing s with
  | zero => exact .stop _
  | succ n ih =>
    exact .bind_of (Stmt.rule_ends ih n s) fun flow hflow => Stmt.unlessPending_ends (.pure hflow)

end Awk
