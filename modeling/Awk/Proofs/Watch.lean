import Awk.Proofs.Respects

/-!
# Watching a machine

What holds of a machine all the time is more than what holds of it before and behind a
computation.  `evalWatched` and `execWatched` evaluate like `eval` and `exec`, but look at the
machine before and behind every expression and every statement, those in the bodies of
functions included, and stop with an alarm where it does not have a property.  The property
holds throughout if they do what `eval` and `exec` do, whatever the alarm.
-/

namespace Awk

open Eval

section

variable (ok : Machine → Prop) [DecidablePred ok] (alarm : Stop)

/-- Raises an alarm unless the machine has the property before and behind a computation. -/
def Eval.watched {α : Type} (x : Eval α) : Eval α := fun m =>
  if ¬ ok m then .error alarm m
  else
    match x m with
    | .ok a m' => if ok m' then .ok a m' else .error alarm m'
    | .error why m' => if ok m' then .error why m' else .error alarm m'

mutual

def evalWatched (p : Program) : Nat → Expr → Eval Value
  | 0, _ => throw .exhausted
  | n + 1, e =>
    watched ok alarm (located e.place (e.rule p ⟨evalWatched p n, execWatched p n⟩))

def execWatched (p : Program) : Nat → Stmt → Eval Flow
  | 0, _ => throw .exhausted
  | n + 1, s =>
    watched ok alarm (do Stmt.settled (← s.rule ⟨evalWatched p n, execWatched p n⟩ n))

end

/-- The meaning of a program's terms under watch. -/
def meaningWatched (p : Program) (fuel : Nat) : Meaning :=
  ⟨evalWatched ok alarm p fuel, execWatched ok alarm p fuel⟩

end

/-- From this machine `y` does what `x` does, and the machine behind it has the property,
however it ends. -/
def Keeps (ok : Machine → Prop) {α : Type} (x y : Eval α) (m : Machine) : Prop :=
  y m = x m ∧ ok (after x m)

theorem Keeps.bind {ok : Machine → Prop} {α β : Type} {x y : Eval α} {f g : α → Eval β}
    {m : Machine} (hx : Keeps ok x y m)
    (hf : ∀ a m₁, x m = .ok a m₁ → ok m₁ → Keeps ok (f a) (g a) m₁) :
    Keeps ok (x >>= f) (y >>= g) m := by
  obtain ⟨heq, hafter⟩ := hx
  unfold Keeps
  cases hrun : x m with
  | error why m₁ =>
    rw [hrun] at heq
    rw [after_of_error hrun] at hafter
    rw [bind_of_error heq, bind_of_error hrun, after_bind_of_error hrun]
    exact ⟨rfl, hafter⟩
  | ok a m₁ =>
    rw [hrun] at heq
    rw [after_of_ok hrun] at hafter
    rw [bind_of_ok heq, bind_of_ok hrun, after_bind_of_ok hrun]
    exact hf a m₁ hrun hafter

/-- A call, from what holds inside of it and what of that is left behind it. -/
theorem Keeps.inFrame {ok inside : Machine → Prop} {α : Type} {x y : Eval α}
    {bindings : List (String × Binding)} {owned : List Nat} {m : Machine}
    (hx : Keeps inside x y (m.enterCall bindings owned))
    (hleave : inside (after x (m.enterCall bindings owned)) →
      ok (after x (m.enterCall bindings owned)).leaveCall) :
    Keeps ok (Call.inFrame bindings owned x) (Call.inFrame bindings owned y) m := by
  obtain ⟨heq, hafter⟩ := hx
  refine ⟨?_, ?_⟩
  · rw [Call.inFrame, Call.inFrame, heq]
  · rw [after_inFrame]
    exact hleave hafter

/-- From every machine with the property. -/
def Throughout (ok : Machine → Prop) {α : Type} (x y : Eval α) : Prop :=
  ∀ m, ok m → Keeps ok x y m

namespace Throughout

variable {ok : Machine → Prop} {α β : Type}

theorem same {x : Eval α} (hx : ∀ m, ok m → ok (after x m)) : Throughout ok x x :=
  fun m hm => ⟨rfl, hx m hm⟩

theorem bind {x y : Eval α} {f g : α → Eval β} (hx : Throughout ok x y)
    (hf : ∀ a, Throughout ok (f a) (g a)) : Throughout ok (x >>= f) (y >>= g) :=
  fun m hm => (hx m hm).bind fun a m₁ _ hm₁ => hf a m₁ hm₁

theorem located {x y : Eval α} (place : Location) (hx : Throughout ok x y) :
    Throughout ok (Eval.located place x) (Eval.located place y) := by
  intro m hm
  obtain ⟨heq, hafter⟩ := hx m hm
  refine ⟨?_, ?_⟩
  · rw [Eval.located, Eval.located, heq]
  · rw [after_located]
    exact hafter

/-- Where a property is kept there is no alarm about what it implies. -/
theorem watched {seen : Machine → Prop} [DecidablePred seen] (hseen : ∀ m, ok m → seen m)
    (alarm : Stop) {x y : Eval α} (hx : Throughout ok x y) :
    Throughout ok x (Eval.watched seen alarm y) := by
  intro m hm
  obtain ⟨heq, hafter⟩ := hx m hm
  refine ⟨?_, hafter⟩
  rw [Eval.watched, if_neg (not_not_intro (hseen m hm)), heq]
  cases hrun : x m with
  | ok a m₁ =>
    rw [after_of_ok hrun] at hafter
    exact if_pos (hseen m₁ hafter)
  | error why m₁ =>
    rw [after_of_error hrun] at hafter
    exact if_pos (hseen m₁ hafter)

end Throughout

/-- What each of several relations respects, all of them together do. -/
theorem RespectsStatements.together {A : Permit} {ι : Type}
    {Q : ι → ∀ ⦃α : Type⦄, Eval α → Eval α → Prop} (h : ∀ i, RespectsStatements A (Q i)) :
    RespectsStatements A fun _ x y => ∀ i, Q i x y where
  pure a i := (h i).pure a
  bind hx hf i := (h i).bind (hx i) fun a => hf a i
  stop why i := (h i).stop why
  located place hx i := (h i).located place (hx i)
  access a ha i := (h i).access a ha
  assign text i := (h i).assign text
  refill name values result hname i := (h i).refill name values result hname
  sameNames f hf i := (h i).sameNames f hf
  write text i := (h i).write text
  detached x hx i := (h i).detached x hx
  takePending i := (h i).takePending

/-- What all permitted steps respect, whether or not there is an alarm, and calls as long as the
parts of a program do, holds between the terms that are permitted and those terms under watch. -/
theorem RespectsBodies.evaluationWatched {A : Permit}
    {Q : ∀ ⦃α : Type⦄, Eval α → Eval α → Prop} (h : RespectsBodies A Q)
    {ok : Machine → Prop} [DecidablePred ok] {alarm : Stop} {p : Program} {E : Expr → Prop}
    {S : Stmt → Prop} (hE : ∀ e, E e → e.Permitted A E) (hS : ∀ s, S s → s.Permitted A E S)
    (hargs : ∀ name args place, E (.call name args place) → ∀ e ∈ args, E e)
    (hwatch : ∀ {α : Type} {x y : Eval α}, Q x y → Q x (Eval.watched ok alarm y))
    (hcall : ∀ n, (∀ e, E e → Q (eval p n e) (evalWatched ok alarm p n e)) →
      (∀ s, S s → Q (exec p n s) (execWatched ok alarm p n s)) → ∀ name f args place,
      p.function? name = some f → E (.call name args place) →
      Q (Call.user (meaning p n) f args place)
        (Call.user (meaningWatched ok alarm p n) f args place))
    (n : Nat) :
    (∀ e, E e → Q (eval p n e) (evalWatched ok alarm p n e)) ∧
      ∀ s, S s → Q (exec p n s) (execWatched ok alarm p n s) :=
  h.evaluations (meaningWatched ok alarm p) hE hS hargs
    ⟨fun _ => h.stop _, fun _ => h.stop _⟩ (fun _ _ _ hx => hwatch hx) (fun _ _ _ hx => hwatch hx)
    hcall n

/-- A property that all steps keep, and calls as long as the parts of a program do, holds
throughout. -/
theorem throughout_evaluation {ok : Machine → Prop} [DecidablePred ok] {p : Program}
    (h : RespectsStatements .all fun _ x y => Throughout ok x y)
    (hcall : ∀ n (self : Meaning), (∀ e, Throughout ok (eval p n e) (self.value e)) →
      (∀ s, Throughout ok (exec p n s) (self.run s)) → ∀ name f args place,
      p.function? name = some f →
      Throughout ok (Call.user (meaning p n) f args place) (Call.user self f args place))
    (alarm : Stop) (n : Nat) :
    (∀ e, Throughout ok (eval p n e) (evalWatched ok alarm p n e)) ∧
      ∀ s, Throughout ok (exec p n s) (execWatched ok alarm p n s) := by
  have hall : (∀ e, True → Throughout ok (eval p n e) (evalWatched ok alarm p n e)) ∧
      ∀ s, True → Throughout ok (exec p n s) (execWatched ok alarm p n s) :=
    h.evaluationWatched (fun e _ => e.permitted_all) (fun s _ => s.permitted_all)
      (fun _ _ _ _ _ _ => trivial) (fun hx => hx.watched (fun _ hm => hm) alarm)
      (fun n hv hr name f args place hf _ => hcall n (meaningWatched ok alarm p n)
        (fun e => hv e trivial) (fun s => hr s trivial) name f args place hf) n
  exact ⟨fun e => hall.1 e trivial, fun s => hall.2 s trivial⟩

/-! ## Properties of the scope -/

/-- A property that a scope keeps in all that happens at one depth of calls; of the accesses by
name only those that are permitted count. -/
structure Scope.Stable (A : Permit) (φ : Scope → Prop) : Prop where
  sameNames {s s' : Scope} : SameNames s s' → φ s → φ s'
  access {s : Scope} {α : Type} (a : Access α) : A a → φ s → φ (after a.op s)
  setVar {s : Scope} (name : String) (v : Value) : φ s → φ (after (setVar name v) s)
  refill {s s₁ : Scope} {name : String} {id : Nat} (t : Table) : A (.arrayId name) →
    arrayId name s = .ok id s₁ → φ s → φ { s₁ with arena := s₁.arena.modify id fun _ => t }
  newArray {s : Scope} : φ s → φ (after newArray s)

/-- What leaves the scope alone. -/
theorem throughout_of_scope {φ : Scope → Prop} {α : Type} {x : Eval α}
    (hx : ∀ m, (after x m).scope = m.scope) : Throughout (fun m => φ m.scope) x x := by
  refine .same fun m hm => ?_
  rw [hx m]
  exact hm

theorem throughout_conclude {φ : Scope → Prop} (flow : Flow) :
    Throughout (fun m => φ m.scope) (Call.conclude flow) (Call.conclude flow) := by
  refine throughout_of_scope fun m => ?_
  cases flow <;> rfl

namespace Scope.Stable

variable {A : Permit} {φ : Scope → Prop} (h : Stable A φ)

include h

theorem throughout_assign (text : String) :
    Throughout (fun m => φ m.scope) (onScope (assign text)) (onScope (assign text)) := by
  refine .same fun m hm => ?_
  rw [after_onScope]
  unfold assign
  split
  · next name value _ =>
    unfold preset
    split
    · exact h.setVar name (.infer (Text.unescape value)) hm
    · exact hm
  · exact hm

theorem throughout_refill {α : Type} {name : String} (values : Table → List Value)
    (result : Table → α) (hname : A (.arrayId name)) :
    Throughout (fun m => φ m.scope) (Eval.refill name values result)
      (Eval.refill name values result) := by
  refine .same fun m hm => ?_
  cases hid : arrayId name m.scope with
  | error fault s₁ =>
    have hrun : onScope (arrayId name) m = .error (.failed (.runtime fault none))
        { m with scope := s₁ } := by rw [onScope, hid]
    rw [Eval.refill, after_bind_of_error hrun]
    show φ s₁
    rw [arrayId_error hid]
    exact hm
  | ok id s₁ =>
    have hrun : onScope (arrayId name) m = .ok id { m with scope := s₁ } := by rw [onScope, hid]
    rw [Eval.refill, after_bind_of_ok hrun]
    exact h.refill _ hname hid hm

theorem throughout_newArray :
    Throughout (fun m => φ m.scope) (onScope Scope.newArray) (onScope Scope.newArray) := by
  refine .same fun m hm => ?_
  rw [after_onScope]
  exact h.newArray hm

theorem respected : RespectsStatements A fun _ x y => Throughout (fun m => φ m.scope) x y where
  pure _ := throughout_of_scope fun _ => rfl
  bind hx hf := hx.bind hf
  stop _ := throughout_of_scope fun _ => rfl
  located place hx := hx.located place
  access a ha := .same fun m hm => by
    rw [after_onScope]
    exact h.access a ha hm
  assign text := h.throughout_assign text
  refill name values result hname := h.throughout_refill values result hname
  sameNames f hf := .same fun m hm => h.sameNames (hf m.scope) hm
  write text := throughout_of_scope fun m => (after_write text m).1
  detached x hx := throughout_of_scope fun m => (hx m).1
  takePending := throughout_of_scope fun _ => rfl

end Scope.Stable
end Awk
