import Awk.Proofs.Driver
import Awk.Proofs.SoundRuns

/-!
# Cancellation

A run may be cancelled at any time, and looks whether it has been before it reads a record of the
main input.  Nothing else asks: the answer to a look is the first one that has not been given to
another, so the looks of a run meet the answers of the world one by one
(`Run.History.cancelled_iff`).
-/

namespace Awk

open Eval

/-- A computation that does not ask whether the run has been cancelled. -/
def Unasked {α : Type} (x : Eval α) : Prop :=
  ∀ m, (after x m).world.cancelled = m.world.cancelled

theorem Unasked.onScope {α : Type} (op : Scope.Op α) : Unasked (Eval.onScope op) := by
  intro m
  rw [after_onScope]

theorem Unasked.attempt {α : Type} {x : Eval α} (hx : Unasked x) : Unasked (Run.attempt x) := by
  intro m
  rw [after_attempt]
  exact hx m

theorem Unasked.inFrame {α : Type} {x : Eval α} (hx : Unasked x)
    (bindings : List (String × Binding)) (owned : List Nat) :
    Unasked (Call.inFrame bindings owned x) := by
  intro m
  rw [after_inFrame]
  exact hx (m.enterCall bindings owned)

theorem unasked_respected : RespectsCalls fun _ x _ => Unasked x where
  pure _ _ := rfl
  bind hx hf :=
    after_bind_trans (R := fun m m' : Machine => m'.world.cancelled = m.world.cancelled)
      (fun _ _ _ h h' => h'.trans h) hx hf
  stop _ _ := rfl
  located place hx m := by
    rw [after_located]
    exact hx m
  access a := .onScope a.op
  newArray := .onScope Scope.newArray
  fillArray id values := .onScope (Scope.fillArray id values)
  sameNames _ _ _ := rfl
  write text m := by
    unfold after Eval.write
    cases m.sink.accepts text <;> rfl
  detached _ hx m := (hx m).2.2.2.2
  takePending _ := rfl
  leave _ _ := rfl
  inFrame bindings owned hx := hx.inFrame bindings owned

theorem unasked_program : RespectsProgram .all fun _ x _ => Unasked x where
  toRespectsBodies := unasked_respected.statements.toRespectsBodies
  newArray := unasked_respected.newArray
  leave := unasked_respected.leave
  inFrame bindings owned hx := hx.inFrame bindings owned

section

variable {self : Meaning} (hv : ∀ e, Unasked (self.value e)) (hr : ∀ s, Unasked (self.run s))

include hr in
theorem unasked_act (r : Rule) : Unasked (Run.act self r) :=
  @RespectsProgram.act _ _ unasked_program self self (fun _ => True) (fun s _ => hr s) _
    fun _ _ _ _ => trivial

include hv hr in
theorem unasked_dispatch (i : Nat) (r : Rule) : Unasked (Run.dispatch self i r) :=
  @RespectsProgram.dispatch _ _ unasked_program self self (fun _ => True) (fun _ => True)
    (fun e _ => hv e) (fun s _ => hr s) _ (fun _ _ => rfl) _ (fun _ _ _ _ => trivial)
    fun _ _ _ _ => trivial

end

namespace Run

/-- The run looks whether it has been cancelled. -/
def Phase.asks : Phase → Bool
  | reads (_ + 1) => true
  | _ => false

/-- How often a run has looked. -/
def looks (moments : List Moment) : Nat := moments.countP (·.phase.asks)

namespace Phase

theorem settle_world (φ : Phase) (event : Event) (m : Machine) :
    (φ.settle event m).world = m.world := by
  fun_cases settle φ event m <;> rfl

theorem perform_world (p : Program) (fuel : Nat) (φ : Phase) (m : Machine) :
    (after (φ.perform (meaning p fuel)) m).world.cancelled =
      if φ.asks then m.world.cancelled.later else m.world.cancelled := by
  obtain ⟨hv, hr⟩ := unasked_respected.evaluation p fuel
  have hmake : ∀ {α : Type} {x : Eval α} {make : α → Event}, Unasked x →
      Unasked (do return make (← x)) := fun hx m => by
    rw [after_bind_pure]
    exact hx m
  cases φ with
  | begins rules | ends rules =>
    cases rules with
    | nil => rfl
    | cons r rest => exact hmake (unasked_act hr r).attempt m
  | applies rules turns =>
    cases rules with
    | nil => rfl
    | cons rule rest => exact hmake (unasked_dispatch hv hr rule.2 rule.1).attempt m
  | reads turns =>
    cases turns with
    | zero => rfl
    | succ turns =>
      rw [perform, after_bind_of_ok (isCancelled_run m)]
      split
      · rfl
      · exact hmake unasked_respected.under.nextCounted.attempt _
  | closes =>
    have hclosed : closeInputs m = .ok () { m with current := none, opened := ∅ } := rfl
    rw [perform, after_bind_of_ok hclosed]
    exact hmake (Unasked.attempt unasked_respected.under.flush) _
  | finished => rfl

theorem cancelled_iff {self : Meaning} {φ : Phase} {m m₁ : Machine} {event : Event}
    (hφ : φ.asks) (h : φ.perform self m = .ok event m₁) :
    event = .cancelled ↔ m.world.cancelled.now = true := by
  cases φ with
  | reads turns =>
    cases turns with
    | zero => cases hφ
    | succ turns =>
      rw [perform, bind_of_ok (isCancelled_run m)] at h
      split at h
      · next hcancelled =>
        cases h
        exact ⟨fun _ => hcancelled, fun _ => rfl⟩
      · next hcancelled =>
        obtain ⟨outcome, m₂, -, h⟩ := bind_ok_inv h
        cases h
        exact ⟨fun hevent => Event.noConfusion hevent, fun hnow => absurd hnow hcancelled⟩
  | _ => cases hφ

end Phase

namespace Path

variable {p : Program} {fuel : Nat} {φ φ' : Phase} {m m' : Machine}

/-- Behind a path the answers are those that come after as many as it has looked for. -/
theorem cancelled_eq {moments : List Moment} (h : Path (meaning p fuel) p fuel φ m moments φ' m') :
    m'.world.cancelled = fun n => m.world.cancelled (n + looks moments) := by
  induction h with
  | nil => rfl
  | @cons φ _ _ m _ _ event moments hstep _ ih =>
    obtain ⟨m₀, hperform, rfl, rfl⟩ := advance_ok_iff.mp hstep
    have hworld := φ.perform_world p fuel m
    rw [after_of_ok hperform] at hworld
    rw [ih, Phase.settle_world, hworld]
    funext n
    unfold looks
    rw [List.countP_cons]
    cases φ.asks with
    | true => exact congrArg m.world.cancelled (Nat.add_assoc n _ 1)
    | false => rfl

end Path
end Run
end Awk
