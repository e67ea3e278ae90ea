import Awk.Proofs.Driver
import Awk.Proofs.SoundRuns

/-!
# Policy, status and errors passed over

What a run reports at its end is the business of its driver.  Rules and inputs neither look at the
policy on errors nor change it (`impartial_meaning`), and they keep the status and the errors passed
over.  Only `exit` without a status looks at the status, and finds the one that the machine had
before the rule: `meaningAfter code` evaluates with that status put in for it.
-/

namespace Awk

open Eval

namespace Machine

/-- The machine with another report, and with other ranges active. -/
def withReport (policy : Policy) (code : Int) (errors : List Error) (ranges : Array Bool)
    (m : Machine) : Machine :=
  { m with policy, exitCode := code, skipped := errors, activeRanges := ranges }

/-- The status is this one, and so are the errors passed over. -/
def Reports (code : Int) (errors : List Error) (m : Machine) : Prop :=
  m.exitCode = code ∧ m.skipped = errors

end Machine

/-! ## Reading records -/

/-- A computation that neither looks at what a run reports, or at the ranges, nor changes it. -/
def Unreported {α : Type} (x : Eval α) : Prop :=
  ∀ policy code errors ranges, Commutes (Machine.withReport policy code errors ranges) x

namespace Unreported

theorem pure {α : Type} (a : α) : Unreported (pure a : Eval α) := fun _ _ _ _ => .pure a

theorem stop {α : Type} (why : Stop) : Unreported (throw why : Eval α) :=
  fun _ _ _ _ => .stop why

theorem bind {α β : Type} {x : Eval α} {f : α → Eval β} (hx : Unreported x)
    (hf : ∀ a, Unreported (f a)) : Unreported (x >>= f) :=
  fun policy code errors ranges =>
    (hx policy code errors ranges).bind fun a => hf a policy code errors ranges

theorem onScope {α : Type} (op : Scope.Op α) : Unreported (Eval.onScope op) := by
  intro policy code errors ranges m
  unfold Eval.onScope Machine.withReport
  dsimp only
  cases op m.scope <;> rfl

theorem readRecord (onInput : Bool) (reader : Reader) :
    Unreported (Eval.readRecord onInput reader) := by
  intro policy code errors ranges m
  unfold Eval.readRecord Machine.withReport
  cases onInput with
  | false => rfl
  | true =>
    dsimp only
    cases m.world.input <;> rfl

theorem openFile (name : String) : Unreported (Eval.openFile name) := by
  intro policy code errors ranges m
  unfold Eval.openFile
  rw [bind_of_ok (get_run m), bind_of_ok (get_run _)]
  simp only [Machine.withReport]
  cases m.world.file? name with
  | none => rfl
  | some entry =>
    dsimp only
    cases entry.stream <;> rfl

theorem openInput (name : String) (onInput : Bool) (reader : Reader) :
    Unreported (modify (Machine.openInput name onInput reader)) :=
  fun _ _ _ _ => .modify fun _ => rfl

theorem openSource (source : Source) : Unreported (Eval.openSource source) := by
  cases source with
  | stream name stream => exact openInput name false _
  | operand text =>
    unfold Eval.openSource
    dsimp only
    split
    · exact onScope _
    · split
      · exact openInput text true .empty
      · exact (openFile text).bind fun stream => openInput text false _

theorem readCurrent : Unreported Eval.readCurrent := by
  intro policy code errors ranges m
  have hcurrent : (m.withReport policy code errors ranges).current = m.current := rfl
  have honInput : (m.withReport policy code errors ranges).onInput = m.onInput := rfl
  unfold Eval.readCurrent
  rw [hcurrent, honInput]
  cases m.current with
  | none => rfl
  | some reader =>
    dsimp only
    rw [readRecord m.onInput reader policy code errors ranges m]
    rcases Eval.readRecord m.onInput reader m with ⟨⟨_ | _ | record, reader'⟩, m₁⟩ | ⟨why, m₁⟩ <;>
      rfl

theorem readSources (sources : List Source) : Unreported (Eval.readSources sources) := by
  induction sources with
  | nil => exact pure none
  | cons source rest ih =>
    refine bind (fun _ _ _ _ => .modify fun _ => rfl) fun _ => (openSource source).bind fun _ =>
      readCurrent.bind fun record => ?_
    cases record with
    | some record => exact pure (some record)
    | none => exact ih

theorem countRecord : Unreported Eval.countRecord := by
  refine bind (fun _ _ _ _ => .gets fun _ => rfl) fun s => ?_
  split
  · exact fun _ _ _ _ => .modify fun _ => rfl
  · exact bind (fun _ _ _ _ => .modify fun _ => rfl) fun _ => stop _

theorem nextCounted : Unreported Eval.nextCounted := by
  have hnext : Unreported Eval.nextRecord := by
    refine readCurrent.bind fun record => ?_
    cases record with
    | some record => exact pure (some record)
    | none =>
      show Unreported ((do return (← get).sources) >>= Eval.readSources)
      exact bind (fun _ _ _ _ => .gets fun _ => rfl) readSources
  refine hnext.bind fun record => ?_
  dsimp only
  split
  · exact countRecord.bind fun _ => pure _
  · exact pure _

/-- What is reported is kept, and so are the ranges. -/
theorem kept {α : Type} {x : Eval α} (hx : Unreported x) (m : Machine) :
    after x m = (after x m).withReport m.policy m.exitCode m.skipped m.activeRanges := by
  have hrun := hx m.policy m.exitCode m.skipped m.activeRanges m
  rw [show m.withReport m.policy m.exitCode m.skipped m.activeRanges = m from rfl] at hrun
  unfold after
  cases hm : x m with
  | ok a m₁ | error why m₁ =>
    rw [hm] at hrun
    simpa only [mapState, EStateM.Result.ok.injEq, EStateM.Result.error.injEq, true_and] using hrun

theorem withPolicy {α : Type} {x : Eval α} (hx : Unreported x) (policy : Policy) :
    Commutes (Machine.withPolicy policy) x := by
  intro m
  have hkept := hx.kept m
  have hrun := hx policy m.exitCode m.skipped m.activeRanges m
  cases hm : x m with
  | ok a m₁ =>
    rw [after_of_ok hm] at hkept
    rw [hm] at hrun
    rw [hkept]
    exact hrun
  | error why m₁ =>
    rw [after_of_error hm] at hkept
    rw [hm] at hrun
    rw [hkept]
    exact hrun

theorem activeRanges {α : Type} {x : Eval α} (hx : Unreported x) (m : Machine) :
    (after x m).activeRanges = m.activeRanges := by
  rw [hx.kept m]
  rfl

theorem refill {α : Type} (name : String) (values : Table → List Value) (result : Table → α) :
    Unreported (Eval.refill name values result) :=
  (onScope _).bind fun _ => .bind (fun _ _ _ _ => .gets fun _ => rfl) fun _ =>
    (onScope _).bind fun _ => pure _

theorem reports {α : Type} {x : Eval α} (hx : Unreported x) {code : Int} {errors : List Error}
    {m : Machine} (hm : m.Reports code errors) : (after x m).Reports code errors := by
  rw [hx.kept m]
  exact hm

end Unreported

/-! ## The policy -/

theorem Commutes.located {α : Type} {f : Machine → Machine} {x : Eval α} (hx : Commutes f x)
    (place : Location) : Commutes f (Eval.located place x) := by
  intro m
  unfold Eval.located
  rw [hx m]
  rcases x m with ⟨a, m₁⟩ | ⟨_ | _ | _ | _, m₁⟩ <;> rfl

theorem Commutes.attempt {α : Type} {f : Machine → Machine} {x : Eval α} (hx : Commutes f x) :
    Commutes f (Run.attempt x) := by
  intro m
  unfold Run.attempt
  rw [hx m]
  rcases x m with ⟨a, m₁⟩ | ⟨_ | _ | _ | _, m₁⟩ <;> rfl

theorem blind_respected : RespectsRules .all fun _ x _ =>
    ∀ policy, Commutes (Machine.withPolicy policy) x where
  pure a _ := .pure a
  bind hx hf policy := (hx policy).bind fun a => hf a policy
  stop why _ := .stop why
  located place hx policy := (hx policy).located place
  access a _ policy := Aside.onScope_blind a.op policy
  refill name values result _ policy :=
    (Aside.onScope_blind _ policy).bind fun id => (Aside.scope.blind policy).bind fun s =>
      (Aside.onScope_blind _ policy).bind fun _ => .pure _
  write text policy m := by
    unfold Eval.write Machine.withPolicy
    dsimp only
    cases m.sink.accepts text <;> rfl
  record f _ _ := .modify fun _ => rfl
  nextCounted policy := Unreported.nextCounted.withPolicy policy
  aside _ hx policy := hx.blind policy
  takePending _ _ := rfl
  newArray policy := Aside.onScope_blind _ policy
  leave _ _ := .modify fun _ => rfl
  inFrame {_} {x} _ bindings owned hx policy m := by
    have henter : (m.withPolicy policy).enterCall bindings owned =
        (m.enterCall bindings owned).withPolicy policy := rfl
    unfold Call.inFrame
    rw [henter, hx policy]
    cases x (m.enterCall bindings owned) <;> rfl
  attempt hx policy := (hx policy).attempt
  isCancelled _ _ := rfl
  setActive _ _ _ := .modify fun _ => rfl
  closeInputs _ := .modify fun _ => rfl

theorem impartial_meaning (p : Program) (fuel : Nat) : Run.Impartial (meaning p fuel) := by
  obtain ⟨hv, hr⟩ := blind_respected.evaluation p fuel
  exact fun φ => @Run.Phase.respected _ _ blind_respected.toRespectsSteps (meaning p fuel)
    (meaning p fuel) (fun _ => True) (fun _ => True) (fun e _ => hv e) (fun s _ => hr s) φ
    (fun i _ => blind_respected.setActive i) (fun _ _ _ _ _ _ => trivial)
    fun _ _ _ _ _ _ => trivial

/-! ## The status -/

/-- What a statement does if `exit` without a status means `exit` with this one. -/
def Stmt.ruleAfter (code : Int) (self : Meaning) (fuel : Nat) : Stmt → Eval Flow
  | .exit none _ => return .signal (.exit code)
  | s => s.rule self fuel

mutual

def evalAfter (code : Int) (p : Program) : Nat → Expr → Eval Value
  | 0, _ => throw .exhausted
  | n + 1, e => located e.place (e.rule p ⟨evalAfter code p n, execAfter code p n⟩)

def execAfter (code : Int) (p : Program) : Nat → Stmt → Eval Flow
  | 0, _ => throw .exhausted
  | n + 1, s => do
    Stmt.settled (← s.ruleAfter code ⟨evalAfter code p n, execAfter code p n⟩ n)

end

/-- The meaning of a program's terms if `exit` without a status means `exit` with this one. -/
def meaningAfter (code : Int) (p : Program) (fuel : Nat) : Meaning :=
  ⟨evalAfter code p fuel, execAfter code p fuel⟩

theorem Aside.reports {α : Type} {x : Eval α} (hx : Aside x) {code : Int} {errors : List Error}
    {m : Machine} (hm : m.Reports code errors) : (after x m).Reports code errors := by
  obtain ⟨world, random, seed, opened, hx, -⟩ := hx.kept m
  rw [hx]
  exact hm

theorem reports_respected (code : Int) (errors : List Error) : RespectsRules .all fun _ x y =>
    Throughout (Machine.Reports code errors) x y where
  pure _ := .same fun _ hm => hm
  bind hx hf := hx.bind hf
  stop _ := .same fun _ hm => hm
  located place hx := hx.located place
  access a _ := .same fun _ hm => (Unreported.onScope a.op).reports hm
  refill name values result _ :=
    .same fun _ hm => (Unreported.refill name values result).reports hm
  write text := .same fun m hm => by
    unfold after Eval.write
    cases m.sink.accepts text <;> exact hm
  record f _ := .same fun _ hm => hm
  nextCounted := .same fun _ hm => Unreported.nextCounted.reports hm
  aside _ hx := .same fun _ hm => hx.reports hm
  takePending := .same fun _ hm => hm
  newArray := .same fun _ hm => (Unreported.onScope _).reports hm
  leave _ := .same fun _ hm => hm
  inFrame bindings owned hx m hm :=
    (hx (m.enterCall bindings owned) hm).inFrame fun hafter => hafter
  attempt hx := hx.attempt
  isCancelled := .same fun _ hm => hm
  setActive _ _ := .same fun _ hm => hm
  closeInputs := .same fun _ hm => hm

/-- Evaluation keeps what is reported, and `exit` without a status finds the status there is. -/
theorem reports_evaluation (code : Int) (errors : List Error) (p : Program) (fuel : Nat) :
    (∀ e, Throughout (Machine.Reports code errors) (eval p fuel e) (evalAfter code p fuel e)) ∧
      ∀ s, Throughout (Machine.Reports code errors) (exec p fuel s) (execAfter code p fuel s) := by
  have h := reports_respected code errors
  refine h.variants (meaningAfter code p) ⟨fun _ => h.stop _, fun _ => h.stop _⟩ (fun _ _ hx => hx)
    (fun n s hx => ?_) fuel
  show Throughout _ _ (s.ruleAfter code (meaningAfter code p n) n >>= Stmt.settled)
  unfold Stmt.ruleAfter
  split
  · intro m hm
    obtain ⟨heq, hafter⟩ := hx m hm
    refine ⟨?_, hafter⟩
    rw [← heq]
    show _ = Stmt.settled (.signal (.exit m.exitCode)) m
    rw [hm.1]
    rfl
  · exact hx

/-- In one step of a run rules and inputs keep what is reported, and `exit` without a status finds
the status before the step. -/
theorem perform_reports (p : Program) (fuel : Nat) (φ : Run.Phase) (m : Machine) :
    Keeps (Machine.Reports m.exitCode m.skipped) (φ.perform (meaning p fuel))
      (φ.perform (meaningAfter m.exitCode p fuel)) m := by
  obtain ⟨hv, hr⟩ := reports_evaluation m.exitCode m.skipped p fuel
  have h := reports_respected m.exitCode m.skipped
  exact Run.Phase.respected h.toRespectsSteps (E := fun _ => True) (S := fun _ => True)
    (fun e _ => hv e) (fun s _ => hr s) (fun i _ => h.setActive i) (fun _ _ _ _ _ _ => trivial)
    (fun _ _ _ _ _ _ => trivial) m ⟨rfl, rfl⟩

end Awk
