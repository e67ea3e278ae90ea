import Awk.Proofs.Signals
import Awk.Proofs.WholeRuns
import Awk.Session

/-!
# The depth of calls

A machine has a frame for each call that has not returned, and counts these calls.  Every
expression and every statement leaves both as they were, however it ends.  From there it
follows that frames and count agree all the time and stay within the bound, and that behind
each rule and each run there is neither a call nor a signal left.
-/

namespace Awk

open Eval

namespace Machine

/-- How deep in calls a machine is, by its frames and by its count. -/
def level (m : Machine) : Nat × Nat := (m.scope.depth, m.callDepth)

/-- Frames and count agree and are within the bound. -/
def Balanced (m : Machine) : Prop := m.scope.depth = m.callDepth ∧ m.callDepth ≤ maxCallDepth

instance : DecidablePred Balanced := fun _ => inferInstanceAs (Decidable (_ ∧ _))

/-- There is no call that has not returned, and no signal. -/
structure Idle (m : Machine) : Prop where
  depth : m.scope.depth = 0
  count : m.callDepth = 0
  pending : m.pending = none

theorem Idle.balanced {m : Machine} (h : m.Idle) : m.Balanced := by
  refine ⟨h.depth.trans h.count.symm, ?_⟩
  rw [h.count]
  exact Nat.zero_le _

theorem Balanced.of_level {m m' : Machine} (h : m.Balanced) (hlevel : m'.level = m.level) :
    m'.Balanced := by
  obtain ⟨hdepth, hcount⟩ := Prod.mk.inj hlevel
  unfold Balanced
  rw [hdepth, hcount]
  exact h

theorem Idle.of_level {m m' : Machine} (h : m.Idle) (hlevel : m'.level = m.level)
    (hpending : m'.pending = none) : m'.Idle := by
  obtain ⟨hdepth, hcount⟩ := Prod.mk.inj hlevel
  exact ⟨hdepth.trans h.depth, hcount.trans h.count, hpending⟩

end Machine

/-! ## One expression, one statement -/

namespace Scope

theorem depth_popFrame (s : Scope) : s.popFrame.depth = s.depth - 1 := by
  unfold popFrame depth
  split
  · next hf => rw [hf]; rfl
  · next f fs hf => rw [hf]; rfl

theorem depth_popAll (s : Scope) : s.popAll.depth = 0 := by
  have hpops : ∀ (fs : List Frame) (s : Scope),
      (fs.foldl (fun s _ => s.popFrame) s).depth = s.depth - fs.length := by
    intro fs
    induction fs with
    | nil => exact fun _ => rfl
    | cons f fs ih =>
      intro s
      rw [List.foldl_cons, ih, depth_popFrame, List.length_cons]
      omega
  have hall := hpops s.frames s
  rw [popAll, hall, depth]
  omega

end Scope

/-- A computation that leaves as many calls behind as it finds. -/
def KeepsLevel {α : Type} (x : Eval α) : Prop := ∀ m, (after x m).level = m.level

theorem keepsLevel_onScope {α : Type} {op : Scope.Op α}
    (hop : ∀ s, Scope.Within s (after op s)) : KeepsLevel (onScope op) := by
  intro m
  rw [after_onScope]
  exact Prod.ext (hop m.scope).depth rfl

theorem keepsLevel_inFrame {α : Type} {x : Eval α} (hx : KeepsLevel x)
    (bindings : List (String × Binding)) (owned : List Nat) :
    KeepsLevel (Call.inFrame bindings owned x) := by
  intro m
  obtain ⟨hdepth, hcount⟩ := Prod.mk.inj (hx (m.enterCall bindings owned))
  have hin : (m.enterCall bindings owned).scope.depth = m.scope.depth + 1 := rfl
  have hin' : (m.enterCall bindings owned).callDepth = m.callDepth + 1 := rfl
  rw [after_inFrame]
  refine Prod.ext ?_ ?_
  · show Scope.depth (Scope.popFrame _) = m.scope.depth
    rw [Scope.depth_popFrame, hdepth, hin]
    omega
  · show _ - 1 = m.callDepth
    rw [hcount, hin']
    omega

theorem keepsLevel_respected : RespectsCalls fun _ x _ => KeepsLevel x where
  pure a m := rfl
  bind hx hf := after_bind_trans (R := fun m m' : Machine => m'.level = m.level)
    (fun _ _ _ h₁ h₂ => h₂.trans h₁) hx hf
  stop why m := rfl
  located place hx m := by
    rw [after_located]
    exact hx m
  access a := keepsLevel_onScope fun s => (a.effect s).within
  newArray := keepsLevel_onScope fun s => ⟨rfl, rfl, fun _ => .refl _⟩
  fillArray id values := keepsLevel_onScope fun s => ⟨rfl, rfl, fun _ => .refl _⟩
  sameNames f hf m := Prod.ext (hf m.scope).within.depth rfl
  write text m := by
    have hscope := (after_write text m).1
    exact Prod.ext (by rw [Machine.level, hscope, Machine.level]) (callDepth_after_write text m)
  detached x hx m := by
    obtain ⟨hscope, -, -, hcount, -⟩ := hx m
    exact Prod.ext (by rw [Machine.level, hscope, Machine.level]) hcount
  takePending m := rfl
  leave s m := rfl
  inFrame bindings owned hx := keepsLevel_inFrame hx bindings owned

/-- Where there are as many calls as may be, one more fails before anything is done for it. -/
theorem enter_at_bound (self : Meaning) (f : Function) (args : List Expr) (place : Location)
    {m : Machine} (hm : maxCallDepth ≤ m.callDepth) :
    ∃ fault, Call.enter self f args place m =
      .error (.failed (.runtime fault (some place))) m := by
  unfold Call.enter
  by_cases hargs : f.params.length < args.length
  · rw [if_pos hargs]
    exact ⟨_, rfl⟩
  · rw [if_neg hargs, bind_of_ok (get_run m), if_pos hm]
    exact ⟨_, rfl⟩

theorem callDepth_lt_of_enter {self : Meaning} {f : Function} {args : List Expr}
    {place : Location} {m m₁ : Machine} {bound : List (String × Binding) × List Nat}
    (h : Call.enter self f args place m = .ok bound m₁) : m.callDepth < maxCallDepth := by
  rcases Nat.lt_or_ge m.callDepth maxCallDepth with hlt | hge
  · exact hlt
  · obtain ⟨fault, hfail⟩ := enter_at_bound self f args place hge
    rw [h] at hfail
    cases hfail

/-! ## All the time -/

theorem balanced_of_keepsLevel {α : Type} {x : Eval α} (hx : KeepsLevel x) :
    Throughout Machine.Balanced x x :=
  .same fun m hm => hm.of_level (hx m)

theorem balanced_respected :
    RespectsStatements .all fun _ x y => Throughout Machine.Balanced x y where
  pure _ := .same fun _ hm => hm
  bind hx hf := hx.bind hf
  stop _ := .same fun _ hm => hm
  located place hx := hx.located place
  access a _ := balanced_of_keepsLevel (keepsLevel_respected.access a)
  assign text := balanced_of_keepsLevel (keepsLevel_respected.under.assign text)
  refill name values result _ :=
    balanced_of_keepsLevel (keepsLevel_respected.under.refill name values result trivial)
  sameNames f hf := balanced_of_keepsLevel (keepsLevel_respected.sameNames f hf)
  write text := balanced_of_keepsLevel (keepsLevel_respected.write text)
  detached x hx := balanced_of_keepsLevel (keepsLevel_respected.detached x hx)
  takePending := balanced_of_keepsLevel keepsLevel_respected.takePending

/-- The frame of a call that the bound leaves room for. -/
theorem balanced_inFrame {α : Type} {x y : Eval α} (hx : Throughout Machine.Balanced x y)
    (hlevel : KeepsLevel x) (bindings : List (String × Binding)) (owned : List Nat) {m : Machine}
    (hm : m.Balanced) (hlt : m.callDepth < maxCallDepth) :
    Keeps Machine.Balanced (Call.inFrame bindings owned x) (Call.inFrame bindings owned y) m := by
  have hin : (m.enterCall bindings owned).Balanced := by
    refine ⟨?_, hlt⟩
    show m.scope.depth + 1 = m.callDepth + 1
    rw [hm.1]
  refine ⟨?_, hm.of_level (keepsLevel_inFrame hlevel bindings owned m)⟩
  rw [Call.inFrame, Call.inFrame, (hx _ hin).1]

theorem balanced_user {p : Program} {n : Nat} {self : Meaning}
    (hv : ∀ e, Throughout Machine.Balanced (eval p n e) (self.value e))
    (hr : ∀ s, Throughout Machine.Balanced (exec p n s) (self.run s)) (f : Function)
    (args : List Expr) (place : Location) :
    Throughout Machine.Balanced (Call.user (meaning p n) f args place)
      (Call.user self f args place) := by
  have h := balanced_respected
  have hargs : KeepsLevel (Call.enter (meaning p n) f args place) :=
    keepsLevel_respected.binding p n f args place
  have henter : Throughout Machine.Balanced (Call.enter (meaning p n) f args place)
      (Call.enter self f args place) :=
    h.enter (E := fun _ => True) (fun e _ => hv e)
      (balanced_of_keepsLevel keepsLevel_respected.newArray) f place (fun _ _ => trivial)
      fun _ _ _ _ _ => trivial
  have hbody : Throughout Machine.Balanced (Call.sequence (exec p n) f.body.body)
      (Call.sequence self.run f.body.body) := h.sequence fun s _ => hr s
  have hlevel : KeepsLevel (Call.sequence (exec p n) f.body.body) :=
    keepsLevel_respected.block p n f.body.body
  intro m hm
  refine (henter m hm).bind fun bound m₁ hrun hm₁ => ?_
  -- The bound was looked at before the arguments were evaluated.
  have hlt : m₁.callDepth < maxCallDepth := by
    have hsame := hargs m
    rw [after_of_ok hrun] at hsame
    have hcount : m₁.callDepth = m.callDepth := (Prod.mk.inj hsame).2
    rw [hcount]
    exact callDepth_lt_of_enter hrun
  refine (balanced_inFrame hbody hlevel bound.1 bound.2 hm₁ hlt).bind fun flow m₂ _ hm₂ => ?_
  cases flow with
  | signal s => exact ⟨rfl, hm₂⟩
  | _ => exact ⟨rfl, hm₂⟩

theorem balanced_evaluation (p : Program) (alarm : Stop) (n : Nat) :
    (∀ e, Throughout Machine.Balanced (eval p n e)
      (evalWatched Machine.Balanced alarm p n e)) ∧
    ∀ s, Throughout Machine.Balanced (exec p n s) (execWatched Machine.Balanced alarm p n s) :=
  throughout_evaluation balanced_respected
    (fun _ _ hv hr _ f args place _ => balanced_user hv hr f args place) alarm n

/-! ## Rules -/

/-- The machine that a computation leaves behind which ends with a value or an error. -/
def Leaves {α : Type} (x : Eval α) (m m' : Machine) : Prop :=
  (∃ a, x m = .ok a m') ∨ ∃ e, x m = .error (.failed e) m'

/-- From a machine of this kind `y` does what `x` does, and nothing is left behind. -/
def Steady (P : Machine → Prop) {α : Type} (x y : Eval α) : Prop :=
  ∀ m, P m → y m = x m ∧ ∀ m', Leaves x m m' → m'.Idle

/-- From an idle machine `y` does what `x` does, and nothing is left behind unless there is an
error. -/
def Settles {α : Type} (x y : Eval α) : Prop :=
  ∀ m, m.Idle → y m = x m ∧ ∀ a m', x m = .ok a m' → m'.Idle

theorem after_of_leaves {α : Type} {x : Eval α} {m m' : Machine} (h : Leaves x m m') :
    after x m = m' := by
  rcases h with ⟨a, ha⟩ | ⟨e, he⟩
  · exact after_of_ok ha
  · exact after_of_error he

theorem leaves_bind {α β : Type} {x : Eval α} {f : α → Eval β} {m m' : Machine}
    (h : Leaves (x >>= f) m m') :
    (∃ a m₁, x m = .ok a m₁ ∧ Leaves (f a) m₁ m') ∨ ∃ e, x m = .error (.failed e) m' := by
  cases hrun : x m with
  | ok a m₁ =>
    unfold Leaves at h
    rw [bind_of_ok hrun] at h
    exact .inl ⟨a, m₁, rfl, h⟩
  | error why m₁ =>
    unfold Leaves at h
    rw [bind_of_error hrun] at h
    obtain ⟨b, hb⟩ | ⟨e, he⟩ := h
    · cases hb
    · cases he
      exact .inr ⟨e, rfl⟩

/-- Two computations that go on alike go on alike behind what they share. -/
theorem bind_congr_run {α β : Type} {x y : Eval α} {f g : α → Eval β} {m : Machine}
    (heq : y m = x m) (hf : ∀ a m₁, x m = .ok a m₁ → g a m₁ = f a m₁) :
    (y >>= g) m = (x >>= f) m := by
  cases hrun : x m with
  | ok a m₁ =>
    rw [hrun] at heq
    rw [bind_of_ok heq, bind_of_ok hrun]
    exact hf a m₁ hrun
  | error why m₁ =>
    rw [hrun] at heq
    rw [bind_of_error heq, bind_of_error hrun]

namespace Steady

variable {α β : Type} {P : Machine → Prop}

theorem bind {x y : Eval α} {f g : α → Eval β} (hx : Steady P x y)
    (hf : ∀ a, Steady Machine.Idle (f a) (g a)) : Steady P (x >>= f) (y >>= g) := by
  intro m hm
  obtain ⟨heq, hidle⟩ := hx m hm
  have hnext : ∀ a m₁, x m = .ok a m₁ → m₁.Idle := fun a m₁ hrun => hidle m₁ (.inl ⟨a, hrun⟩)
  refine ⟨bind_congr_run heq fun a m₁ hrun => (hf a m₁ (hnext a m₁ hrun)).1, fun m' hm' => ?_⟩
  rcases leaves_bind hm' with ⟨a, m₁, hrun, hrest⟩ | ⟨e, he⟩
  · exact (hf a m₁ (hnext a m₁ hrun)).2 m' hrest
  · exact hidle m' (.inr ⟨e, he⟩)

/-- A computation that has nothing to do with calls and signals. -/
theorem quiet {x : Eval α} (hlevel : KeepsLevel x)
    (hpending : ∀ m, (after x m).pending = m.pending) : Steady Machine.Idle x x := by
  intro m hm
  refine ⟨rfl, fun m' hm' => ?_⟩
  rw [← after_of_leaves hm']
  exact hm.of_level (hlevel m) ((hpending m).trans hm.pending)

theorem pure (a : α) : Steady Machine.Idle (pure a) (Pure.pure a) :=
  quiet (fun _ => rfl) fun _ => rfl

theorem stop (why : Stop) : Steady Machine.Idle (throw why : Eval α) (throw why) :=
  quiet (fun _ => rfl) fun _ => rfl

theorem attempt {x y : Eval α} (hx : Steady P x y) : Steady P (Run.attempt x) (Run.attempt y) := by
  intro m hm
  obtain ⟨heq, hidle⟩ := hx m hm
  refine ⟨by rw [Run.attempt, Run.attempt, heq], fun m' hm' => hidle m' ?_⟩
  unfold Leaves Run.attempt at hm'
  cases hrun : x m with
  | ok a m₁ =>
    rw [hrun] at hm'
    rcases hm' with ⟨_, h⟩ | ⟨_, h⟩ <;> cases h
    exact .inl ⟨a, hrun⟩
  | error why m₁ =>
    rw [hrun] at hm'
    cases why with
    | failed e =>
      rcases hm' with ⟨_, h⟩ | ⟨_, h⟩ <;> cases h
      exact .inr ⟨e, hrun⟩
    | crashed _ | needs _ | exhausted => rcases hm' with ⟨_, h⟩ | ⟨_, h⟩ <;> cases h

end Steady

/-- What leaves nothing behind leaves nothing behind unless there is an error. -/
theorem Steady.settles {α : Type} {x y : Eval α} (h : Steady Machine.Idle x y) : Settles x y := by
  intro m hm
  obtain ⟨heq, hidle⟩ := h m hm
  exact ⟨heq, fun a m' hrun => hidle m' (.inl ⟨a, hrun⟩)⟩

/-- The handling of what can fail: where it has failed, anything may be left behind. -/
theorem Settles.attempt_bind {α β : Type} {x y : Eval α} {f g : Except Error α → Eval β}
    (hx : Settles x y) (hok : ∀ a, Steady Machine.Idle (f (.ok a)) (g (.ok a)))
    (herror : ∀ e, Steady (fun _ => True) (f (.error e)) (g (.error e))) :
    Steady Machine.Idle (Run.attempt x >>= f) (Run.attempt y >>= g) := by
  intro m hm
  obtain ⟨heq, hidle⟩ := hx m hm
  have hsame : Run.attempt y m = Run.attempt x m := by rw [Run.attempt, Run.attempt, heq]
  have hrest : ∀ r m₁, Run.attempt x m = .ok r m₁ →
      g r m₁ = f r m₁ ∧ ∀ m', Leaves (f r) m₁ m' → m'.Idle := by
    intro r m₁ hrun
    unfold Run.attempt at hrun
    split at hrun
    · next a m₂ ha =>
      cases hrun
      exact hok a m₁ (hidle a m₁ ha)
    · next e m₂ he =>
      cases hrun
      exact herror e m₁ trivial
    · cases hrun
  refine ⟨bind_congr_run hsame fun r m₁ hrun => (hrest r m₁ hrun).1, fun m' hm' => ?_⟩
  rcases leaves_bind hm' with ⟨r, m₁, hrun, hleaves⟩ | ⟨e, he⟩
  · exact (hrest r m₁ hrun).2 m' hleaves
  · unfold Run.attempt at he
    split at he
    · cases he
    · cases he
    · next why m₁ hwhy hrun =>
      cases he
      exact absurd rfl (hwhy e)

theorem RespectsUnder.selectsAny {Q : ∀ ⦃α : Type⦄, Eval α → Eval α → Prop} {A : Permit}
    (h : RespectsUnder A Q) {self self' : Meaning} (hv : ∀ e, Q (self.value e) (self'.value e))
    (i : Nat) (pattern : Option Pattern) :
    Q (Run.selects self i pattern) (Run.selects self' i pattern) :=
  h.selects (E := fun _ => True) (fun e _ => hv e)
    (fun _ => h.detached _ fun _ => ⟨rfl, rfl, rfl, rfl, rfl⟩) fun _ _ _ _ => trivial

theorem RespectsCalls.selecting {Q : ∀ ⦃α : Type⦄, Eval α → Eval α → Prop} (h : RespectsCalls Q)
    (p : Program) (n i : Nat) (pattern : Option Pattern) :
    Q (Run.selects (meaning p n) i pattern) (Run.selects (meaning p n) i pattern) :=
  h.under.selectsAny (h.evaluation p n).1 i pattern

theorem pending_after_sequence {p : Program} {n : Nat} {body : List Stmt} {m m' : Machine}
    {flow : Flow} (hm : m.pending = none)
    (hrun : Call.sequence (exec p n) body m = .ok flow m') : m'.pending = none := by
  induction body generalizing m with
  | nil =>
    cases hrun
    exact hm
  | cons s rest ih =>
    obtain ⟨flow₁, m₁, hs, hrest⟩ := bind_ok_inv hrun
    have hnone : m₁.pending = none := pending_after_exec hs
    split at hrest
    · exact ih hnone hrest
    · cases hrest
      exact hnone

/-- A signal that is there is taken, so that none is left either way. -/
theorem Settles.unlessPending {x y : Eval Flow} (h : Settles x y) {m : Machine}
    (hlevel : m.level = (0, 0)) :
    Stmt.unlessPending y m = Stmt.unlessPending x m ∧
      ∀ flow m', Stmt.unlessPending x m = .ok flow m' → m'.Idle := by
  obtain ⟨hdepth, hcount⟩ := Prod.mk.inj hlevel
  cases hm : m.pending with
  | some s =>
    rw [unlessPending_of_some hm, unlessPending_of_some hm]
    refine ⟨rfl, fun flow m' hend => ?_⟩
    cases hend
    exact ⟨hdepth, hcount, rfl⟩
  | none =>
    rw [unlessPending_of_none hm, unlessPending_of_none hm]
    exact h m ⟨hdepth, hcount, hm⟩

section

variable (p : Program) (alarm : Stop) (n : Nat)

theorem act_settles (r : Rule) :
    Settles (Run.act (meaning p n) r)
      (Run.act (meaningWatched Machine.Balanced alarm p n) r) := by
  unfold Run.act
  cases r.action with
  | none =>
    have hquiet : Steady Machine.Idle printRecord printRecord :=
      .quiet keepsLevel_respected.under.printRecord keepsPending_respected.under.printRecord
    exact (hquiet.bind fun _ => .pure _).settles
  | some block =>
    have hrun : Throughout Machine.Balanced (Call.sequence (exec p n) block.body)
        (Call.sequence (execWatched Machine.Balanced alarm p n) block.body) :=
      balanced_respected.sequence fun s _ => (balanced_evaluation p alarm n).2 s
    intro m hm
    refine ⟨(hrun m hm.balanced).1, fun flow m' hend => ?_⟩
    have hend : Call.sequence (exec p n) block.body m = .ok flow m' := hend
    have hlevel := keepsLevel_respected.block p n block.body m
    rw [after_of_ok hend] at hlevel
    exact hm.of_level hlevel (pending_after_sequence hm.pending hend)

theorem dispatch_settles (i : Nat) (r : Rule) :
    Settles (Run.dispatch (meaning p n) i r)
      (Run.dispatch (meaningWatched Machine.Balanced alarm p n) i r) := by
  have hselects : Throughout Machine.Balanced (Run.selects (meaning p n) i r.pattern)
      (Run.selects (meaningWatched Machine.Balanced alarm p n) i r.pattern) :=
    balanced_respected.selectsAny (balanced_evaluation p alarm n).1 i r.pattern
  have hact : ∀ selected : Bool, Settles
      (if selected then Run.act (meaning p n) r else pure .normal)
      (if selected then Run.act (meaningWatched Machine.Balanced alarm p n) r
        else pure .normal) := by
    intro selected
    cases selected with
    | true => exact act_settles p alarm n r
    | false => exact (Steady.pure Flow.normal).settles
  intro m hm
  have hbehind : ∀ selected m₁, Run.selects (meaning p n) i r.pattern m = .ok selected m₁ →
      m₁.level = (0, 0) := by
    intro selected m₁ hrun
    have hlevel := keepsLevel_respected.selecting p n i r.pattern m
    rw [after_of_ok hrun] at hlevel
    exact hlevel.trans (Prod.ext hm.depth hm.count)
  refine ⟨bind_congr_run (hselects m hm.balanced).1 fun selected m₁ hrun => ?_,
    fun flow m' hend => ?_⟩
  · exact ((hact selected).unlessPending (hbehind selected m₁ hrun)).1
  · obtain ⟨selected, m₁, hrun, hrest⟩ := bind_ok_inv hend
    exact ((hact selected).unlessPending (hbehind selected m₁ hrun)).2 flow m' hrest

theorem reset_steady : Steady (fun _ => True) Run.reset Run.reset := by
  intro m _
  refine ⟨rfl, fun m' hm' => ?_⟩
  rcases hm' with ⟨a, h⟩ | ⟨e, h⟩ <;> cases h
  exact ⟨Scope.depth_popAll m.scope, rfl, rfl⟩

theorem handle_steady (e : Error) : Steady (fun _ => True) (Run.handle e) (Run.handle e) := by
  refine reset_steady.bind fun _ => ?_
  have hget : Steady Machine.Idle (get : Eval Machine) MonadState.get :=
    .quiet (fun _ => rfl) fun _ => rfl
  refine hget.bind fun m => ?_
  cases m.policy with
  | abort => exact .stop _
  | skipRule => exact .quiet (fun _ => rfl) fun _ => rfl

theorem setExitCode_steady (code : Int) :
    Steady Machine.Idle (Run.setExitCode code) (Run.setExitCode code) :=
  .quiet (fun _ => rfl) fun _ => rfl

theorem beginRules_steady (rules : List Rule) :
    Steady Machine.Idle (Run.beginRules (meaning p n) rules)
      (Run.beginRules (meaningWatched Machine.Balanced alarm p n) rules) := by
  induction rules with
  | nil => exact .pure _
  | cons r rest ih =>
    refine (act_settles p alarm n r).attempt_bind (fun flow => ?_) fun e => ?_
    · split
      · exact (setExitCode_steady _).bind fun _ => .pure _
      · exact ih
      · next h => cases h
    · exact (handle_steady e).bind fun _ => ih

theorem endRules_steady (rules : List Rule) :
    Steady Machine.Idle (Run.endRules (meaning p n) rules)
      (Run.endRules (meaningWatched Machine.Balanced alarm p n) rules) := by
  induction rules with
  | nil => exact .pure _
  | cons r rest ih =>
    refine (act_settles p alarm n r).attempt_bind (fun flow => ?_) fun e => ?_
    · split
      · exact setExitCode_steady _
      · exact ih
      · next h => cases h
    · exact reset_steady.bind fun _ => .stop _

theorem processRecord_steady (rules : List (Rule × Nat)) :
    Steady Machine.Idle (Run.processRecord (meaning p n) rules)
      (Run.processRecord (meaningWatched Machine.Balanced alarm p n) rules) := by
  induction rules with
  | nil => exact .pure _
  | cons rule rest ih =>
    obtain ⟨r, i⟩ := rule
    refine (dispatch_settles p alarm n i r).attempt_bind (fun flow => ?_) fun e => ?_
    · split
      · exact .pure _
      · exact .pure _
      · exact ih
      · next h => cases h
    · exact (handle_steady e).bind fun _ => ih

/-- By induction on the records that may still be read. -/
theorem mainRules_steady (rules : List (Rule × Nat)) (turns : Nat) :
    Steady Machine.Idle (Run.mainRules (meaning p n) rules turns)
      (Run.mainRules (meaningWatched Machine.Balanced alarm p n) rules turns) := by
  have hlevel := keepsLevel_respected.under
  have hpending := keepsPending_respected.under
  induction turns with
  | zero => exact .stop _
  | succ turns ih =>
    refine (Steady.quiet (fun _ => rfl) fun _ => rfl).bind fun cancelled => ?_
    split
    · exact setExitCode_steady _
    · refine (Steady.quiet hlevel.nextRecord hpending.nextRecord).bind fun record => ?_
      cases record with
      | none => exact .pure _
      | some record =>
        refine (Steady.quiet hlevel.countRecord hpending.countRecord).bind fun _ => ?_
        have hset : ∀ s, Scope.SameNames s (s.setRecord record) :=
          Scope.setRecord_sameNames record
        refine (Steady.quiet (hlevel.sameNames _ hset) (hpending.sameNames _ hset)).bind
          fun _ => (processRecord_steady p alarm n rules).bind fun signal => ?_
        split
        · exact setExitCode_steady _
        · exact (Steady.quiet (fun _ => rfl) fun _ => rfl).bind fun _ => ih
        · exact ih

theorem phases_steady (turns : Nat) (sources : List Source) :
    Steady Machine.Idle (Run.phases (meaning p n) p turns sources)
      (Run.phases (meaningWatched Machine.Balanced alarm p n) p turns sources) := by
  have hlevel := keepsLevel_respected.under
  have hpending := keepsPending_respected.under
  have hbegan : Steady Machine.Idle (Run.beforeEnd (meaning p n) p turns)
      (Run.beforeEnd (meaningWatched Machine.Balanced alarm p n) p turns) := by
    refine (beginRules_steady p alarm n _).bind fun exited => ?_
    split
    · exact mainRules_steady p alarm n _ turns
    · exact .pure _
  have hended := endRules_steady p alarm n (p.rules.filter (·.isEnd))
  have hflushed : Steady Machine.Idle (Run.attempt flush) (Run.attempt flush) :=
    (Steady.quiet hlevel.flush hpending.flush).attempt
  refine (Steady.quiet (fun _ => rfl) fun _ => rfl).bind fun _ => ?_
  refine hbegan.attempt.bind fun began => hended.attempt.bind fun ended => ?_
  refine (Steady.quiet (fun _ => rfl) fun _ => rfl).bind fun _ => hflushed.bind fun flushed => ?_
  split
  · exact .stop _
  · exact .stop _
  · exact .stop _
  · exact (Steady.quiet hlevel.get hpending.get).bind fun _ => .pure _

end

/-! ## Sessions -/

/-- The machines that a session can have between settings and runs, whatever their results. -/
inductive Session.Reached (p : Program) : Machine → Prop where
  | start (world : World) : Session.Reached p (Session.start p world)
  | setting {m m' : Machine} (s : Setting) : Session.Reached p m → Leaves s.apply m m' →
      Session.Reached p m'
  | run {m m' : Machine} (sources : List Source) (sink : Sink) : Session.Reached p m →
      Leaves (Session.run p sources sink) m m' → Session.Reached p m'

theorem Setting.apply_steady (s : Setting) : Steady Machine.Idle s.apply s.apply := by
  have hlevel := keepsLevel_respected.under
  have hpending := keepsPending_respected.under
  cases s with
  | fieldSeparator fs =>
    exact .quiet (hlevel.access (.setVar "FS" (.ofText fs)) trivial)
      (hpending.access (.setVar "FS" (.ofText fs)) trivial)
  | args as =>
    refine .quiet (fun m => ?_) fun _ => rfl
    have hframes : (Scope.setArgs as m.scope).frames = m.scope.frames := by
      unfold Scope.setArgs
      dsimp only
      split <;> rfl
    refine Prod.ext ?_ rfl
    show (Scope.setArgs as m.scope).frames.length = m.scope.frames.length
    rw [hframes]
  | assign text => exact .quiet (hlevel.assign text) (hpending.assign text)
  | preset name value =>
    show Steady Machine.Idle (onScope (Scope.preset name value))
      (onScope (Scope.preset name value))
    unfold Scope.preset
    split
    · exact .quiet (hlevel.access (.setVar name (.infer value)) trivial)
        (hpending.access (.setVar name (.infer value)) trivial)
    · exact .stop _
  | _ => exact .quiet (fun _ => rfl) fun _ => rfl

theorem Session.Reached.idle {p : Program} {m : Machine} (h : Session.Reached p m) : m.Idle := by
  induction h with
  | start world =>
    have hdepth : (Scope.initial world.environment).depth = 0 := by
      unfold Scope.initial Scope.setArgs
      dsimp only
      split <;> rfl
    exact ⟨hdepth, rfl, rfl⟩
  | setting s _ hleaves ih => exact (s.apply_steady _ ih).2 _ hleaves
  | run sources sink _ hleaves ih =>
    have hsink : Steady Machine.Idle (modify fun m : Machine => { m with sink })
        (modify fun m : Machine => { m with sink }) := .quiet (fun _ => rfl) fun _ => rfl
    have hrun := hsink.bind fun _ => phases_steady p .exhausted Session.ample Session.ample sources
    exact (hrun _ ih).2 _ hleaves

/-- Calls are balanced.  An expression or a statement leaves as many frames and as high a count
of calls behind as it finds, however it ends.  A call that would exceed the bound fails, and
nothing is done for it, whatever its arguments mean.  From an idle machine frames and count
agree throughout a run and stay within the bound, and the machine is idle again behind each
rule that has been dealt with and behind the run.  A session is idle between its runs. -/
theorem calls_balanced (p : Program) :
    (∀ n e m, (after (eval p n e) m).level = m.level) ∧
    (∀ n s m, (after (exec p n s) m).level = m.level) ∧
    (∀ (self : Meaning) name f args place m, p.function? name = some f →
      maxCallDepth ≤ m.callDepth → ∃ fault,
        (Expr.call name args place).rule p self m =
          .error (.failed (.runtime fault (some place))) m) ∧
    (∀ n m alarm, m.Balanced →
      (∀ e, evalWatched Machine.Balanced alarm p n e m = eval p n e m) ∧
      ∀ s, execWatched Machine.Balanced alarm p n s m = exec p n s m) ∧
    (∀ n m, m.Idle →
      (∀ sources alarm, Run.phases (meaningWatched Machine.Balanced alarm p n) p n sources m =
        Run.program p n sources m) ∧
      (∀ rules m', Leaves (Run.beginRules (meaning p n) rules) m m' → m'.Idle) ∧
      (∀ rules m', Leaves (Run.processRecord (meaning p n) rules) m m' → m'.Idle) ∧
      (∀ rules m', Leaves (Run.endRules (meaning p n) rules) m m' → m'.Idle) ∧
      ∀ sources m', Leaves (Run.program p n sources) m m' → m'.Idle) ∧
    ∀ m, Session.Reached p m → m.Idle := by
  refine ⟨fun n => (keepsLevel_respected.evaluation p n).1,
    fun n => (keepsLevel_respected.evaluation p n).2,
    fun self name f args place m hf hm => ?_, fun n m alarm hm => ?_, fun n m hm => ?_,
    fun m hm => hm.idle⟩
  · obtain ⟨fault, hfail⟩ := enter_at_bound self f args place hm
    refine ⟨fault, ?_⟩
    rw [Expr.rule, Call.named, hf]
    exact bind_of_error hfail
  · obtain ⟨hexpr, hstmt⟩ := balanced_evaluation p alarm n
    exact ⟨fun e => (hexpr e m hm).1, fun s => (hstmt s m hm).1⟩
  · refine ⟨fun sources alarm => (phases_steady p alarm n n sources m hm).1,
      fun rules m' => (beginRules_steady p .exhausted n rules m hm).2 m',
      fun rules m' => (processRecord_steady p .exhausted n rules m hm).2 m',
      fun rules m' => (endRules_steady p .exhausted n rules m hm).2 m',
      fun sources m' => (phases_steady p .exhausted n n sources m hm).2 m'⟩

/-- A rule calls a function that ends in `exit` and fails behind it; where there are as many
calls as may be, one more fails before its argument does. -/
theorem calls_balanced_at_bound :
    let f : Function :=
      { name := "f", params := ["x"], arrayParams := [false]
        body := { body := [.exit none .start], place := .start }
        place := .start }
    let call : Expr := .call "f" [.call "missing" [] .start] .start
    let r : Rule :=
      { pattern := some .begin_
        action := some { body := [.expr (.concat (.call "f" [] .start) call .start)]
                         place := .start }
        place := .start }
    let p : Program := { rules := [r], functions := [f] }
    let m := Session.start p .empty
    let full : Machine := { m with callDepth := maxCallDepth }
    (∃ fault, call.rule p (meaning p 9) full =
      .error (.failed (.runtime fault (some .start))) full) ∧
      (∃ e m', Run.program p 9 [] m = .error (.failed e) m' ∧ m'.Idle) ∧ m.Idle := by
  intro f call r p m full
  obtain ⟨-, -, hbound, -, hrun, hsession⟩ := calls_balanced p
  have hidle : m.Idle := hsession m (.start .empty)
  have hfails : ∃ e m', Run.program p 9 [] m = .error (.failed e) m' := ⟨_, _, rfl⟩
  obtain ⟨e, m', hfails⟩ := hfails
  exact ⟨hbound (meaning p 9) "f" f _ .start full rfl (Nat.le_refl _),
    ⟨e, m', hfails, (hrun 9 m hidle).2.2.2.2 [] m' (.inr ⟨e, hfails⟩)⟩, hidle⟩

end Awk
