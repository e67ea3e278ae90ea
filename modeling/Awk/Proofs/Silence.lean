import Awk.Proofs.Signals
import Awk.Proofs.WholeRuns

/-!
# No output behind a signal

From the moment that a call has left a signal nothing is written, until the statement or the
pattern that holds the call has ended and the signal with it.  There are two parts to that.  A
computation that finds a signal writes nothing (`Silent`); and one that does not find one has, when
it ends, written what it had written when the first signal came (`Hushed`).

`print` with arguments and `printf` look for a signal before they write.  `print` alone does not.
So all of this is true of the programs in which no function begins with a `print` alone
(`Function.printsFirst`), and `record_printed_behind_signal` is the case of one in which a function
does.
-/

namespace Awk

open Eval Fate

/-! ## Functions that print before they look -/

mutual

/-- Whether a statement, where it finds a signal, may write the record. -/
def Stmt.printsFirst : Stmt → Bool
  | .print args _ => args.isEmpty
  | .doWhile body _ _ => body.printsFirst
  | .forIn _ _ body _ => body.printsFirst
  | .block body _ => Stmt.printFirst body
  | .expr _ | .printf _ _ _ | .ifElse _ _ _ _ | .whileLoop _ _ _ | .forLoop _ _ _ _ _ | .exit _ _
  | .returnValue _ _ | .delete _ _ _ | .breakLoop _ | .continueLoop _ | .next _ | .nextFile _
  | .empty => false

def Stmt.printFirst : List Stmt → Bool
  | [] => false
  | s :: _ => s.printsFirst

end

def Function.printsFirst (f : Function) : Bool := Stmt.printFirst f.body.body

/-! ## Computations that write nothing behind a signal -/

/-- Where there is a signal nothing is written, however the computation ends. -/
def Silent {α : Type} (x : Eval α) : Prop :=
  ∀ ⦃m s⦄, m.pending = some s → (after x m).sink = m.sink

/-- What `y` has written when it stops at the first signal is all that `x` writes. -/
def Hushed {α : Type} (x y : Eval α) : Prop :=
  ∀ ⦃m m'⦄, m.pending = none → y m = .error .exhausted m' → m'.pending.isSome →
    (after x m).sink = m'.sink

section

variable {α β : Type}

theorem isPending_of_some {m : Machine} {s : Signal} (hs : m.pending = some s) :
    isPending m = .ok true m := by
  show EStateM.Result.ok m.pending.isSome m = _
  rw [hs]
  rfl

theorem isPending_of_none {m : Machine} (hm : m.pending = none) : isPending m = .ok false m := by
  show EStateM.Result.ok m.pending.isSome m = _
  rw [hm]
  rfl

/-- One computation after another, where the second does nothing that can be seen about what the
first makes of a signal. -/
theorem Silent.bind_of {first : Fate α} {x : Eval α} {f : α → Eval β}
    (hkeeps : ∀ {m s a m'}, m.pending = some s → x m = .ok a m' → first s a m') (hx : Silent x)
    (hrest : ∀ s a m, first s a m → (after (f a) m).sink = m.sink) : Silent (x >>= f) := by
  intro m s hs
  have hfirst := hx hs
  cases hrun : x m with
  | error why m₁ =>
    rw [after_of_error hrun] at hfirst
    rw [after_bind_of_error hrun]
    exact hfirst
  | ok a m₁ =>
    rw [after_of_ok hrun] at hfirst
    rw [after_bind_of_ok hrun, hrest s a m₁ (hkeeps hs hrun)]
    exact hfirst

theorem Silent.returned (a : α) : Silent (pure a) := fun _ _ _ => rfl

/-- To look for a signal where there is one. -/
theorem Silent.look {f : Bool → Eval α} (hf : Silent (f true)) : Silent (isPending >>= f) := by
  intro m s hs
  rw [after_bind_of_ok (isPending_of_some hs)]
  exact hf hs

namespace Hushed

theorem bind_of {first : Fate α} {x y : Eval α} {f g : α → Eval β}
    (hagrees : ∀ {m}, m.pending = none → Agrees first x y m) (hx : Hushed x y)
    (hf : ∀ a, Hushed (f a) (g a))
    (hrest : ∀ s a m, first s a m → (after (f a) m).sink = m.sink) :
    Hushed (x >>= f) (y >>= g) := by
  intro m m' hm hstop hs
  rcases hagrees hm with ⟨hsame, hnone⟩ | ⟨s, m₁, hy, -, hlater⟩
  · -- No signal so far.
    cases hrun : x m with
    | error why m₁ =>
      rw [after_of_error hrun] at hnone
      rw [bind_of_error (hsame.trans hrun)] at hstop
      cases hstop
      rw [hnone] at hs
      cases hs
    | ok a m₁ =>
      rw [after_of_ok hrun] at hnone
      rw [bind_of_ok (hsame.trans hrun)] at hstop
      rw [after_bind_of_ok hrun]
      exact hf a hnone hstop hs
  · rw [bind_of_error hy] at hstop
    cases hstop
    have hsink := hx hm hy hs
    cases hrun : x m with
    | error why m₂ =>
      rw [after_of_error hrun] at hsink
      rw [after_bind_of_error hrun]
      exact hsink
    | ok a m₂ =>
      rw [after_of_ok hrun] at hsink
      rw [after_bind_of_ok hrun, hrest s a m₂ (hlater a m₂ hrun)]
      exact hsink

/-- What never leaves a signal. -/
theorem same {x : Eval α} (hx : ∀ m, (after x m).pending = m.pending) : Hushed x x := by
  intro m m' hm hstop hs
  have hkept := hx m
  rw [after_of_error hstop, hm] at hkept
  rw [hkept] at hs
  cases hs

/-- What never leaves a signal may write what it likes before it goes on. -/
theorem bind_same {x : Eval α} {f g : α → Eval β} (hx : ∀ m, (after x m).pending = m.pending)
    (hf : ∀ a, Hushed (f a) (g a)) : Hushed (x >>= f) (x >>= g) := by
  have hnever : ∀ {m}, m.pending = none → Agrees (fun _ _ _ => False) x x m := fun {m} hm =>
    .inl ⟨rfl, (hx m).trans hm⟩
  exact bind_of hnever (.same hx) hf fun _ _ _ hfalse => hfalse.elim

theorem returned (a : α) : Hushed (pure a) (pure a) := .same fun _ => rfl

end Hushed

/-- What an expression does about signals and output. -/
structure Quiet (x y : Eval α) : Prop extends Follows parked x y where
  silent : Silent x
  hushed : Hushed x y

namespace Quiet

theorem silent_bind {x y : Eval α} {f : α → Eval β} (hx : Quiet x y) (hf : ∀ a, Silent (f a)) :
    Silent (x >>= f) :=
  hx.silent.bind_of hx.keeps fun _ a _ hs => hf a hs

theorem hushed_bind {x y : Eval α} {f g : α → Eval β} (hx : Quiet x y) (hf : ∀ a, Silent (f a))
    (hfg : ∀ a, Hushed (f a) (g a)) : Hushed (x >>= f) (y >>= g) :=
  hx.hushed.bind_of hx.agrees hfg fun _ a _ hs => hf a hs

theorem bind {x y : Eval α} {f g : α → Eval β} (hx : Quiet x y) (hf : ∀ a, Quiet (f a) (g a)) :
    Quiet (x >>= f) (y >>= g) where
  toFollows := hx.toFollows.bind fun a => (hf a).toFollows
  silent := hx.silent_bind fun a => (hf a).silent
  hushed := hx.hushed_bind (fun a => (hf a).silent) fun a => (hf a).hushed

/-- A computation that touches neither the signal nor the output. -/
theorem same {x : Eval α} (hx : ∀ m, (after x m).pending = m.pending)
    (hsink : ∀ m, (after x m).sink = m.sink) : Quiet x x where
  toFollows := .same hx
  silent m _ _ := hsink m
  hushed := .same hx

theorem onScope (op : Scope.Op α) : Quiet (Eval.onScope op) (Eval.onScope op) :=
  .same (fun m => by rw [after_onScope]) fun m => by rw [after_onScope]

theorem modifyScope (f : Scope → Scope) : Quiet (Eval.modifyScope f) (Eval.modifyScope f) :=
  .same (fun _ => rfl) fun _ => rfl

theorem detached {x : Eval α} (hx : Detached x) : Quiet x x :=
  .same (fun m => (hx m).2.1) fun m => (hx m).2.2.1

theorem located {x y : Eval α} (place : Location) (h : Quiet x y) :
    Quiet (Eval.located place x) (Eval.located place y) where
  toFollows := h.toFollows.located place
  silent m s hs := by
    rw [after_located]
    exact h.silent hs
  hushed m m' hm hstop hs := by
    rw [after_located]
    refine h.hushed hm ?_ hs
    unfold Eval.located at hstop
    split at hstop <;> cases hstop
    assumption

end Quiet

end

theorem quiet_input : RespectsInput fun _ x y => Quiet x y where
  pure _ := .same (fun _ => rfl) fun _ => rfl
  bind := Quiet.bind
  assign _ := .onScope _
  sameNames f _ := .modifyScope f
  detached _ hx := .detached hx

theorem quiet_respected : RespectsExprs .all fun _ x y => Quiet x y where
  pure := quiet_input.pure
  bind := Quiet.bind
  stop why := ⟨.stop why, fun _ _ _ => rfl, .same fun _ => rfl⟩
  located := Quiet.located
  access a _ := .onScope _
  refill name values result _ := by
    refine .bind (.onScope _) fun id => .bind (.same (fun _ => rfl) fun _ => rfl) fun _ => ?_
    exact .bind (.onScope _) fun _ => quiet_input.pure _
  record f _ := .modifyScope f
  nextCounted := quiet_input.nextCounted
  aside x hx := .detached hx.detached

/-! ## Loops and sequences -/

/-- A test or a step that leaves a signal ends the loop. -/
def Fate.stopping : Fate Bool := fun s go m => m.pending = some s ∧ go = false

/-- To look for a signal and to go on only if there is none. -/
theorem unlessPending_stopping (holds : Bool) :
    Follows stopping (do return holds && !(← isPending)) (do return holds && !(← isPending)) := by
  constructor
  · intro m s go m' hs hrun
    rw [bind_of_ok (isPending_of_some hs)] at hrun
    cases hrun
    exact ⟨hs, Bool.and_false holds⟩
  · intro m hm
    refine .inl ⟨rfl, ?_⟩
    rw [after_bind_of_ok (isPending_of_none hm)]
    exact hm

theorem agrees_pure {α : Type} {fate : Fate α} (a : α) {m : Machine} (hm : m.pending = none) :
    Agrees fate (pure a) (pure a) m :=
  .inl ⟨rfl, hm⟩

namespace Silent

theorem bind_raised {x y : Eval Flow} {f : Flow → Eval Flow} (hx : Follows raised x y)
    (hsilent : Silent x) (hend : ∀ s, f (.signal s) = pure (.signal s)) : Silent (x >>= f) := by
  refine hsilent.bind_of hx.keeps ?_
  rintro s flow m ⟨rfl, -⟩
  rw [hend]
  rfl

/-- A loop with a test before its body does not begin. -/
theorem loop_of_test {before before' after : Eval Bool} {body : Eval Flow}
    (hbefore : Follows stopping before before') (hsilent : Silent before) (n : Nat) :
    Silent (Stmt.loop before body after n) := by
  cases n with
  | zero => exact fun _ _ _ => rfl
  | succ n =>
    refine hsilent.bind_of hbefore.keeps ?_
    rintro s go m ⟨-, rfl⟩
    rfl

/-- A loop with a test behind its body ends with the first turn. -/
theorem loop_of_body {after : Eval Bool} {body body' : Eval Flow}
    (hbody : Follows raised body body') (hsilent : Silent body) (n : Nat) :
    Silent (Stmt.loop (pure true) body after n) := by
  cases n with
  | zero => exact fun _ _ _ => rfl
  | succ n => exact hsilent.bind_raised hbody fun _ => rfl

theorem forKeys (var : String) {body body' : Eval Flow} (hbody : Follows raised body body')
    (hsilent : Silent body) (keys : List String) : Silent (Stmt.forKeys var body keys) := by
  cases keys with
  | nil => exact .returned _
  | cons key keys =>
    refine (Quiet.onScope (Scope.setVar var (.ofText key))).silent_bind fun _ => ?_
    exact hsilent.bind_raised hbody fun _ => rfl

theorem unlessPending (x : Eval Flow) : Silent (Stmt.unlessPending x) := by
  intro m s hs
  rw [after, unlessPending_of_some hs]

end Silent

theorem settled_sink (flow : Flow) (m : Machine) : (after (Stmt.settled flow) m).sink = m.sink := by
  cases hm : m.pending with
  | some s => exact Silent.unlessPending _ hm
  | none =>
    rw [Stmt.settled, after, unlessPending_of_none hm]
    rfl

namespace Hushed

/-- To write something where there is no signal. -/
theorem write_unlessPending (text : Eval String)
    (htext : ∀ m, (after text m).pending = m.pending) :
    Hushed (do if !(← isPending) then write (← text)
               return .normal : Eval Flow)
      (do if !(← isPending) then write (← text)
          return .normal) := by
  refine .bind_same (fun _ => rfl) fun pending => ?_
  dsimp only
  split
  · exact .bind_same htext fun _ => .bind_same (keepsPending_respected.write _) fun _ => .returned _
  · exact .returned _

theorem bind_raised {x y : Eval Flow} {f g : Flow → Eval Flow} (hx : Follows raised x y)
    (hhushed : Hushed x y) (hf : ∀ flow, Hushed (f flow) (g flow))
    (hend : ∀ s, f (.signal s) = pure (.signal s)) : Hushed (x >>= f) (y >>= g) := by
  refine hhushed.bind_of hx.agrees hf ?_
  rintro s flow m ⟨rfl, -⟩
  rw [hend]
  rfl

theorem loop {before before' after after' : Eval Bool} {body body' : Eval Flow}
    (hbefore : ∀ {m}, m.pending = none → Agrees stopping before before' m)
    (hbefore' : Hushed before before') (hbody : Follows raised body body')
    (hbody' : Hushed body body')
    (hafter : ∀ {m}, m.pending = none → Agrees stopping after after' m)
    (hafter' : Hushed after after') (n : Nat) :
    Hushed (Stmt.loop before body after n) (Stmt.loop before' body' after' n) := by
  have hstop : ∀ {x : Eval Flow} {s go m}, stopping s go m →
      (Awk.after (if go then x else pure .normal) m).sink = m.sink := by
    rintro x s go m ⟨-, rfl⟩
    rfl
  induction n with
  | zero => exact .same fun _ => rfl
  | succ n ih =>
    refine hbefore'.bind_of hbefore (fun go => ?_) fun s go m hgo => hstop hgo
    split
    · refine hbody'.bind_raised hbody (fun flow => ?_) fun _ => rfl
      have hnext : Hushed (do if ← after then Stmt.loop before body after n else return .normal)
          (do if ← after' then Stmt.loop before' body' after' n else return .normal) := by
        refine hafter'.bind_of hafter (fun go => ?_) fun s go m hgo => hstop hgo
        split
        · exact ih
        · exact .returned _
      cases flow with
      | normal => exact hnext
      | continue_ => exact hnext
      | break_ => exact .returned _
      | signal s => exact .returned _
      | return_ v => exact .returned _
    · exact .returned _

theorem forKeys (var : String) {body body' : Eval Flow} (hbody : Follows raised body body')
    (hbody' : Hushed body body') (keys : List String) :
    Hushed (Stmt.forKeys var body keys) (Stmt.forKeys var body' keys) := by
  induction keys with
  | nil => exact .returned _
  | cons key keys ih =>
    refine .bind_same (fun m => by rw [after_onScope]) fun _ => ?_
    refine hbody'.bind_raised hbody (fun flow => ?_) fun _ => rfl
    cases flow with
    | normal => exact ih
    | continue_ => exact ih
    | break_ => exact .returned _
    | signal s => exact .returned _
    | return_ v => exact .returned _

theorem unlessPending {x y : Eval Flow} (h : Hushed x y) :
    Hushed (Stmt.unlessPending x) (Stmt.unlessPending y) := by
  intro m m' hm hstop hs
  rw [unlessPending_of_none hm] at hstop
  rw [after, unlessPending_of_none hm]
  exact h hm hstop hs

end Hushed

/-! ## Statements -/

section

variable {self self' : Meaning} (hv : ∀ e, Quiet (self.value e) (self'.value e))

section

include hv

theorem quiet_isTrue (e : Expr) : Quiet (self.isTrue e) (self'.isTrue e) :=
  quiet_respected.isTrue (E := fun _ => True) (fun e _ => hv e) trivial

theorem quiet_text (e : Expr) : Quiet (self.text e) (self'.text e) :=
  quiet_respected.text (E := fun _ => True) (fun e _ => hv e) trivial

theorem quiet_values (args : List Expr) : Quiet (self.values args) (self'.values args) :=
  quiet_respected.values (E := fun _ => True) (fun e _ => hv e) fun _ _ => trivial

theorem quiet_printed (args : List Expr) :
    Quiet (Stmt.printed self args) (Stmt.printed self' args) :=
  quiet_respected.printed (E := fun _ => True) (fun e _ => hv e) fun _ _ => trivial

theorem quiet_exitCode (code : Option Expr) :
    Quiet (Stmt.exitCode self code) (Stmt.exitCode self' code) :=
  quiet_respected.exitCode (E := fun _ => True) (fun e _ => hv e) fun _ _ => trivial

theorem quiet_runDelete (array : String) (index : List Expr) :
    Quiet (Stmt.runDelete self array index) (Stmt.runDelete self' array index) :=
  quiet_respected.runDelete (E := fun _ => True) (fun e _ => hv e) trivial (fun _ => trivial)
    fun _ _ => trivial

theorem quiet_loopTest (test : Option Expr) :
    Quiet (Stmt.loopTest self test) (Stmt.loopTest self' test) :=
  quiet_respected.loopTest (E := fun _ => True) (fun e _ => hv e) fun _ _ => trivial

theorem quiet_loopStep (update : Option Expr) :
    Quiet (Stmt.loopStep self update) (Stmt.loopStep self' update) :=
  quiet_respected.loopStep (E := fun _ => True) (fun e _ => hv e) fun _ _ => trivial

theorem loopTest_stopping (test : Option Expr) :
    Follows stopping (Stmt.loopTest self test) (Stmt.loopTest self' test) := by
  cases test with
  | none => exact unlessPending_stopping true
  | some e => exact (quiet_isTrue hv e).toFollows.bind unlessPending_stopping

/-- A step that is absent does not look for a signal, but does not leave one either. -/
theorem loopStep_stopping (update : Option Expr) {m : Machine} (hm : m.pending = none) :
    Agrees stopping (Stmt.loopStep self update) (Stmt.loopStep self' update) m := by
  cases update with
  | none => exact agrees_pure true hm
  | some e =>
    have hstep : Follows stopping (Stmt.loopStep self (some e)) (Stmt.loopStep self' (some e)) :=
      (hv e).toFollows.bind fun _ => unlessPending_stopping true
    exact hstep.agrees hm

end

variable (hr : ∀ s, Follows raised (self.run s) (self'.run s))

/-! ### Where there is a signal -/

section

variable (hs : ∀ s, s.printsFirst = false → Silent (self.run s))

include hr hs in
theorem silent_sequence {body : List Stmt} (hbody : Stmt.printFirst body = false) :
    Silent (Call.sequence self.run body) := by
  cases body with
  | nil => exact .returned _
  | cons s rest => exact (hs s hbody).bind_raised (hr s) fun _ => rfl

include hv

theorem silent_runPrint {args : List Expr} (hargs : args.isEmpty = false) :
    Silent (Stmt.runPrint self args) := by
  unfold Stmt.runPrint
  rw [hargs]
  exact (quiet_printed hv args).silent_bind fun _ => .look (.returned _)

theorem silent_formatted (format : String) (args : List Expr) :
    Silent (do
      let values ← self.values args
      if !(← isPending) then write (← formatted format values)
      return .normal : Eval Flow) :=
  (quiet_values hv args).silent_bind fun _ => .look (.returned _)

theorem silent_runPrintf (format : Expr) (args : List Expr) :
    Silent (Stmt.runPrintf self format args) :=
  (quiet_text hv format).silent_bind fun text => silent_formatted hv text args

include hr hs

/-- A statement that finds a signal writes nothing, unless it begins with a `print` alone. -/
theorem silent_stmtRule (fuel : Nat) {s : Stmt} (hfirst : s.printsFirst = false) :
    Silent (s.rule self fuel) := by
  cases s with
  | expr e => exact (hv e).silent_bind fun _ => .returned _
  | print args place => exact silent_runPrint hv hfirst
  | printf format args place => exact silent_runPrintf hv format args
  | ifElse test ifTrue ifFalse place =>
    exact (quiet_isTrue hv test).silent_bind fun _ => .look (.returned _)
  | whileLoop test body place =>
    exact .loop_of_test (loopTest_stopping hv _) (quiet_loopTest hv _).silent fuel
  | doWhile body test place => exact (hs body hfirst).loop_of_body (hr body) fuel
  | forLoop init test update body place =>
    cases init with
    | none => exact .loop_of_test (loopTest_stopping hv test) (quiet_loopTest hv test).silent fuel
    | some e => exact (hv e).silent_bind fun _ => .unlessPending _
  | forIn var array body place =>
    exact (Quiet.onScope (Scope.arrayKeys array)).silent_bind fun keys =>
      (Quiet.detached (Aside.arranged keys).detached).silent_bind fun keys =>
        (hs body hfirst).forKeys var (hr body) keys
  | block body place => exact silent_sequence hr hs hfirst
  | exit code place => exact (quiet_exitCode hv code).silent_bind fun _ => .returned _
  | returnValue value place =>
    cases value with
    | none => exact .returned _
    | some e => exact (hv e).silent_bind fun _ => .returned _
  | delete array index place => exact (quiet_runDelete hv array index).silent
  | _ => exact .returned _

end

/-! ### Up to the first signal -/

section

variable (hh : ∀ s, Hushed (self.run s) (self'.run s))

include hr hh in
theorem hushed_sequence (body : List Stmt) :
    Hushed (Call.sequence self.run body) (Call.sequence self'.run body) := by
  induction body with
  | nil => exact .returned _
  | cons s rest ih =>
    refine (hh s).bind_raised (hr s) (fun flow => ?_) fun _ => rfl
    split
    · exact ih
    · exact .returned _

include hv

theorem hushed_runPrint (args : List Expr) :
    Hushed (Stmt.runPrint self args) (Stmt.runPrint self' args) := by
  unfold Stmt.runPrint
  split
  · exact .bind_same keepsPending_respected.under.printRecord fun _ => .returned _
  · refine (quiet_printed hv args).hushed_bind (fun _ => .look (.returned _)) fun line => ?_
    exact .write_unlessPending (do return line ++ (← scope).ors) fun _ => rfl

theorem hushed_runPrintf (format : Expr) (args : List Expr) :
    Hushed (Stmt.runPrintf self format args) (Stmt.runPrintf self' format args) := by
  refine (quiet_text hv format).hushed_bind (fun text => silent_formatted hv text args)
    fun text => ?_
  refine (quiet_values hv args).hushed_bind (fun _ => .look (.returned _)) fun values => ?_
  exact .write_unlessPending _ fun m => ((Aside.formatted text values).detached m).2.1

include hr hh

/-- A statement has written, when it ends, what it had written at the first signal. -/
theorem hushed_stmtRule (fuel : Nat) (s : Stmt) :
    Hushed (s.rule self fuel) (s.rule self' fuel) := by
  cases s with
  | expr e => exact (hv e).hushed_bind (fun _ => .returned _) fun _ => .returned _
  | print args place => exact hushed_runPrint hv args
  | printf format args place => exact hushed_runPrintf hv format args
  | ifElse test ifTrue ifFalse place =>
    refine (quiet_isTrue hv test).hushed_bind (fun _ => .look (.returned _)) fun holds => ?_
    refine .bind_same (fun _ => rfl) fun _ => ?_
    split
    · exact .returned _
    · split
      · exact hh ifTrue
      · cases ifFalse with
        | some s => exact hh s
        | none => exact .returned _
  | whileLoop test body place =>
    exact .loop (loopTest_stopping hv _).agrees (quiet_loopTest hv _).hushed (hr body) (hh body)
      (agrees_pure true) (.returned true) fuel
  | doWhile body test place =>
    exact .loop (agrees_pure true) (.returned true) (hr body) (hh body)
      (loopTest_stopping hv _).agrees (quiet_loopTest hv _).hushed fuel
  | forLoop init test update body place =>
    have hloop := Hushed.loop (loopTest_stopping hv test).agrees (quiet_loopTest hv test).hushed
      (hr body) (hh body) (loopStep_stopping hv update) (quiet_loopStep hv update).hushed fuel
    cases init with
    | none => exact hloop
    | some e => exact (hv e).hushed_bind (fun _ => .unlessPending _) fun _ => hloop.unlessPending
  | forIn var array body place =>
    exact .bind_same (fun m => by rw [after_onScope]) fun keys =>
      .bind_same (fun _ => rfl) fun keys => .forKeys var (hr body) (hh body) keys
  | block body place => exact hushed_sequence hr hh body
  | exit code place =>
    exact (quiet_exitCode hv code).hushed_bind (fun _ => .returned _) fun _ => .returned _
  | returnValue value place =>
    cases value with
    | none => exact .returned _
    | some e => exact (hv e).hushed_bind (fun _ => .returned _) fun _ => .returned _
  | delete array index place => exact (quiet_runDelete hv array index).hushed
  | _ => exact .returned _

end

end

/-! ## Calls -/

theorem conclude_sink (flow : Flow) (m : Machine) :
    (after (Call.conclude flow) m).sink = m.sink := by
  cases flow <;> rfl

theorem hushed_conclude (flow : Flow) :
    Hushed (Call.conclude flow) (Call.concludeOrStop flow) := by
  cases flow with
  | signal s =>
    intro m m' _ hstop _
    cases hstop
    rfl
  | _ => exact .returned _

theorem Silent.inFrame {x : Eval Flow} (hx : Silent x) (bindings : List (String × Binding))
    (owned : List Nat) : Silent (Call.inFrame bindings owned x) := by
  intro m s hs
  rw [after_inFrame]
  exact hx (m := m.enterCall bindings owned) hs

theorem Hushed.inFrame {x y : Eval Flow} (hx : Hushed x y) (bindings : List (String × Binding))
    (owned : List Nat) :
    Hushed (Call.inFrame bindings owned x) (Call.inFrame bindings owned y) := by
  intro m m' hm hstop hs
  rw [after_inFrame]
  unfold Call.inFrame at hstop
  split at hstop
  · cases hstop
  · next hy =>
    cases hstop
    have hinner := hx (m := m.enterCall bindings owned) hm hy
    exact hinner hs

section

variable {self self' : Meaning} (hv : ∀ e, Quiet (self.value e) (self'.value e))
  (hr : ∀ s, Follows raised (self.run s) (self'.run s))
  (hs : ∀ s, s.printsFirst = false → Silent (self.run s))
  (hh : ∀ s, Hushed (self.run s) (self'.run s))

include hv hr hs hh

/-- A call that finds a signal writes nothing, and one that does not has written, when it ends, what
it had written at the first. -/
theorem quiet_user {f : Function} (hf : f.printsFirst = false) (args : List Expr)
    (place : Location) :
    Quiet (Call.user self f args place)
      (do
        let (bindings, owned) ← Call.enter self' f args place
        Call.concludeOrStop (← Call.body self' f bindings owned)) := by
  have henter : Quiet (Call.enter self f args place) (Call.enter self' f args place) :=
    quiet_respected.enter (E := fun _ => True) (fun e _ => hv e) (.onScope _) f place
      (fun _ _ => trivial) fun _ _ _ _ _ => trivial
  have hbody : ∀ bindings owned, Follows passed (Call.body self f bindings owned)
      (Call.body self' f bindings owned) := fun bindings owned =>
    (Follows.sequence hr f.body.body).inFrame bindings owned
  have hsilent : ∀ bindings owned,
      Silent (Call.body self f bindings owned >>= Call.conclude) := fun bindings owned =>
    Silent.bind_of (hbody bindings owned).keeps ((silent_sequence hr hs hf).inFrame _ _)
      fun _ flow m _ => conclude_sink flow m
  refine ⟨Follows.user (fun e => (hv e).toFollows) hr f args place, ?_, ?_⟩
  · exact henter.silent_bind fun bound => hsilent bound.1 bound.2
  · refine henter.hushed_bind (fun bound => hsilent bound.1 bound.2) fun bound => ?_
    exact ((hushed_sequence hr hh f.body.body).inFrame _ _).bind_of (hbody bound.1 bound.2).agrees
      hushed_conclude fun _ flow m _ => conclude_sink flow m

theorem quiet_exprRule {p : Program} (hp : ∀ f ∈ p.functions, f.printsFirst = false) (e : Expr) :
    Quiet (e.rule p self) (e.ruleUntilSignal p self') := by
  by_cases hcall : ∃ name args place, e = .call name args place
  · obtain ⟨name, args, place, rfl⟩ := hcall
    cases hf : p.function? name with
    | some f =>
      rw [Expr.rule, Call.named, Expr.ruleUntilSignal, hf]
      exact quiet_user hv hr hs hh (hp f (List.mem_of_find?_eq_some hf)) args place
    | none =>
      rw [Expr.rule, Expr.ruleUntilSignal, hf]
      exact quiet_respected.hostCall (E := fun _ => True) (fun e _ => hv e) name place hf
        fun _ _ => trivial
  · have hsame : e.ruleUntilSignal p self' = e.rule p self' := by
      unfold Expr.ruleUntilSignal
      split
      · exact absurd ⟨_, _, _, rfl⟩ hcall
      · rfl
    rw [hsame]
    refine quiet_respected.exprRule (fun e _ => hv e) e.permitted_all fun name args place heq => ?_
    exact absurd ⟨name, args, place, heq⟩ hcall

end

/-- The meaning of terms up to the first signal. -/
def meaningUntilSignal (p : Program) (n : Nat) : Meaning :=
  ⟨evalUntilSignal p n, execUntilSignal p n⟩

/-- Whatever the fuel: nothing is written behind a signal. -/
theorem evaluation_quiet {p : Program} (hp : ∀ f ∈ p.functions, f.printsFirst = false) (n : Nat) :
    (∀ e, Quiet (eval p n e) (evalUntilSignal p n e)) ∧
      (∀ s, s.printsFirst = false → Silent (exec p n s)) ∧
        ∀ s, Hushed (exec p n s) (execUntilSignal p n s) := by
  induction n with
  | zero =>
    refine ⟨fun _ => quiet_respected.stop _, fun _ _ _ _ _ => rfl, fun _ => ?_⟩
    exact .same fun _ => rfl
  | succ n ih =>
    have hv : ∀ e, Quiet ((meaning p n).value e) ((meaningUntilSignal p n).value e) := ih.1
    have hr : ∀ s, Follows raised ((meaning p n).run s) ((meaningUntilSignal p n).run s) :=
      (evaluation_follows p n).2
    have hs : ∀ s, s.printsFirst = false → Silent ((meaning p n).run s) := ih.2.1
    have hh : ∀ s, Hushed ((meaning p n).run s) ((meaningUntilSignal p n).run s) := ih.2.2
    have hrule := fun s => Follows.stmtRule (fun e => (hv e).toFollows) hr n s
    refine ⟨fun e => ?_, fun s hfirst => ?_, fun s => ?_⟩
    · exact (quiet_exprRule hv hr hs hh hp e).located e.place
    · exact (silent_stmtRule hv hr hs n hfirst).bind_of (hrule s).keeps
        fun _ flow m _ => settled_sink flow m
    · exact (hushed_stmtRule hv hr hh n s).bind_of (hrule s).agrees
        (fun flow => (Hushed.returned flow).unlessPending) fun _ flow m _ => settled_sink flow m

/-! ## Rules -/

section

variable {self self' : Meaning} (hv : ∀ e, Quiet (self.value e) (self'.value e))
  (hr : ∀ s, Follows raised (self.run s) (self'.run s))
  (hh : ∀ s, Hushed (self.run s) (self'.run s))

include hr hh in
theorem hushed_act (r : Rule) : Hushed (Run.act self r) (Run.act self' r) := by
  unfold Run.act
  cases r.action with
  | some block => exact hushed_sequence hr hh block.body
  | none => exact .bind_same keepsPending_respected.under.printRecord fun _ => .returned _

include hv in
/-- The second end of a range is tested even if the first has left a signal. -/
theorem quiet_selects (i : Nat) (pattern : Option Pattern) :
    Quiet (Run.selects self i pattern) (Run.selects self' i pattern) :=
  quiet_respected.selects (E := fun _ => True) (fun e _ => hv e)
    (fun _ => .same (fun _ => rfl) fun _ => rfl) fun _ _ _ _ => trivial

include hv hr hh in
theorem hushed_dispatch (i : Nat) (r : Rule) :
    Hushed (Run.dispatch self i r) (Run.dispatch self' i r) := by
  have hselects := quiet_selects hv i r.pattern
  refine hselects.hushed.bind_of hselects.agrees (fun selected => ?_) fun s selected m hm => ?_
  · intro m m' hm hstop hs
    rw [bind_of_ok (takePending_of_none hm)] at hstop
    rw [after_bind_of_ok (takePending_of_none hm)]
    cases selected with
    | true => exact hushed_act hr hh r hm hstop hs
    | false => exact Hushed.returned Flow.normal hm hstop hs
  · rw [after_bind_of_ok (takePending_of_some hm)]
    rfl

end

/-- In a program of which no function begins with a `print` alone nothing is written behind a
signal: not by an expression that finds one; and a statement, an action or a rule with its pattern
has written, when it ends or fails, what it had written when the first call left a signal. -/
theorem nothing_written_behind_signal {p : Program}
    (hp : ∀ f ∈ p.functions, f.printsFirst = false) (n : Nat) :
    (∀ e m s, m.pending = some s → (after (eval p n e) m).sink = m.sink) ∧
    (∀ st m m', m.pending = none → execUntilSignal p n st m = .error .exhausted m' →
      m'.pending.isSome → (after (exec p n st) m).sink = m'.sink) ∧
    (∀ r m m', m.pending = none → Run.act (meaningUntilSignal p n) r m = .error .exhausted m' →
      m'.pending.isSome → (after (Run.act (meaning p n) r) m).sink = m'.sink) ∧
    (∀ i r m m', m.pending = none →
      Run.dispatch (meaningUntilSignal p n) i r m = .error .exhausted m' →
      m'.pending.isSome → (after (Run.dispatch (meaning p n) i r) m).sink = m'.sink) := by
  obtain ⟨hexpr, -, hstmt⟩ := evaluation_quiet hp n
  have hv : ∀ e, Quiet ((meaning p n).value e) ((meaningUntilSignal p n).value e) := hexpr
  have hh : ∀ s, Hushed ((meaning p n).run s) ((meaningUntilSignal p n).run s) := hstmt
  have hr : ∀ s, Follows raised ((meaning p n).run s) ((meaningUntilSignal p n).run s) :=
    (evaluation_follows p n).2
  exact ⟨fun e m s hs => (hexpr e).silent hs, fun st m m' hm hstop hs => hstmt st hm hstop hs,
    fun r m m' hm hstop hs => hushed_act hr hh r hm hstop hs,
    fun i r m m' hm hstop hs => hushed_dispatch hv hr hh i r hm hstop hs⟩

/-- Of two calls in one expression the first prints `a` and ends in `next`, and the second would
print `b`. -/
theorem nothing_written_behind_signal_first_of_two :
    let ending (name : String) (body : List Stmt) : Function :=
      { name, params := [], arrayParams := [], body := { body, place := .start }, place := .start }
    let line (text : String) : Stmt := .print [.string text .start] .start
    let p : Program :=
      { rules := [], functions := [ending "f" [line "a", .next .start], ending "g" [line "b"]] }
    let st : Stmt := .expr (.relation .lt (.call "f" [] .start) (.call "g" [] .start) .start)
    let m := Machine.initial .empty
    ∃ m', execUntilSignal p 5 st m = .error .exhausted m' ∧ m'.pending = some .next ∧
      m'.sink.text = "a\n" ∧ (after (exec p 5 st) m).sink = m'.sink := by
  intro ending line p st m
  have hp : ∀ f ∈ p.functions, f.printsFirst = false := by
    intro f hf
    rcases List.mem_cons.mp hf with rfl | hf
    · rfl
    · rcases List.mem_cons.mp hf with rfl | hf
      · rfl
      · cases hf
  have hstop : ∃ m', execUntilSignal p 5 st m = .error .exhausted m' ∧
      m'.pending = some .next ∧ m'.sink.text = "a\n" := ⟨_, rfl, rfl, rfl⟩
  obtain ⟨m', hstop, hpending, htext⟩ := hstop
  refine ⟨m', hstop, hpending, htext, ?_⟩
  exact (nothing_written_behind_signal hp 5).2.1 st m m' rfl hstop (by rw [hpending]; rfl)

/-- The same with a second function that consists of a `print` alone: the record is written behind
the signal. -/
theorem record_printed_behind_signal :
    let ending (name : String) (body : List Stmt) : Function :=
      { name, params := [], arrayParams := [], body := { body, place := .start }, place := .start }
    let p : Program :=
      { rules := [], functions := [ending "f" [.next .start], ending "g" [.print [] .start]] }
    let st : Stmt := .expr (.relation .lt (.call "f" [] .start) (.call "g" [] .start) .start)
    let m := Machine.initial .empty
    ∃ m', execUntilSignal p 5 st m = .error .exhausted m' ∧ m'.pending = some .next ∧
      m'.sink.text = "" ∧ (after (exec p 5 st) m).sink.text = "\n" :=
  ⟨_, rfl, rfl, rfl, rfl⟩

end Awk
