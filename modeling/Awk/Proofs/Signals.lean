import Awk.Proofs.Jumps
import Awk.Proofs.Respects

/-!
# Signals of calls

A function that ends in `next`, `nextfile` or `exit` leaves a signal behind, for the
statement that holds the call.  The rest of the statement still runs, and may call
functions that meet the signal or end in one of their own.

To say which signal is the first, `execUntilSignal` runs a statement like `exec` and stops
where a call ends in a signal.  `Follows` compares the two: as long as no call has ended in
a signal they do the same, and from there on the first signal is the one that counts.
-/

namespace Awk

open Eval

/-! ## Up to the first signal -/

/-- Ends a call like `Call.conclude`, but a signal stops all that runs. -/
def Call.concludeOrStop : Flow → Eval Value
  | .signal s => do
    modify fun m => { m with pending := some s }
    throw .exhausted
  | flow => Call.conclude flow

def Expr.ruleUntilSignal (p : Program) (self : Meaning) : Expr → Eval Value
  | .call name args place =>
    match p.function? name with
    | some f => do
      let (bindings, owned) ← Call.enter self f args place
      Call.concludeOrStop (← Call.body self f bindings owned)
    | none => Call.named self p name args place
  | e => e.rule p self

mutual

def evalUntilSignal (p : Program) : Nat → Expr → Eval Value
  | 0, _ => throw .exhausted
  | n + 1, e =>
    located e.place (e.ruleUntilSignal p ⟨evalUntilSignal p n, execUntilSignal p n⟩)

/-- Runs a statement up to the end of the first call that ends in a signal. -/
def execUntilSignal (p : Program) : Nat → Stmt → Eval Flow
  | 0, _ => throw .exhausted
  | n + 1, s => do Stmt.settled (← s.rule ⟨evalUntilSignal p n, execUntilSignal p n⟩ n)

end

/-- The signal at which `evalUntilSignal` or `execUntilSignal` has stopped. -/
def firstSignal? {α : Type} : EStateM.Result Stop Machine α → Option Signal
  | .error .exhausted m => m.pending
  | _ => none

/-! ## What becomes of a signal -/

/-- Says what is true of the end of a computation that has a signal to deal with. -/
abbrev Fate (α : Type) := Signal → α → Machine → Prop

namespace Fate

/-- The signal is still there. -/
def parked {α : Type} : Fate α := fun s _ m => m.pending = some s

/-- The signal has become the end of the statement. -/
def raised : Fate Flow := fun s flow m => flow = .signal s ∧ m.pending = none

/-- Statements in sequence either do nothing about a signal, because there are none, or
end in it. -/
def passed : Fate Flow := fun s flow m =>
  flow = .normal ∧ m.pending = some s ∨ flow = .signal s ∧ m.pending = none

/-- The signal is still there or has become the end of the statement. -/
def carried : Fate Flow := fun s flow m => m.pending = some s ∨ raised s flow m

end Fate

open Fate

/-- From a state without a signal, `y` does what `x` does, or stops at the first signal, which
`x` brings to its fate. -/
def Agrees {α : Type} (fate : Fate α) (x y : Eval α) (m : Machine) : Prop :=
  y m = x m ∧ (after x m).pending = none ∨
  ∃ s m', y m = .error .exhausted m' ∧ m'.pending = some s ∧
    ∀ a m'', x m = .ok a m'' → fate s a m''

/-- `x` brings every signal to its fate, and does what `y` does up to the first one. -/
structure Follows {α : Type} (fate : Fate α) (x y : Eval α) : Prop where
  keeps : ∀ {m s a m'}, m.pending = some s → x m = .ok a m' → fate s a m'
  agrees : ∀ {m}, m.pending = none → Agrees fate x y m

namespace Follows

variable {α β : Type}

theorem mono {fate fate' : Fate α} {x y : Eval α} (h : Follows fate x y)
    (himp : ∀ s a m, fate s a m → fate' s a m) : Follows fate' x y := by
  refine ⟨fun hs hx => himp _ _ _ (h.keeps hs hx), fun hm => ?_⟩
  rcases h.agrees hm with hsame | ⟨s, m', hy, hs, hx⟩
  · exact .inl hsame
  · exact .inr ⟨s, m', hy, hs, fun a m'' ha => himp _ _ _ (hx a m'' ha)⟩

/-- One computation after another: what the first makes of a signal, the second has to
bring to its fate. -/
theorem bind_of {first : Fate α} {fate : Fate β} {x y : Eval α} {f g : α → Eval β}
    (hx : Follows first x y)
    (hf : ∀ a m, m.pending = none → Agrees fate (f a) (g a) m)
    (hfate : ∀ s a m b m', first s a m → f a m = .ok b m' → fate s b m') :
    Follows fate (x >>= f) (y >>= g) := by
  constructor
  · intro m s b m' hs hrun
    obtain ⟨a, m₁, hx₁, hf₁⟩ := bind_ok_inv hrun
    exact hfate s a m₁ b m' (hx.keeps hs hx₁) hf₁
  · intro m hm
    rcases hx.agrees hm with ⟨hsame, hnone⟩ | ⟨s, m', hy, hs, hlater⟩
    · cases hrun : x m with
      | error why m₁ =>
        rw [hrun] at hsame
        rw [after_of_error hrun] at hnone
        refine .inl ⟨?_, ?_⟩
        · rw [bind_of_error hsame, bind_of_error hrun]
        · rw [after_bind_of_error hrun]
          exact hnone
      | ok a m₁ =>
        rw [hrun] at hsame
        rw [after_of_ok hrun] at hnone
        have hrest := hf a m₁ hnone
        unfold Agrees at hrest ⊢
        rw [bind_of_ok hsame, bind_of_ok hrun, after_bind_of_ok hrun]
        exact hrest
    · refine .inr ⟨s, m', bind_of_error hy, hs, fun b m'' hrun => ?_⟩
      obtain ⟨a, m₁, hx₁, hf₁⟩ := bind_ok_inv hrun
      exact hfate s a m₁ b m'' (hlater a m₁ hx₁) hf₁

/-- What finds a signal there brings it to its fate. -/
theorem bind {fate : Fate β} {x y : Eval α} {f g : α → Eval β}
    (hx : Follows parked x y) (hf : ∀ a, Follows fate (f a) (g a)) :
    Follows fate (x >>= f) (y >>= g) :=
  hx.bind_of (fun a _ hm => (hf a).agrees hm) fun _ a _ _ _ hs hrun => (hf a).keeps hs hrun

/-- A computation that does not touch the signal. -/
theorem same {x : Eval α} (hx : ∀ m, (after x m).pending = m.pending) : Follows parked x x := by
  refine ⟨fun {m s a m'} hs hrun => ?_, fun {m} hm => .inl ⟨rfl, (hx m).trans hm⟩⟩
  have hm := hx m
  rw [after_of_ok hrun] at hm
  exact hm.trans hs

/-- What does not end with a value leaves no signal to deal with. -/
theorem stop {fate : Fate α} (why : Stop) : Follows fate (throw why) (throw why) := by
  refine ⟨fun _ hrun => ?_, fun hm => .inl ⟨rfl, hm⟩⟩
  cases hrun

theorem located {x y : Eval α} (place : Location) (h : Follows parked x y) :
    Follows parked (Eval.located place x) (Eval.located place y) := by
  refine ⟨fun hs hrun => h.keeps hs (ok_of_located hrun), fun {m} hm => ?_⟩
  rcases h.agrees hm with ⟨hsame, hnone⟩ | ⟨s, m', hy, hs, hlater⟩
  · refine .inl ⟨?_, ?_⟩
    · unfold Eval.located
      rw [hsame]
    · rw [after_located]
      exact hnone
  · refine .inr ⟨s, m', ?_, hs, fun a m'' hrun => hlater a m'' (ok_of_located hrun)⟩
    unfold Eval.located
    rw [hy]

end Follows

theorem keepsPending_respected :
    Respects fun _ x _ => ∀ m, (after x m).pending = m.pending where
  pure a m := rfl
  bind hx hf := after_bind_trans (R := fun m m' : Machine => m'.pending = m.pending)
    (fun _ _ _ h₁ h₂ => h₂.trans h₁) hx hf
  stop why m := rfl
  located place hx m := by
    rw [after_located]
    exact hx m
  access a m := by rw [after_onScope]
  newArray m := by rw [after_onScope]
  fillArray id values m := by rw [after_onScope]
  sameNames f hf m := rfl
  write text m := (after_write text m).2
  detached x hx m := (hx m).2.1

theorem follows_respected : Respects fun _ x y => Follows parked x y where
  pure a := .same fun _ => rfl
  bind hx hf := hx.bind hf
  stop why := .stop why
  located place h := h.located place
  access a := .same fun m => by rw [after_onScope]
  newArray := .same fun m => by rw [after_onScope]
  fillArray id values := .same fun m => by rw [after_onScope]
  sameNames f hf := .same fun _ => rfl
  write text := .same fun m => (after_write text m).2
  detached x hx := .same fun m => (hx m).2.1

/-! ## Statements -/

theorem takePending_of_none {m : Machine} (hm : m.pending = none) :
    Eval.takePending m = .ok none m := by
  cases m
  cases hm
  rfl

theorem takePending_of_some {m : Machine} {s : Signal} (hm : m.pending = some s) :
    Eval.takePending m = .ok (some s) { m with pending := none } := by
  rw [Eval.takePending, hm]

theorem unlessPending_of_some {m : Machine} {s : Signal} (hm : m.pending = some s)
    (x : Eval Flow) :
    Stmt.unlessPending x m = .ok (.signal s) { m with pending := none } := by
  rw [Stmt.unlessPending, bind_of_ok (takePending_of_some hm)]
  rfl

theorem unlessPending_of_none {m : Machine} (hm : m.pending = none) (x : Eval Flow) :
    Stmt.unlessPending x m = x m := by
  rw [Stmt.unlessPending, bind_of_ok (takePending_of_none hm)]

namespace Follows

theorem carried_of_parked {x y : Eval Flow} (h : Follows parked x y) : Follows carried x y :=
  h.mono fun _ _ _ hs => .inl hs

theorem carried_of_raised {x y : Eval Flow} (h : Follows raised x y) : Follows carried x y :=
  h.mono fun _ _ _ hs => .inr hs

theorem pure_carried (flow : Flow) : Follows carried (pure flow) (pure flow) :=
  (follows_respected.pure flow).carried_of_parked

/-- What a statement has ended in goes on to the end. -/
theorem bind_raised {x y : Eval Flow} {f g : Flow → Eval Flow} (hx : Follows raised x y)
    (hf : ∀ flow, Follows carried (f flow) (g flow))
    (hend : ∀ s, f (.signal s) = pure (.signal s)) : Follows carried (x >>= f) (y >>= g) := by
  refine hx.bind_of (fun flow _ hm => (hf flow).agrees hm) fun s flow m flow' m' hraised hrun => ?_
  obtain ⟨rfl, hnone⟩ := hraised
  rw [hend] at hrun
  cases hrun
  exact .inr ⟨rfl, hnone⟩

theorem loop {before before' after after' : Eval Bool} {body body' : Eval Flow}
    (hbefore : Follows parked before before') (hbody : Follows raised body body')
    (hafter : Follows parked after after') (n : Nat) :
    Follows carried (Stmt.loop before body after n) (Stmt.loop before' body' after' n) := by
  induction n with
  | zero => exact stop _
  | succ n ih =>
    refine hbefore.bind fun go => ?_
    split
    · refine hbody.bind_raised (fun flow => ?_) fun s => rfl
      have hnext : Follows carried
          (do if ← after then Stmt.loop before body after n else return .normal)
          (do if ← after' then Stmt.loop before' body' after' n else return .normal) := by
        refine hafter.bind fun go => ?_
        split
        · exact ih
        · exact pure_carried _
      cases flow with
      | normal => exact hnext
      | continue_ => exact hnext
      | break_ => exact pure_carried _
      | signal s => exact pure_carried _
      | return_ v => exact pure_carried _
    · exact pure_carried _

theorem forKeys (var : String) {body body' : Eval Flow} (hbody : Follows raised body body')
    (keys : List String) :
    Follows carried (Stmt.forKeys var body keys) (Stmt.forKeys var body' keys) := by
  induction keys with
  | nil => exact pure_carried _
  | cons key keys ih =>
    refine (follows_respected.access (.setVar var (.ofText key))).bind fun _ => ?_
    refine hbody.bind_raised (fun flow => ?_) fun s => rfl
    cases flow with
    | normal => exact ih
    | continue_ => exact ih
    | break_ => exact pure_carried _
    | signal s => exact pure_carried _
    | return_ v => exact pure_carried _

/-- The first statement of a sequence ends in a signal that is there. -/
theorem sequence {run run' : Stmt → Eval Flow} (hr : ∀ s, Follows raised (run s) (run' s))
    (body : List Stmt) : Follows passed (Call.sequence run body) (Call.sequence run' body) := by
  induction body with
  | nil =>
    refine ⟨fun hs hrun => ?_, fun hm => .inl ⟨rfl, hm⟩⟩
    cases hrun
    exact .inl ⟨rfl, hs⟩
  | cons s rest ih =>
    refine (hr s).bind_of (fun flow m hm => ?_) fun s flow m flow' m' hraised hrun => ?_
    · split
      · exact ih.agrees hm
      · exact .inl ⟨rfl, hm⟩
    · obtain ⟨rfl, hnone⟩ := hraised
      cases hrun
      exact .inr ⟨rfl, hnone⟩

/-- A `for` loop takes a signal of its first clause before it begins. -/
theorem unlessPending {x y : Eval Flow} (h : Follows carried x y) :
    Follows carried (Stmt.unlessPending x) (Stmt.unlessPending y) := by
  constructor
  · intro m s flow m' hs hrun
    rw [unlessPending_of_some hs] at hrun
    cases hrun
    exact .inr ⟨rfl, rfl⟩
  · intro m hm
    have hrest := h.agrees hm
    unfold Agrees after at hrest ⊢
    rw [unlessPending_of_none hm, unlessPending_of_none hm]
    exact hrest

/-- The end of a statement takes the signal that is left. -/
theorem settled {x y : Eval Flow} (h : Follows carried x y) :
    Follows raised (x >>= Stmt.settled) (y >>= Stmt.settled) := by
  refine h.bind_of (fun flow m hm => .inl ⟨rfl, ?_⟩) fun s flow m flow' m' hcarried hrun => ?_
  · rw [Stmt.settled, after, unlessPending_of_none hm]
    exact hm
  · rw [Stmt.settled] at hrun
    rcases hcarried with hs | ⟨rfl, hnone⟩
    · rw [unlessPending_of_some hs] at hrun
      cases hrun
      exact ⟨rfl, rfl⟩
    · rw [unlessPending_of_none hnone] at hrun
      cases hrun
      exact ⟨rfl, hnone⟩

variable {self self' : Meaning} (hv : ∀ e, Follows parked (self.value e) (self'.value e))
  (hr : ∀ s, Follows raised (self.run s) (self'.run s))

include hv hr

/-- A statement leaves a signal behind or ends in it, whether a part of it or the statement
itself looks for one. -/
theorem stmtRule (fuel : Nat) (s : Stmt) :
    Follows carried (s.rule self fuel) (s.rule self' fuel) := by
  have h := follows_respected
  cases s with
  | expr e => exact (hv e).bind fun _ => pure_carried _
  | print args place => exact (h.runPrint hv args).carried_of_parked
  | printf format args place => exact (h.runPrintf hv format args).carried_of_parked
  | ifElse test ifTrue ifFalse place =>
    refine (h.isTrue hv test).bind fun holds => h.isPending.bind fun _ => ?_
    split
    · exact pure_carried _
    · split
      · exact (hr ifTrue).carried_of_raised
      · cases ifFalse with
        | some s => exact (hr s).carried_of_raised
        | none => exact pure_carried _
  | whileLoop test body place => exact loop (h.loopTest hv _) (hr body) (h.pure true) fuel
  | doWhile body test place => exact loop (h.pure true) (hr body) (h.loopTest hv _) fuel
  | forLoop init test update body place =>
    have hloop := loop (h.loopTest hv test) (hr body) (h.loopStep hv update) fuel
    cases init with
    | none => exact hloop
    | some e => exact (hv e).bind fun _ => unlessPending hloop
  | forIn var array body place =>
    exact (h.access (.arrayKeys array)).bind fun keys =>
      (h.under.aside _ (.arranged keys)).bind fun keys => forKeys var (hr body) keys
  | block body place =>
    refine (sequence hr body).mono fun s flow m hpassed => ?_
    rcases hpassed with ⟨-, hs⟩ | hraised
    · exact .inl hs
    · exact .inr hraised
  | breakLoop place => exact pure_carried _
  | continueLoop place => exact pure_carried _
  | next place => exact pure_carried _
  | nextFile place => exact pure_carried _
  | exit code place => exact (h.exitCode hv code).bind fun _ => pure_carried _
  | returnValue value place =>
    cases value with
    | none => exact pure_carried _
    | some e => exact (hv e).bind fun _ => pure_carried _
  | delete array index place => exact (h.runDelete hv array index).carried_of_parked
  | empty => exact pure_carried _

/-! ## Calls -/

omit hv hr in
theorem inFrame {x y : Eval Flow} (h : Follows passed x y) (bindings : List (String × Binding))
    (owned : List Nat) :
    Follows passed (Call.inFrame bindings owned x) (Call.inFrame bindings owned y) := by
  have ok_inv : ∀ {m flow m'}, Call.inFrame bindings owned x m = .ok flow m' →
      ∃ m₁, x (m.enterCall bindings owned) = .ok flow m₁ ∧
        m₁.pending = m'.pending := by
    intro m flow m' hrun
    unfold Call.inFrame at hrun
    split at hrun
    · next flow₁ m₁ hx =>
      cases hrun
      exact ⟨m₁, hx, rfl⟩
    · cases hrun
  have kept : ∀ {s flow m₁ m'}, passed s flow m₁ → m₁.pending = m'.pending → passed s flow m' := by
    intro s flow m₁ m' hpassed hsame
    unfold passed at hpassed ⊢
    rw [← hsame]
    exact hpassed
  constructor
  · intro m s flow m' hs hrun
    obtain ⟨m₁, hx, hsame⟩ := ok_inv hrun
    have hinner : (m.enterCall bindings owned).pending = some s := hs
    exact kept (h.keeps hinner hx) hsame
  · intro m hm
    have hinner : (m.enterCall bindings owned).pending = none := hm
    rcases h.agrees hinner with ⟨hy, hnone⟩ | ⟨s, m₁, hy, hs, hlater⟩
    · refine .inl ⟨?_, ?_⟩
      · rw [Call.inFrame, Call.inFrame, hy]
      · rw [after_inFrame]
        exact hnone
    · refine .inr ⟨s, m₁.leaveCall, ?_, hs, fun flow m'' hrun => ?_⟩
      · rw [Call.inFrame, hy]
      · obtain ⟨m₂, hx, hsame⟩ := ok_inv hrun
        exact kept (hlater flow m₂ hx) hsame

/-- A call meets a signal in the first statement of its body, which then ends in it, and leaves
it behind again; a body without statements does not touch it. -/
theorem user (f : Function) (args : List Expr) (place : Location) :
    Follows parked (Call.user self f args place)
      (do
        let (bindings, owned) ← Call.enter self' f args place
        Call.concludeOrStop (← Call.body self' f bindings owned)) := by
  refine (follows_respected.enter hv f args place).bind fun bound => ?_
  have hbody := (sequence hr f.body.body).inFrame bound.1 bound.2
  refine hbody.bind_of (fun flow m hm => ?_) fun s flow m v m' hpassed hrun => ?_
  · cases flow with
    | signal s =>
      refine .inr ⟨s, { m with pending := some s }, rfl, rfl, fun v m' hrun => ?_⟩
      cases hrun
      rfl
    | _ => exact .inl ⟨rfl, hm⟩
  · rcases hpassed with ⟨rfl, hs⟩ | ⟨rfl, -⟩
    · cases hrun
      exact hs
    · cases hrun
      rfl

theorem exprRule (p : Program) (e : Expr) :
    Follows parked (e.rule p self) (e.ruleUntilSignal p self') := by
  by_cases hcall : ∃ name args place, e = .call name args place
  · obtain ⟨name, args, place, rfl⟩ := hcall
    cases hp : p.function? name with
    | some f =>
      rw [Expr.rule, Call.named, Expr.ruleUntilSignal, hp]
      exact user hv hr f args place
    | none =>
      rw [Expr.rule, Expr.ruleUntilSignal, hp]
      exact follows_respected.hostCall hv name args place hp
  · have hsame : e.ruleUntilSignal p self' = e.rule p self' := by
      unfold Expr.ruleUntilSignal
      split
      · exact absurd ⟨_, _, _, rfl⟩ hcall
      · rfl
    rw [hsame]
    refine follows_respected.exprRule hv e fun name args place heq => ?_
    exact absurd ⟨name, args, place, heq⟩ hcall

end Follows

/-- Whatever the fuel, an expression leaves a signal where it is and a statement ends in it,
and both do what their parts do up to the first one. -/
theorem evaluation_follows (p : Program) (n : Nat) :
    (∀ e, Follows parked (eval p n e) (evalUntilSignal p n e)) ∧
      ∀ s, Follows raised (exec p n s) (execUntilSignal p n s) := by
  induction n with
  | zero => exact ⟨fun _ => .stop _, fun _ => .stop _⟩
  | succ n ih =>
    refine ⟨fun e => ?_, fun s => ?_⟩
    · exact (Follows.exprRule ih.1 ih.2 p e).located e.place
    · exact (Follows.stmtRule ih.1 ih.2 n s).settled

/-- What follows of the first signal, seen from the ends of both. -/
theorem Follows.firstSignal {α : Type} {fate : Fate α} {x y : Eval α} (h : Follows fate x y)
    {m : Machine} (hm : m.pending = none) :
    match firstSignal? (y m) with
    | some s => ∀ a m', x m = .ok a m' → fate s a m'
    | none => y m = x m ∧ (after x m).pending = none := by
  rcases h.agrees hm with ⟨hsame, hnone⟩ | ⟨s, m', hy, hs, hlater⟩
  · have hfirst : firstSignal? (y m) = none := by
      rw [hsame]
      unfold firstSignal?
      split
      · next m₁ hx =>
        rw [after_of_error hx] at hnone
        exact hnone
      · rfl
    rw [hfirst]
    exact ⟨hsame, hnone⟩
  · have hfirst : firstSignal? (y m) = some s := by
      rw [hy]
      exact hs
    rw [hfirst]
    exact hlater

theorem pending_after_exec {p : Program} {n : Nat} {st : Stmt} {m m' : Machine} {flow : Flow}
    (hrun : exec p n st m = .ok flow m') : m'.pending = none := by
  have h := (evaluation_follows p n).2 st
  cases hm : m.pending with
  | some s => exact (h.keeps hm hrun).2
  | none =>
    have hfirst := h.firstSignal hm
    split at hfirst
    · exact (hfirst flow m' hrun).2
    · rw [after_of_ok hrun] at hfirst
      exact hfirst.2

/-- Signals are not lost and not replaced.  A signal is one of `next`, `nextfile` and `exit`.
An expression leaves one that is there as it is, and a statement ends in it.  Where there is
none, the first call that ends in one decides: an expression leaves that one and a statement
ends in it; without such a call there is none at the end.  No signal is left behind a
statement, and a statement does not end in a jump that it does not hold itself, so that a
loop never ends in `break` or `continue` and a call never passes one on. -/
theorem signals_kept (p : Program) (n : Nat) :
    (∀ (m : Machine) s, m.pending = some s →
      s = .next ∨ s = .nextFile ∨ ∃ code, s = .exit code) ∧
    (∀ e m s v m', m.pending = some s → eval p n e m = .ok v m' → m'.pending = some s) ∧
    (∀ st m s flow m', m.pending = some s → exec p n st m = .ok flow m' →
      flow = .signal s ∧ m'.pending = none) ∧
    (∀ e m, m.pending = none →
      match firstSignal? (evalUntilSignal p n e m) with
      | some s => ∀ v m', eval p n e m = .ok v m' → m'.pending = some s
      | none => evalUntilSignal p n e m = eval p n e m ∧ (after (eval p n e) m).pending = none) ∧
    (∀ st m, m.pending = none →
      match firstSignal? (execUntilSignal p n st m) with
      | some s => ∀ flow m', exec p n st m = .ok flow m' → flow = .signal s ∧ m'.pending = none
      | none => execUntilSignal p n st m = exec p n st m) ∧
    (∀ st m flow m', exec p n st m = .ok flow m' → m'.pending = none) ∧
    (∀ st m flow m', exec p n st m = .ok flow m' → ∀ j, flow.jump? = some j →
      st.Jumps j ∧ (st.isLoop → j ≠ .break_ ∧ j ≠ .continue_)) := by
  obtain ⟨hexpr, hstmt⟩ := evaluation_follows p n
  refine ⟨fun m s _ => ?_, fun e m s v m' hs hrun => (hexpr e).keeps hs hrun,
    fun st m s flow m' hs hrun => (hstmt st).keeps hs hrun,
    fun e m hm => (hexpr e).firstSignal hm, fun st m hm => ?_,
    fun st m flow m' hrun => pending_after_exec hrun, fun st m flow m' hrun j hj => ?_⟩
  · cases s with
    | next => exact .inl rfl
    | nextFile => exact .inr (.inl rfl)
    | exit code => exact .inr (.inr ⟨code, rfl⟩)
  · have hfirst := (hstmt st).firstSignal hm
    split at hfirst
    · exact hfirst
    · exact hfirst.1
  · have hjumps := exec_ends p n st m flow m' hrun j hj
    refine ⟨hjumps, fun hloop => ?_⟩
    rw [Stmt.jumps_of_isLoop hloop hjumps]
    exact ⟨by decide, by decide⟩

/-- Of two calls in one expression the first ends in `next` and the second in `exit`. -/
theorem signals_kept_first_of_two :
    let ending (name : String) (s : Stmt) : Function :=
      { name, params := [], arrayParams := [], body := { body := [s], place := .start }
        place := .start }
    let p : Program :=
      { rules := [], functions := [ending "f" (.next .start), ending "g" (.exit none .start)] }
    let st : Stmt := .expr (.relation .lt (.call "f" [] .start) (.call "g" [] .start) .start)
    let m := Machine.initial .empty
    firstSignal? (execUntilSignal p 5 st m) = some .next ∧
      ∃ m', exec p 5 st m = .ok (.signal .next) m' ∧ m'.pending = none := by
  intro ending p st m
  have hfirst : firstSignal? (execUntilSignal p 5 st m) = some .next := rfl
  have hrun : ∃ flow m', exec p 5 st m = .ok flow m' := ⟨_, _, rfl⟩
  obtain ⟨flow, m', hrun⟩ := hrun
  have hkept := (signals_kept p 5).2.2.2.2.1 st m rfl
  rw [hfirst] at hkept
  obtain ⟨rfl, hnone⟩ := hkept flow m' hrun
  exact ⟨hfirst, m', hrun, hnone⟩

end Awk
