import Awk.Grammar
import Awk.Proofs.Arguments
import Awk.Proofs.Forwarding
import Awk.Proofs.Stops
import Awk.Proofs.Watch
import Awk.Proofs.WholeRuns

/-!
# The places of run-time errors

Every expression gives its own place to an error that has none, so nothing comes out of an
expression without one.  Statements give no places.  The loop over the keys of an array and `delete`
can fail on their own, and if a rule has one of them outside of functions, its error reaches the
driver without a place (`Stmt.Raises`); the error of a function gets the place of the call.
-/

namespace Awk

/-- The errors that a statement meets outside of its expressions: those of `delete` and of the loop
over the keys of an array, which also assigns a variable. -/
inductive Stmt.Raises : Stmt → Fault → Prop
  | delete (array : String) (index : List Expr) (place : Location) :
    Raises (.delete array index place) (.scalarAsArray array)
  | keys (var array : String) (body : Stmt) (place : Location) :
    Raises (.forIn var array body place) (.scalarAsArray array)
  | variable (var array : String) (body : Stmt) (place : Location) {key : String} {s s' : Scope}
      {fault : Fault} : Scope.setVar var (.ofText key) s = .error fault s' →
    Raises (.forIn var array body place) fault
  | part {s part : Stmt} {fault : Fault} : part ∈ s.parts → Raises part fault → Raises s fault

/-- All expressions of the statement have places in `L`. -/
abbrev Stmt.Within (L : Location → Prop) (s : Stmt) : Prop := s.Everywhere (L ·.place) fun _ => True

namespace Scope

variable {array : String} {s s' : Scope} {fault : Fault}

/-- An access to an array fails only where its name stands for a scalar. -/
theorem arrayId_bind_error {α : Type} {f : Nat → Op α}
    (hf : ∀ id s fault s', f id s ≠ .error fault s')
    (h : (arrayId array >>= f) s = .error fault s') : fault = .scalarAsArray array := by
  cases hid : arrayId array s with
  | error fault₁ s₁ =>
    rw [bind_of_error hid] at h
    cases h
    exact (holdsScalar_of_arrayId hid).2
  | ok id s₁ =>
    rw [bind_of_ok hid] at h
    exact absurd h (hf id s₁ fault s')

theorem clearArray_error (h : clearArray array s = .error fault s') :
    fault = .scalarAsArray array :=
  arrayId_bind_error (fun _ _ _ _ h => by cases h) h

theorem deleteElement_error {key : String} (h : deleteElement array key s = .error fault s') :
    fault = .scalarAsArray array :=
  arrayId_bind_error (fun _ _ _ _ h => by cases h) h

theorem arrayKeys_error (h : arrayKeys array s = .error fault s') :
    fault = .scalarAsArray array :=
  arrayId_bind_error (fun _ _ _ _ h => by cases h) h

end Scope

/-! ## Rules for statements -/

namespace StopsWith

variable {P : Stop → Prop} {self : Meaning}

theorem loopTest {test : Option Expr} (h : ∀ e ∈ test, StopsWith P (self.value e)) :
    StopsWith P (Stmt.loopTest self test) := by
  cases test with
  | none => exact isPending.bind fun _ => pure _
  | some e => exact (h e rfl).isTrue.bind fun _ => isPending.bind fun _ => pure _

theorem loopStep {update : Option Expr} (h : ∀ e ∈ update, StopsWith P (self.value e)) :
    StopsWith P (Stmt.loopStep self update) := by
  cases update with
  | none => exact pure _
  | some e => exact (h e rfl).bind fun _ => isPending.bind fun _ => pure _

theorem exitCode {code : Option Expr} (h : ∀ e ∈ code, StopsWith P (self.value e)) :
    StopsWith P (Stmt.exitCode self code) := by
  cases code with
  | none => exact get.bind fun _ => pure _
  | some e => exact (h e rfl).number.bind fun _ => pure _

theorem sequence {run : Stmt → Eval Flow} {body : List Stmt} (h : ∀ s ∈ body, StopsWith P (run s)) :
    StopsWith P (Call.sequence run body) := by
  induction body with
  | nil => exact pure _
  | cons s rest ih =>
    obtain ⟨hs, hrest⟩ := List.forall_mem_cons.mp h
    refine hs.bind fun flow => ?_
    split
    · exact ih hrest
    · exact pure _

theorem loop {before after : Eval Bool} {body : Eval Flow} (hbefore : StopsWith P before)
    (hbody : StopsWith P body) (hafter : StopsWith P after) (hexhausted : P .exhausted) (n : Nat) :
    StopsWith P (Stmt.loop before body after n) := by
  induction n with
  | zero => exact stop hexhausted
  | succ n ih =>
    refine hbefore.bind fun _ => ite (hbody.bind fun flow => ?_) (pure _)
    split
    · exact hafter.bind fun _ => ite ih (pure _)
    · exact hafter.bind fun _ => ite ih (pure _)
    · exact pure _
    · exact pure _

theorem forKeys {var : String} {body : Eval Flow}
    (hvar : ∀ key, StopsWith P (Eval.onScope (Scope.setVar var (.ofText key))))
    (hbody : StopsWith P body) (keys : List String) : StopsWith P (Stmt.forKeys var body keys) := by
  induction keys with
  | nil => exact pure _
  | cons key keys ih =>
    refine (hvar key).bind fun _ => hbody.bind fun flow => ?_
    split
    · exact ih
    · exact ih
    · exact pure _
    · exact pure _

theorem unlessPending {x : Eval Flow} (hx : StopsWith P x) :
    StopsWith P (Stmt.unlessPending x) := by
  refine takePending.bind fun taken => ?_
  cases taken with
  | some s => exact pure _
  | none => exact hx

variable {L : Location → Prop} {F : Fault → Prop}

theorem printed {args : List Expr} (h : ∀ e ∈ args, StopsWith (Places L F) (self.value e)) :
    StopsWith (Places L F) (Stmt.printed self args) := by
  have more : ∀ {args : List Expr}, (∀ e ∈ args, StopsWith (Places L F) (self.value e)) →
      StopsWith (Places L F) (Stmt.printed.more self args) := by
    intro args h
    induction args with
    | nil => exact pure _
    | cons e es ih =>
      obtain ⟨he, hes⟩ := List.forall_mem_cons.mp h
      exact he.bind fun _ => scope.bind fun _ => (textUnder _ _).bind fun _ =>
        (ih hes).bind fun _ => pure _
  cases args with
  | nil => exact pure _
  | cons e es =>
    obtain ⟨he, hes⟩ := List.forall_mem_cons.mp h
    exact he.bind fun _ => (textUnder _ _).bind fun _ => (more hes).bind fun _ => pure _

theorem printRecord : StopsWith (Places L F) Eval.printRecord :=
  scope.bind fun _ => (write _).bind fun _ => scope.bind fun _ => write _

theorem runPrint {args : List Expr} (h : ∀ e ∈ args, StopsWith (Places L F) (self.value e)) :
    StopsWith (Places L F) (Stmt.runPrint self args) := by
  refine ite (printRecord.bind fun _ => pure _) ?_
  refine (printed h).bind fun _ => isPending.bind fun _ => ite ?_ (pure _)
  exact scope.bind fun _ => (write _).bind fun _ => pure _

theorem runPrintf {format : Expr} {args : List Expr}
    (hformat : StopsWith (Places L F) (self.value format))
    (h : ∀ e ∈ args, StopsWith (Places L F) (self.value e)) :
    StopsWith (Places L F) (Stmt.runPrintf self format args) := by
  refine hformat.text.bind fun _ => (values h).bind fun _ => isPending.bind fun _ => ite ?_ (pure _)
  exact (formatted _ _).bind fun _ => (write _).bind fun _ => pure _

theorem runDelete {array : String} {index : List Expr} (hF : F (.scalarAsArray array))
    (h : ∀ e ∈ index, StopsWith (Places L F) (self.value e)) :
    StopsWith (Places L F) (Stmt.runDelete self array index) := by
  refine ite ((onScope fun s fault s' h => ?_).bind fun _ => pure _) ((key h).bind fun _ => ?_)
  · exact Scope.clearArray_error h ▸ hF
  · exact (onScope fun s fault s' h => Scope.deleteElement_error h ▸ hF).bind fun _ => pure _

end StopsWith

namespace Meaning

variable {L : Location → Prop} {self : Meaning}

/-- The errors of expressions have places in `L`, and those of statements have, or come from the
statements themselves. -/
structure PlacesErrors (L : Location → Prop) (terms : Meaning) : Prop where
  value : ∀ e : Expr, e.Within L → StopsWith (Placed L) (terms.value e)
  run : ∀ s : Stmt, s.Within L → StopsWith (Places L s.Raises) (terms.run s)

theorem PlacesErrors.looseValues (h : self.PlacesErrors L) : self.LooseValues L :=
  fun e he => (h.value e he).mono fun _ => Places.mono fun _ => False.elim

open StopsWith in
theorem PlacesErrors.stmtRule (h : self.PlacesErrors L) (fuel : Nat) {s : Stmt}
    (hs : s.Within L) : StopsWith (Places L s.Raises) (s.rule self fuel) := by
  have hv : ∀ e ∈ s.exprs, StopsWith (Places L s.Raises) (self.value e) := fun e he =>
    (h.value e (hs.expr he)).mono fun _ => Places.mono fun _ => False.elim
  have hr : ∀ part ∈ s.parts, StopsWith (Places L s.Raises) (self.run part) := fun part hpart =>
    (h.run part (hs.part hpart)).mono fun _ => Places.mono fun _ => .part hpart
  cases s with
  | expr e => exact (hv e (.head _)).bind fun _ => pure _
  | print args place => exact runPrint hv
  | printf format args place => exact runPrintf (hv _ (.head _)) fun e he => hv e (.tail _ he)
  | ifElse test ifTrue ifFalse place =>
    refine (hv test (.head _)).isTrue.bind fun _ => isPending.bind fun _ => ite (pure _) ?_
    refine ite (hr ifTrue (.head _)) ?_
    cases ifFalse with
    | none => exact pure _
    | some s => exact hr s (.tail _ (.head _))
  | whileLoop test body place =>
    have htest : StopsWith (Places L _) (Stmt.loopTest self (some test)) :=
      loopTest fun e he => hv e (by cases he; exact .head _)
    exact loop htest (hr body (.head _)) (pure _) trivial fuel
  | doWhile body test place =>
    have htest : StopsWith (Places L _) (Stmt.loopTest self (some test)) :=
      loopTest fun e he => hv e (by cases he; exact .head _)
    exact loop (pure _) (hr body (.head _)) htest trivial fuel
  | forLoop init test update body place =>
    have htest : StopsWith (Places L _) (Stmt.loopTest self test) :=
      loopTest fun e he => hv e (by simp [Stmt.exprs, Option.mem_def.mp he])
    have hstep : StopsWith (Places L _) (Stmt.loopStep self update) :=
      loopStep fun e he => hv e (by simp [Stmt.exprs, Option.mem_def.mp he])
    have hloop := loop htest (hr body (.head _)) hstep trivial fuel
    cases init with
    | none => exact hloop
    | some e => exact (hv e (.head _)).bind fun _ => unlessPending hloop
  | forIn var array body place =>
    refine (onScope fun s fault s' h => ?_).bind fun keys => (arranged keys).bind fun keys =>
      forKeys (fun key => ?_) ?_ keys
    · exact Scope.arrayKeys_error h ▸ .keys var array body place
    · exact onScope fun s fault s' h => .variable var array body place h
    · exact hr body (.head _)
  | block body place => exact sequence hr
  | breakLoop place => exact pure _
  | continueLoop place => exact pure _
  | next place => exact pure _
  | nextFile place => exact pure _
  | exit code place =>
    exact (exitCode fun e he => hv e (Option.mem_toList.mpr he)).bind fun _ => pure _
  | returnValue value place =>
    cases value with
    | none => exact pure _
    | some e => exact (hv e (.head _)).bind fun _ => pure _
  | delete array index place => exact runDelete (.delete array index place) hv
  | empty => exact pure _

end Meaning

/-! ## The expressions of a program -/

theorem Expr.within_of_somewhere {L : Location → Prop} {e : Expr}
    (h : ∀ l, e.Somewhere (·.place = l) → L l) : e.Within L := by
  induction e using Expr.induction_parts with
  | node e ih =>
    refine .intro (h _ (.here rfl)) fun part hpart => ih part hpart fun l hl => ?_
    exact h l (.part hpart hl)

theorem Stmt.within_of_somewhere {L : Location → Prop} {s : Stmt}
    (h : ∀ l, s.Somewhere (·.place = l) (fun _ => False) → L l) : s.Within L := by
  induction s using Stmt.induction_parts with
  | node s ih =>
    refine .intro trivial (fun e he => ?_) fun part hpart => ih part hpart fun l hl => ?_
    · exact Expr.within_of_somewhere fun l hl => h l (.expr he hl)
    · exact h l (.part hpart hl)

namespace Program

/-- Somewhere in the program an expression has this place. -/
def ExprAt (p : Program) (l : Location) : Prop :=
  (∃ r ∈ p.rules, ∃ pattern ∈ r.pattern, ∃ e ∈ pattern.exprs, e.Somewhere (·.place = l)) ∨
  (∃ r ∈ p.rules, ∃ action ∈ r.action, ∃ s ∈ action.body,
    s.Somewhere (·.place = l) fun _ => False) ∨
  ∃ f ∈ p.functions, ∃ s ∈ f.body.body, s.Somewhere (·.place = l) fun _ => False

theorem everywhere_exprAt (p : Program) : p.Everywhere (p.ExprAt ·.place) fun _ => True where
  patterns r hr pattern hpattern e he := Expr.within_of_somewhere fun _ hl =>
    .inl ⟨r, hr, pattern, hpattern, e, he, hl⟩
  actions r hr action haction s hs := Stmt.within_of_somewhere fun _ hl =>
    .inr (.inl ⟨r, hr, action, haction, s, hs, hl⟩)
  bodies f hf s hs := Stmt.within_of_somewhere fun _ hl => .inr (.inr ⟨f, hf, s, hs, hl⟩)

end Program

/-- The expressions of a program give their places to all errors. -/
theorem placesErrors {L : Location → Prop} {p : Program}
    (hp : p.Everywhere (L ·.place) fun _ => True) (fuel : Nat) :
    (meaning p fuel).PlacesErrors L := by
  induction fuel with
  | zero => exact ⟨fun _ _ => .stop trivial, fun _ _ => .stop trivial⟩
  | succ n ih =>
    have hbody : ∀ f ∈ p.functions, StopsWith (Loose L) (Call.sequence (exec p n) f.body.body) := by
      refine fun f hf => .sequence fun s hs => (ih.run s (hp.bodies f hf s hs)).mono fun _ => ?_
      exact Places.mono fun _ _ => trivial
    refine ⟨fun e he => .located (ih.looseValues.exprRule hbody he) he.node, fun s hs => ?_⟩
    exact (ih.stmtRule n hs).bind fun flow => .unlessPending (.pure flow)

/-! ## Rules of a program -/

/-- The errors that statements of the action meet outside of expressions. -/
def Rule.Raises (r : Rule) (fault : Fault) : Prop :=
  ∃ action ∈ r.action, ∃ s ∈ action.body, s.Raises fault

namespace Meaning.PlacesErrors

open StopsWith

variable {L : Location → Prop} {self : Meaning} (h : self.PlacesErrors L)

include h

theorem passes {t : Test} (ht : ∀ e ∈ Pattern.exprs.ofTest t, e.Within L) :
    StopsWith (Placed L) (Run.passes self t) := by
  cases t with
  | regex pattern => exact (regexOf pattern).bind fun _ => scope.bind fun _ => pure _
  | expr e => exact (h.value e (ht e (.head _))).isTrue

theorem selects (i : Nat) {pattern : Option Pattern}
    (hp : ∀ t ∈ pattern, ∀ e ∈ t.exprs, e.Within L) :
    StopsWith (Placed L) (Run.selects self i pattern) := by
  have hactive : ∀ b, StopsWith (Placed L) (Run.setActive i b) := fun _ => modify _
  rcases pattern with _ | _ | _ | t | ⟨first, last⟩
  · exact pure _
  · exact pure _
  · exact pure _
  · exact h.passes (hp _ rfl)
  · have hfirst := h.passes fun e he => hp _ rfl e (List.mem_append_left _ he)
    have hlast := h.passes fun e he => hp _ rfl e (List.mem_append_right _ he)
    refine get.bind fun m => ite (hlast.bind fun ends => ?_) (hfirst.bind fun begins => ite ?_ ?_)
    · exact ite ((hactive _).bind fun _ => pure _) (pure _)
    · exact hlast.bind fun ends => (hactive _).bind fun _ => pure _
    · exact pure _

theorem act {r : Rule} (hact : ∀ action ∈ r.action, ∀ s ∈ action.body, s.Within L) :
    StopsWith (Places L r.Raises) (Run.act self r) := by
  unfold Run.act
  split
  · next block hblock =>
    refine sequence fun s hs => (h.run s (hact block hblock s hs)).mono fun _ => ?_
    exact Places.mono fun fault hfault => ⟨block, hblock, s, hs, hfault⟩
  · exact printRecord.bind fun _ => pure _

theorem dispatch (i : Nat) {r : Rule} (hp : ∀ t ∈ r.pattern, ∀ e ∈ t.exprs, e.Within L)
    (hact : ∀ action ∈ r.action, ∀ s ∈ action.body, s.Within L) :
    StopsWith (Places L r.Raises) (Run.dispatch self i r) := by
  have hselects := (h.selects i hp).mono fun _ =>
    Places.mono (G := r.Raises) fun _ => False.elim
  exact hselects.bind fun _ => unlessPending (ite (h.act hact) (pure _))

end Meaning.PlacesErrors

/-! ## Errors on their way out -/

/-- From every machine `y` does what `x` does, or stops with this error. -/
def OrFails (e : Error) {α : Type} (x y : Eval α) : Prop :=
  ∀ m, y m = x m ∨ ∃ m', y m = .error (.failed e) m'

namespace OrFails

variable {e : Error} {α β : Type}

theorem same (x : Eval α) : OrFails e x x := fun _ => .inl rfl

theorem bind {x y : Eval α} {f g : α → Eval β} (hx : OrFails e x y)
    (hf : ∀ a, OrFails e (f a) (g a)) : OrFails e (x >>= f) (y >>= g) := by
  intro m
  rcases hx m with hsame | ⟨m', hfails⟩
  · cases hrun : x m with
    | ok a m₁ =>
      rw [hrun] at hsame
      rw [bind_of_ok hrun, bind_of_ok hsame]
      exact hf a m₁
    | error why m₁ =>
      rw [hrun] at hsame
      rw [bind_of_error hrun, bind_of_error hsame]
      exact .inl rfl
  · exact .inr ⟨m', bind_of_error hfails⟩

theorem located {x y : Eval α} (he : e.place?.isSome) (place : Location) (hx : OrFails e x y) :
    OrFails e (Eval.located place x) (Eval.located place y) := by
  intro m
  unfold Eval.located
  rcases hx m with hsame | ⟨m', hfails⟩
  · rw [hsame]
    exact .inl rfl
  · rw [hfails]
    dsimp only
    rw [Error.place?_orAt_of_isSome he]
    exact .inr ⟨m', rfl⟩

theorem inFrame {x y : Eval α} (bindings : List (String × Binding)) (owned : List Nat)
    (hx : OrFails e x y) :
    OrFails e (Call.inFrame bindings owned x) (Call.inFrame bindings owned y) := by
  intro m
  unfold Call.inFrame
  rcases hx (m.enterCall bindings owned) with hsame | ⟨m', hfails⟩
  · rw [hsame]
    exact .inl rfl
  · rw [hfails]
    exact .inr ⟨_, rfl⟩

/-- The error may also be raised before or behind the computation. -/
theorem watched {ok : Machine → Prop} [DecidablePred ok] {x y : Eval α} (hx : OrFails e x y) :
    OrFails e x (Eval.watched ok (.failed e) y) := by
  intro m
  unfold Eval.watched
  split
  · exact .inr ⟨m, rfl⟩
  · rcases hx m with hsame | ⟨m', hfails⟩
    · rw [hsame]
      cases x m <;> dsimp only <;> split <;> first | exact .inl rfl | exact .inr ⟨_, rfl⟩
    · rw [hfails]
      dsimp only
      split <;> exact .inr ⟨m', rfl⟩

theorem respected (he : e.place?.isSome) : RespectsProgram .all fun _ x y => OrFails e x y where
  pure _ := same _
  bind := bind
  stop _ := same _
  located := located he
  access _ _ := same _
  refill _ _ _ _ := same _
  record _ _ := same _
  nextCounted := same _
  aside _ _ := same _
  write _ := same _
  takePending := same _
  newArray := same _
  leave _ := same _
  inFrame := inFrame

theorem meaningWatched (he : e.place?.isSome) (ok : Machine → Prop) [DecidablePred ok]
    (p : Program) (fuel : Nat) :
    (∀ t, OrFails e (eval p fuel t) (evalWatched ok (.failed e) p fuel t)) ∧
      ∀ s, OrFails e (exec p fuel s) (execWatched ok (.failed e) p fuel s) :=
  (respected he).variants (Awk.meaningWatched ok (.failed e) p)
    ⟨fun _ => same _, fun _ => same _⟩ (fun _ _ hx => hx.watched) (fun _ _ hx => hx.watched) fuel

end OrFails

/-- Where the errors of a rule say that they come from.  While its pattern is tested, every run-time
error has the place of an expression of the program; and while its action is carried out, unless the
error is one of a `delete` or of a loop over keys that stands in the action itself, which has none.
An error with a place that is raised before or behind any expression or statement, those of
functions included, comes out as it is. -/
theorem error_places {p : Program} {r : Rule} (hr : r ∈ p.rules) (fuel i : Nat) :
    StopsWith (Placed p.ExprAt) (Run.selects (meaning p fuel) i r.pattern) ∧
    StopsWith (Places p.ExprAt r.Raises) (Run.act (meaning p fuel) r) ∧
    StopsWith (Places p.ExprAt r.Raises) (Run.dispatch (meaning p fuel) i r) ∧
    ∀ e : Error, e.place?.isSome → ∀ (ok : Machine → Prop) [DecidablePred ok],
      OrFails e (Run.act (meaning p fuel) r) (Run.act (meaningWatched ok (.failed e) p fuel) r) ∧
      OrFails e (Run.dispatch (meaning p fuel) i r)
        (Run.dispatch (meaningWatched ok (.failed e) p fuel) i r) := by
  have hp := p.everywhere_exprAt
  have h := placesErrors hp fuel
  refine ⟨h.selects i (hp.patterns r hr), h.act (hp.actions r hr),
    h.dispatch i (hp.patterns r hr) (hp.actions r hr), fun e he ok _ => ?_⟩
  obtain ⟨hv, hs⟩ := OrFails.meaningWatched he ok p fuel
  have hrespects := OrFails.respected he
  exact ⟨hrespects.act (S := fun _ => True) (fun s _ => hs s) fun _ _ _ _ => trivial,
    hrespects.dispatch (E := fun _ => True) (S := fun _ => True) (fun e _ => hv e) (fun s _ => hs s)
      (fun _ => .same _) (fun _ _ _ _ => trivial) fun _ _ _ _ => trivial⟩

/-- The error that the action of a rule ends in at the start of a run. -/
def Rule.failure? (p : Program) (r : Rule) : Option Error :=
  match Run.act (meaning p 9) r (Machine.initial .empty) with
  | .error (.failed e) _ => some e
  | _ => none

theorem Rule.act_of_failure? {p : Program} {r : Rule} {e : Error} (h : r.failure? p = some e) :
    ∃ m, Run.act (meaning p 9) r (Machine.initial .empty) = .error (.failed e) m := by
  unfold failure? at h
  split at h
  · next m hrun =>
    cases h
    exact ⟨m, hrun⟩
  · cases h

/-- A rule that divides one by zero. -/
def dividing : Rule :=
  { pattern := some .begin_
    action := some ⟨[.expr (.arith .div (.number 1.0 ⟨1, 9⟩) (.number 0.0 ⟨1, 13⟩) ⟨1, 11⟩)],
      ⟨1, 7⟩⟩
    place := ⟨1, 1⟩ }

theorem error_places_dividing :
    let p : Program := ⟨[dividing], []⟩
    ∃ e m, dividing ∈ p.rules ∧
      Run.act (meaning p 9) dividing (Machine.initial .empty) = .error (.failed e) m ∧
      e.place? = some ⟨1, 11⟩ ∧ p.ExprAt ⟨1, 11⟩ := by
  intro p
  have hfails : (dividing.failure? p).map (fun e => (e.kind, e.place?)) =
      some (.runtime, some ⟨1, 11⟩) := by decide +kernel
  obtain ⟨e, he, hkind⟩ := Option.map_eq_some_iff.mp hfails
  obtain ⟨m, hrun⟩ := Rule.act_of_failure? he
  obtain ⟨hkind, hplace⟩ := Prod.mk.inj hkind
  have hexpr := (error_places (p := p) (List.mem_singleton_self dividing) 9 0).2.1 _ _ _ hrun
  refine ⟨e, m, List.mem_singleton_self dividing, hrun, hplace, ?_⟩
  match e, hkind, hplace with
  | .runtime fault (some place), _, hplace =>
    cases hplace
    exact hexpr

/-- The array of a `delete` is a scalar, and the error does not say where. -/
theorem delete_unplaced :
    ∃ p r e m, parseProgram "BEGIN \x7b x = 1; delete x \x7d" = .ok p ∧ r ∈ p.rules ∧
      Run.act (meaning p 9) r (Machine.initial .empty) = .error (.failed e) m ∧
      e.message = "runtime error: attempt to use scalar `x` as an array" ∧ e.place? = none := by
  have hfails : ((parseProgram "BEGIN \x7b x = 1; delete x \x7d").toOption.bind fun p =>
      p.rules.head?.bind fun r => (r.failure? p).map fun e => (e.message, e.place?)) =
      some ("runtime error: attempt to use scalar `x` as an array", none) := by decide +kernel
  obtain ⟨p, hp, hfails⟩ := exists_ok_of_bind hfails
  obtain ⟨r, hr, hfails⟩ := Option.bind_eq_some_iff.mp hfails
  obtain ⟨e, he, heq⟩ := Option.map_eq_some_iff.mp hfails
  obtain ⟨m, hrun⟩ := Rule.act_of_failure? he
  obtain ⟨hmessage, hplace⟩ := Prod.mk.inj heq
  exact ⟨p, r, e, m, hp, List.mem_of_head? hr, hrun, hmessage, hplace⟩

end Awk
