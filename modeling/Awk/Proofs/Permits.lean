import Awk.Evaluation
import Awk.Proofs.Access

/-!
# What terms are permitted

A rule makes a computation from those of the parts of a term, by putting primitive steps
and parts one after the other.  So a relation between computations that every primitive
step and every sequence respects holds between what a rule makes of two families of
parts as soon as it holds between the parts.

Often a relation is respected only by some of the accesses to variables and arrays, or
known only of some terms.  `Expr.Permitted` and `Stmt.Permitted` say of one node of a term
that it makes no other accesses and has no other parts; `RespectsUnder.exprRule` and
`RespectsStatements.stmtRule` are about such nodes.
-/

namespace Awk

open Eval

/-! ## The state behind a computation -/

theorem after_located {α : Type} (place : Location) (x : Eval α) (m : Machine) :
    after (located place x) m = after x m := by
  unfold after located
  rcases x m with ⟨a, m₁⟩ | ⟨_ | _ | _ | _, m₁⟩ <;> rfl

theorem ok_of_located {α : Type} {place : Location} {x : Eval α} {a : α} {m m' : Machine}
    (h : located place x m = .ok a m') : x m = .ok a m' := by
  unfold located at h
  split at h
  · next hrun =>
    cases h
    exact hrun
  · cases h
  · cases h

theorem after_onScope {α : Type} (op : Scope.Op α) (m : Machine) :
    after (onScope op) m = { m with scope := after op m.scope } := by
  unfold after onScope
  rcases op m.scope with ⟨a, s⟩ | ⟨fault, s⟩ <;> rfl

theorem after_write (text : String) (m : Machine) :
    (after (write text) m).scope = m.scope ∧ (after (write text) m).pending = m.pending := by
  unfold after write
  cases m.sink.accepts text <;> exact ⟨rfl, rfl⟩

theorem callDepth_after_write (text : String) (m : Machine) :
    (after (write text) m).callDepth = m.callDepth := by
  unfold after write
  cases m.sink.accepts text <;> rfl

theorem after_inFrame {α : Type} (bindings : List (String × Binding)) (owned : List Nat)
    (x : Eval α) (m : Machine) :
    after (Call.inFrame bindings owned x) m =
      (after x (m.enterCall bindings owned)).leaveCall := by
  unfold after Call.inFrame
  cases x (m.enterCall bindings owned) <;> rfl

theorem after_requireTexts (format : String) (values : List Value) (m : Machine) :
    after (requireTexts format values) m = m := by
  unfold requireTexts
  split <;> rfl

theorem after_textUnder (numberFormat : Scope → String) (v : Value) (m : Machine) :
    after (textUnder numberFormat v) m = m := by
  unfold textUnder
  refine after_bind_self rfl fun s => after_bind_self (after_requireTexts _ _ m) fun _ => rfl

theorem after_openFile (name : String) (m : Machine) : after (openFile name) m = m := by
  unfold openFile
  rw [after_bind_of_ok (get_run m)]
  cases m.world.file? name with
  | none => rfl
  | some entry =>
    dsimp only
    cases entry.stream <;> rfl

theorem after_readerOf (name : String) (m : Machine) : after (readerOf name) m = m := by
  unfold readerOf
  rw [after_bind_of_ok (get_run m)]
  cases m.opened[name]? with
  | some reader => rfl
  | none =>
    dsimp only
    split
    · rfl
    · rw [after_bind_pure]
      exact after_openFile name m

/-- Blocks may have been taken off the front of standard input. -/
def Drawn (input input' : Option (List (List UInt8))) : Prop :=
  ∃ taken, input = input'.map (taken ++ ·)

theorem Drawn.refl (input : Option (List (List UInt8))) : Drawn input input :=
  ⟨[], by simp⟩

theorem Drawn.trans {input₁ input₂ input₃ : Option (List (List UInt8))} (h : Drawn input₁ input₂)
    (h' : Drawn input₂ input₃) : Drawn input₁ input₃ := by
  obtain ⟨taken, rfl⟩ := h
  obtain ⟨taken', rfl⟩ := h'
  exact ⟨taken ++ taken', by simp [Function.comp_def]⟩

/-- A reader that draws on blocks takes them off the front. -/
theorem Reader.readShared_drawn (separator : RecordSeparator) (r : Reader)
    (blocks : List (List UInt8)) :
    Drawn (some blocks) (some (r.readShared separator blocks).2.2) := by
  fun_induction Reader.readShared separator r blocks with
  | case1 r => exact .refl _
  | case2 => exact .refl _
  | case3 r block blocks _ _ _ ih => exact .trans ⟨[block], rfl⟩ ih

/-- What the reader holds does not tell how the next record ends. -/
def Reader.RunsShort (separator : RecordSeparator) (r : Reader) : Prop :=
  ∀ record r', r.unended.read separator ≠ (.ok record, r')

/-- A reader that does not run short leaves all blocks alone. -/
theorem Reader.readShared_apart (separator : RecordSeparator) (r : Reader)
    (blocks : List (List UInt8)) :
    (r.readShared separator blocks).2.2 = blocks ∨ r.RunsShort separator := by
  unfold readShared
  split
  · exact .inl rfl
  · split
    · exact .inl rfl
    · next hread =>
      refine .inr fun record r' hread' => ?_
      cases hread.symm.trans hread'

/-- Reading a record changes at most standard input, and that only if the reader draws on it and
runs short. -/
theorem after_readRecord (onInput : Bool) (reader : Reader) (m : Machine) :
    ∃ input, after (readRecord onInput reader) m = { m with world := { m.world with input } } ∧
      Drawn m.world.input input ∧
      (input = m.world.input ∨ onInput ∧ reader.RunsShort m.scope.separator) := by
  unfold after readRecord
  cases onInput with
  | false => exact ⟨m.world.input, rfl, .refl _, .inl rfl⟩
  | true =>
    cases hinput : m.world.input with
    | none =>
      have hsame : m = { m with world := { m.world with input := none } } := by rw [← hinput]
      exact ⟨none, hsame, .refl _, .inl rfl⟩
    | some blocks =>
      refine ⟨_, rfl, reader.readShared_drawn m.scope.separator blocks, ?_⟩
      exact (reader.readShared_apart m.scope.separator blocks).imp (congrArg some) fun h => ⟨rfl, h⟩

/-- A computation that leaves the variables, the signal, the output and the count of calls alone,
and does not ask whether the run has been cancelled. -/
def Detached {α : Type} (x : Eval α) : Prop :=
  ∀ m, (after x m).scope = m.scope ∧ (after x m).pending = m.pending ∧
    (after x m).sink = m.sink ∧ (after x m).callDepth = m.callDepth ∧
    (after x m).world.cancelled = m.world.cancelled

namespace Detached

theorem get : Detached (get : Eval Machine) := fun _ => ⟨rfl, rfl, rfl, rfl, rfl⟩

theorem scope : Detached Eval.scope := fun _ => ⟨rfl, rfl, rfl, rfl, rfl⟩

theorem readCurrent : Detached Eval.readCurrent := by
  intro m
  unfold after Eval.readCurrent
  cases m.current with
  | none => exact ⟨rfl, rfl, rfl, rfl, rfl⟩
  | some reader =>
    obtain ⟨input, hm, -⟩ := after_readRecord m.onInput reader m
    dsimp only
    cases hrun : readRecord m.onInput reader m with
    | error stop m₁ =>
      rw [after_of_error hrun] at hm
      rw [hm]
      exact ⟨rfl, rfl, rfl, rfl, rfl⟩
    | ok read m₁ =>
      rw [after_of_ok hrun] at hm
      rw [hm]
      rcases read with ⟨(_ | _ | _), _⟩ <;> exact ⟨rfl, rfl, rfl, rfl, rfl⟩

theorem overflow : Detached Eval.overflow := fun _ => ⟨rfl, rfl, rfl, rfl, rfl⟩

end Detached

namespace Scope

theorem arrayId_of_isArray {name : String} {s : Scope} (h : s.isArray name) :
    after (arrayId name) s = s := by
  obtain ⟨id, hid⟩ : ∃ id, s.lookup? name = some (.array id) := by
    unfold isArray at h
    split at h
    · next id hid => exact ⟨id, hid⟩
    · cases h
  unfold lookup? at hid
  split at hid
  · next b hl =>
    cases hid
    simp only [after, arrayId, hl]
  · next hl =>
    by_cases hspecial : (Special.ofName? name).isSome
    · simp only [after, arrayId, hl, hspecial, if_true]
    · simp only [after, arrayId, hl, hspecial, hid, Bool.false_eq_true, if_false]

theorem arraySize_of_isArray {name : String} {s : Scope} (h : s.isArray name) :
    after (arraySize name) s = s := by
  have hid := arrayId_of_isArray h
  unfold arraySize
  cases hrun : arrayId name s with
  | error fault s₁ =>
    rw [after_of_error hrun] at hid
    rw [after_bind_of_error hrun]
    exact hid
  | ok id s₁ =>
    rw [after_of_ok hrun] at hid
    rw [after_bind_of_ok hrun]
    exact hid

end Scope

/-! ## Computations that leave the run alone -/

namespace Machine

def withPolicy (policy : Policy) (m : Machine) : Machine := { m with policy }

end Machine

/-- A computation that changes nothing of a machine but what it knows of the world, what comes by
chance and the files read by name, that does not ask whether the run has been cancelled, and to
which the policy is all the same. -/
structure Aside {α : Type} (x : Eval α) : Prop where
  kept : ∀ m, ∃ world random seed opened, after x m = { m with world, random, seed, opened } ∧
    world.cancelled = m.world.cancelled
  blind : ∀ policy, Commutes (Machine.withPolicy policy) x

namespace Aside

theorem of_after {α : Type} {x : Eval α} (hx : ∀ m, after x m = m)
    (hblind : ∀ policy, Commutes (Machine.withPolicy policy) x) : Aside x :=
  ⟨fun m => ⟨m.world, m.random, m.seed, m.opened, hx m, rfl⟩, hblind⟩

theorem pure {α : Type} (a : α) : Aside (pure a : Eval α) :=
  of_after (fun _ => rfl) fun _ => .pure a

theorem stop {α : Type} (why : Stop) : Aside (throw why : Eval α) :=
  of_after (fun _ => rfl) fun _ => .stop why

/-- To look at something other than the policy. -/
theorem gets {α : Type} {f : Machine → α} (hf : ∀ m policy, f (m.withPolicy policy) = f m) :
    Aside (do return f (← get)) :=
  of_after (fun _ => rfl) fun policy => .gets fun m => hf m policy

theorem bind {α β : Type} {x : Eval α} {f : α → Eval β} (hx : Aside x) (hf : ∀ a, Aside (f a)) :
    Aside (x >>= f) := by
  refine ⟨fun m => ?_, fun policy => (hx.blind policy).bind fun a => (hf a).blind policy⟩
  have hm := hx.kept m
  cases hrun : x m with
  | error why m₁ =>
    rw [after_of_error hrun] at hm
    rw [after_bind_of_error hrun]
    exact hm
  | ok a m₁ =>
    rw [after_of_ok hrun] at hm
    rw [after_bind_of_ok hrun]
    obtain ⟨world, random, seed, opened, rfl, hcancelled⟩ := hm
    obtain ⟨world', random', seed', opened', hkept, hcancelled'⟩ := (hf a).kept _
    exact ⟨world', random', seed', opened', hkept, hcancelled'.trans hcancelled⟩

theorem scope : Aside Eval.scope := gets fun _ _ => rfl

theorem requireTexts (format : String) (values : List Value) :
    Aside (Eval.requireTexts format values) := by
  unfold Eval.requireTexts
  split
  · exact pure _
  · exact stop _

theorem textUnder (numberFormat : Scope → String) (v : Value) :
    Aside (Eval.textUnder numberFormat v) :=
  scope.bind fun _ => (requireTexts _ _).bind fun _ => pure _

theorem formatted (format : String) (args : List Value) : Aside (Eval.formatted format args) :=
  scope.bind fun _ => (requireTexts _ _).bind fun _ => pure _

theorem arranged (keys : List String) : Aside (Eval.arranged keys) :=
  ⟨fun m => ⟨_, m.random, m.seed, m.opened, rfl, rfl⟩, fun _ _ => rfl⟩

theorem openFile (name : String) : Aside (Eval.openFile name) := by
  refine of_after (after_openFile name) fun policy m => ?_
  unfold Eval.openFile
  rw [bind_of_ok (get_run m), bind_of_ok (get_run _)]
  simp only [Machine.withPolicy]
  cases m.world.file? name with
  | none => rfl
  | some entry =>
    dsimp only
    cases entry.stream <;> rfl

theorem readerOf (name : String) : Aside (Eval.readerOf name) := by
  refine of_after (after_readerOf name) fun policy m => ?_
  have hopen : Aside (do
      if isInputName name then return Reader.empty
      else return .ofStream (← Eval.openFile name)) := by
    split
    · exact pure _
    · exact bind (openFile name) fun stream => pure _
  unfold Eval.readerOf
  rw [bind_of_ok (get_run m), bind_of_ok (get_run _)]
  show _ = mapState (Machine.withPolicy policy) _
  have hopened : (m.withPolicy policy).opened = m.opened := rfl
  rw [hopened]
  cases m.opened[name]? with
  | some reader => rfl
  | none => exact hopen.blind policy m

theorem readRecord (onInput : Bool) (reader : Reader) : Aside (Eval.readRecord onInput reader) := by
  refine ⟨fun m => ?_, fun policy m => ?_⟩
  · obtain ⟨input, hm, -⟩ := after_readRecord onInput reader m
    exact ⟨_, _, _, _, hm, rfl⟩
  · unfold Eval.readRecord Machine.withPolicy
    cases onInput with
    | false => rfl
    | true =>
      dsimp only
      cases m.world.input <;> rfl

theorem readOn (name : String) (reader : Reader) : Aside (Eval.readOn name reader) := by
  refine (readRecord _ reader).bind fun read => ?_
  have hopened : Aside (modify fun m : Machine =>
      { m with opened := m.opened.insert name read.2 }) :=
    ⟨fun m => ⟨m.world, m.random, m.seed, _, rfl, rfl⟩, fun _ => .modify fun _ => rfl⟩
  exact hopened.bind fun _ => pure _

theorem readFile (name : String) : Aside (Eval.readFile name) := by
  refine ⟨fun m => ?_, fun policy m => ?_⟩
  · have hm := (readerOf name).kept m
    unfold after Eval.readFile
    cases hrun : Eval.readerOf name m with
    | error why m₁ =>
      rw [after_of_error hrun] at hm
      cases why <;> exact hm
    | ok reader m₁ =>
      rw [after_of_ok hrun] at hm
      obtain ⟨world, random, seed, opened, rfl, hcancelled⟩ := hm
      obtain ⟨world', random', seed', opened', hkept, hcancelled'⟩ := (readOn name reader).kept _
      exact ⟨world', random', seed', opened', hkept, hcancelled'.trans hcancelled⟩
  · have hblind := (readerOf name).blind policy m
    unfold Eval.readFile
    rw [hblind]
    cases hrun : Eval.readerOf name m with
    | error why m₁ => cases why <;> rfl
    | ok reader m₁ => exact (readOn name reader).blind policy m₁

theorem onScope_blind {α : Type} (op : Scope.Op α) (policy : Policy) :
    Commutes (Machine.withPolicy policy) (onScope op) := by
  intro m
  unfold onScope Machine.withPolicy
  dsimp only
  cases op m.scope <;> rfl

/-- To ask for the array that a name already stands for changes nothing. -/
theorem ifArray {α : Type} (name : String) {op : Scope.Op α}
    (hop : ∀ s, s.isArray name → after op s = s) :
    Aside (do if (← Eval.scope).isArray name then some <$> onScope op else return none) := by
  refine of_after (fun m => ?_) fun policy => ?_
  · rw [after_bind_of_ok (show Eval.scope m = .ok m.scope m from rfl)]
    by_cases harray : m.scope.isArray name
    · have hmap : after (some <$> onScope op) m = after (onScope op) m := by
        show after (onScope op >>= fun a => Pure.pure (some a)) m = _
        cases hrun : onScope op m with
        | ok a m₁ =>
          rw [after_bind_of_ok hrun, after_of_ok hrun]
          rfl
        | error why m₁ => rw [after_bind_of_error hrun, after_of_error hrun]
      rw [if_pos harray, hmap, after_onScope, hop m.scope harray]
    · rw [if_neg harray]
      rfl
  · refine (scope.blind policy).bind fun s => ?_
    split
    · exact (onScope_blind op policy).bind fun a => .pure (some a)
    · exact .pure none

theorem flush : Aside Eval.flush := by
  refine of_after (fun m => ?_) fun policy m => ?_
  · unfold after Eval.flush
    cases m.sink.flushFails <;> rfl
  · unfold Eval.flush Machine.withPolicy
    dsimp only
    cases m.sink.flushFails <;> rfl

/-- To change files, chance or what is known of the world. -/
theorem modify {f : Machine → Machine}
    (hf : ∀ m, ∃ world random seed opened, f m = { m with world, random, seed, opened } ∧
      world.cancelled = m.world.cancelled)
    (hblind : ∀ m policy, f (m.withPolicy policy) = (f m).withPolicy policy) :
    Aside (modify f) :=
  ⟨hf, fun policy => .modify fun m => hblind m policy⟩

theorem detached {α : Type} {x : Eval α} (h : Aside x) : Detached x := by
  intro m
  obtain ⟨world, random, seed, opened, hm, hcancelled⟩ := h.kept m
  rw [hm]
  exact ⟨rfl, rfl, rfl, rfl, hcancelled⟩

end Aside

/-- A change of a scope that concerns only the record and what is told of a match. -/
def OnlyRecord (f : Scope → Scope) : Prop :=
  ∀ s, ∃ record rstart rlength, f s = { s with record, rstart, rlength }

namespace OnlyRecord

theorem setRecord (text : String) : OnlyRecord (Scope.setRecord text) :=
  fun s => ⟨(s.setRecord text).record, s.rstart, s.rlength, rfl⟩

theorem setField (i : Nat) (text : String) : OnlyRecord (Scope.setField i text) := by
  intro s
  unfold Scope.setField
  split
  · exact setRecord text s
  · exact ⟨_, s.rstart, s.rlength, rfl⟩

theorem sameNames {f : Scope → Scope} (h : OnlyRecord f) (s : Scope) : Scope.SameNames s (f s) := by
  obtain ⟨record, rstart, rlength, hf⟩ := h s
  rw [hf]
  exact ⟨rfl, rfl, rfl⟩

end OnlyRecord

/-- The next record of the main input, counted if there is one. -/
def Eval.nextCounted : Eval (Option String) := do
  let record ← nextRecord
  if record.isSome then countRecord
  return record

/-- Replaces the elements of the array that a name stands for by values made from them, and
yields something made from them as well. -/
def Eval.refill {α : Type} (name : String) (values : Table → List Value) (result : Table → α) :
    Eval α := do
  let id ← onScope (Scope.arrayId name)
  let t := (← scope).table id
  onScope (Scope.fillArray id (values t))
  return result t

/-! ## Nodes of terms -/

/-- The accesses by name that are permitted. -/
abbrev Permit := ∀ ⦃α : Type⦄, Scope.Access α → Prop

/-- Nothing is forbidden. -/
def Permit.all : Permit := fun _ _ => True

def Target.Permitted (A : Permit) : Target → Prop
  | var name => A (.getVar name) ∧ ∀ v, A (.setVar name v)
  | element array key => A (.getElement array key) ∧ ∀ v, A (.setElement array key v)
  | field _ => True

namespace Expr

/-- What the expression names as a target may be read and written. -/
def PermittedTarget (A : Permit) (E : Expr → Prop) : Expr → Prop
  | var name _ => (Target.var name).Permitted A
  | element array indices _ =>
    (∀ key, (Target.element array key).Permitted A) ∧ ∀ e ∈ indices, E e
  | field index _ => E index
  | group inner _ => inner.PermittedTarget A E
  | _ => True

/-- The array that the expression names, also in parentheses, may be replaced. -/
def PermittedArray (A : Permit) : Expr → Prop
  | var name _ => A (.arrayId name)
  | group inner _ => inner.PermittedArray A
  | _ => True

end Expr

/-- A built-in function may be called with these arguments. -/
def Builtin.Permitted (A : Permit) (E : Expr → Prop) (b : Builtin) (args : List Expr) : Prop :=
  match b, args with
  | .split, s :: array :: more => E s ∧ array.PermittedArray A ∧ ∀ e ∈ more, E e
  | .sub, pattern :: replacement :: more | .gsub, pattern :: replacement :: more =>
    E pattern ∧ E replacement ∧ ∀ e ∈ more.head?, e.PermittedTarget A E
  | .asort, [array] | .asorti, [array] => array.PermittedArray A
  | _, args => ∀ e ∈ args, E e

/-- The accesses that the node itself makes are permitted, and so are the parts that it has
evaluated.  Of calls nothing is said. -/
def Expr.Permitted (A : Permit) (E : Expr → Prop) : Expr → Prop
  | number .. | string .. | regex .. | call .. => True
  | var name _ => A (.getVar name)
  | field e _ | unary _ e _ | group e _ => E e
  | element array indices _ => (∀ key, A (.getElement array key)) ∧ ∀ e ∈ indices, E e
  | arith _ l r _ | relation _ l r _ | logic _ l r _ | concat l r _ | matching l r _ _ => E l ∧ E r
  | assign _ target value _ => target.PermittedTarget A E ∧ E value
  | step _ target _ => target.PermittedTarget A E
  | cond test ifTrue ifFalse _ => E test ∧ E ifTrue ∧ E ifFalse
  | builtin b args _ => b.Permitted A E args
  | contains key array _ => (∀ text, A (.hasElement array text)) ∧ ∀ e ∈ key, E e
  | getline target file _ => (∀ e ∈ target, e.PermittedTarget A E) ∧ ∀ e ∈ file, E e

def Stmt.Permitted (A : Permit) (E : Expr → Prop) (S : Stmt → Prop) : Stmt → Prop
  | expr e => E e
  | print args _ => ∀ e ∈ args, E e
  | printf format args _ => E format ∧ ∀ e ∈ args, E e
  | ifElse test ifTrue ifFalse _ => E test ∧ S ifTrue ∧ ∀ s ∈ ifFalse, S s
  | whileLoop test body _ | doWhile body test _ => E test ∧ S body
  | forLoop init test update body _ =>
    (∀ e ∈ init, E e) ∧ (∀ e ∈ test, E e) ∧ (∀ e ∈ update, E e) ∧ S body
  | forIn var array body _ => A (.arrayKeys array) ∧ (∀ v, A (.setVar var v)) ∧ S body
  | block body _ => ∀ s ∈ body, S s
  | exit code _ => ∀ e ∈ code, E e
  | returnValue value _ => ∀ e ∈ value, E e
  | delete array index _ =>
    A (.clearArray array) ∧ (∀ key, A (.deleteElement array key)) ∧ ∀ e ∈ index, E e
  | breakLoop _ | continueLoop _ | next _ | nextFile _ | empty => True

/-! ## Without restriction -/

namespace Expr

theorem permittedTarget_all (e : Expr) : e.PermittedTarget .all fun _ => True := by
  fun_induction Expr.PermittedTarget .all (fun _ => True) e with
  | case1 name => exact ⟨trivial, fun _ => trivial⟩
  | case2 array indices => exact ⟨fun _ => ⟨trivial, fun _ => trivial⟩, fun _ _ => trivial⟩
  | case3 index => exact trivial
  | case4 inner place ih => exact ih
  | case5 e => exact trivial

theorem permittedArray_all (e : Expr) : e.PermittedArray .all := by
  fun_induction Expr.PermittedArray .all e with
  | case1 name => exact trivial
  | case2 inner place ih => exact ih
  | case3 e => exact trivial

end Expr

theorem Builtin.permitted_all (b : Builtin) (args : List Expr) :
    b.Permitted .all (fun _ => True) args := by
  unfold Builtin.Permitted
  split
  · exact ⟨trivial, Expr.permittedArray_all _, fun _ _ => trivial⟩
  · exact ⟨trivial, trivial, fun e _ => e.permittedTarget_all⟩
  · exact ⟨trivial, trivial, fun e _ => e.permittedTarget_all⟩
  · exact Expr.permittedArray_all _
  · exact Expr.permittedArray_all _
  · exact fun _ _ => trivial

theorem Expr.permitted_all (e : Expr) : e.Permitted .all fun _ => True := by
  cases e with
  | assign op target value place => exact ⟨target.permittedTarget_all, trivial⟩
  | step how target place => exact target.permittedTarget_all
  | builtin b args place => exact b.permitted_all args
  | getline target file place => exact ⟨fun e _ => e.permittedTarget_all, fun _ _ => trivial⟩
  | _ => simp [Expr.Permitted, Permit.all]

theorem Stmt.permitted_all (s : Stmt) : s.Permitted .all (fun _ => True) fun _ => True := by
  cases s <;> simp [Stmt.Permitted, Permit.all]

/-! ## Relations between computations -/

/-- A relation between computations that holds between sequences of what it holds between,
and between every primitive step of an expression and itself; of the accesses by name only those
that are permitted count. -/
structure RespectsExprs (A : Permit) (Q : ∀ ⦃α : Type⦄, Eval α → Eval α → Prop) : Prop where
  pure {α : Type} (a : α) : Q (pure a) (pure a)
  bind {α β : Type} {x y : Eval α} {f g : α → Eval β} :
    Q x y → (∀ a, Q (f a) (g a)) → Q (x >>= f) (y >>= g)
  stop {α : Type} (why : Stop) : Q (throw why : Eval α) (throw why)
  located {α : Type} {x y : Eval α} (place : Location) :
    Q x y → Q (Eval.located place x) (Eval.located place y)
  access {α : Type} (a : Scope.Access α) : A a → Q (onScope a.op) (onScope a.op)
  refill {α : Type} (name : String) (values : Table → List Value) (result : Table → α) :
    A (.arrayId name) → Q (Eval.refill name values result) (Eval.refill name values result)
  record (f : Scope → Scope) : OnlyRecord f → Q (modifyScope f) (modifyScope f)
  nextCounted : Q Eval.nextCounted Eval.nextCounted
  aside {α : Type} (x : Eval α) : Aside x → Q x x

/-- A relation that also respects output, which only statements make. -/
structure RespectsTerms (A : Permit) (Q : ∀ ⦃α : Type⦄, Eval α → Eval α → Prop) : Prop
    extends RespectsExprs A Q where
  write (text : String) : Q (Eval.write text) (Eval.write text)

/-- A relation that respects the steps by which records of the main input are read. -/
structure RespectsInput (Q : ∀ ⦃α : Type⦄, Eval α → Eval α → Prop) : Prop where
  pure {α : Type} (a : α) : Q (pure a) (pure a)
  bind {α β : Type} {x y : Eval α} {f g : α → Eval β} :
    Q x y → (∀ a, Q (f a) (g a)) → Q (x >>= f) (y >>= g)
  /-- An assignment among the inputs. -/
  assign (text : String) : Q (onScope (Scope.assign text)) (onScope (Scope.assign text))
  sameNames (f : Scope → Scope) : (∀ s, Scope.SameNames s (f s)) →
    Q (modifyScope f) (modifyScope f)
  detached {α : Type} (x : Eval α) : Detached x → Q x x

namespace RespectsInput

variable {Q : ∀ ⦃α : Type⦄, Eval α → Eval α → Prop} (h : RespectsInput Q)

include h

theorem get : Q (get : Eval Machine) MonadState.get := h.detached _ .get

theorem openSource (source : Source) : Q (Eval.openSource source) (Eval.openSource source) := by
  -- Name, counter and reader are set at once, but could be set one after the other.
  have start : ∀ (name : String) (onInput : Bool) (reader : Reader),
      Q (modify (Machine.openInput name onInput reader))
        (modify (Machine.openInput name onInput reader)) := by
    intro name onInput reader
    have hname := h.sameNames (fun s => { s with filename := name, fnr := 0, fnrExact := 0 })
      fun _ => ⟨rfl, rfl, rfl⟩
    have hreader := h.detached
      (modify fun m : Machine =>
        { m with current := some reader, onInput, delivered := (name, 0) :: m.delivered })
      fun _ => ⟨rfl, rfl, rfl, rfl, rfl⟩
    exact h.bind hname fun _ => hreader
  cases source with
  | stream name stream => exact start name false _
  | operand text =>
    simp only [Eval.openSource]
    split
    · exact h.assign text
    · split
      · exact start text true .empty
      · exact h.bind (h.detached _ (Aside.openFile text).detached) fun stream => start text false _

theorem readSources (sources : List Source) :
    Q (Eval.readSources sources) (Eval.readSources sources) := by
  induction sources with
  | nil => exact h.pure none
  | cons source rest ih =>
    have hrest := h.detached (modify fun m : Machine => { m with sources := rest })
      fun _ => ⟨rfl, rfl, rfl, rfl, rfl⟩
    refine h.bind hrest fun _ => h.bind (h.openSource source) fun _ => ?_
    refine h.bind (h.detached _ .readCurrent) fun record => ?_
    cases record with
    | some record => exact h.pure (some record)
    | none => exact ih

theorem nextRecord : Q Eval.nextRecord Eval.nextRecord := by
  refine h.bind (h.detached _ .readCurrent) fun record => ?_
  cases record with
  | some record => exact h.pure (some record)
  | none => exact h.bind h.get fun m => h.readSources m.sources

theorem countRecord : Q Eval.countRecord Eval.countRecord := by
  refine h.bind (h.detached _ .scope) fun s => ?_
  split
  · exact h.sameNames _ fun _ => ⟨rfl, rfl, rfl⟩
  · exact h.detached _ .overflow

theorem nextCounted : Q Eval.nextCounted Eval.nextCounted := by
  refine h.bind h.nextRecord fun record => ?_
  dsimp only
  split
  · exact h.bind h.countRecord fun _ => h.pure _
  · exact h.pure _

end RespectsInput

/-- A relation that is respected by all accesses that are permitted, by what changes no name and by
what leaves the variables alone. -/
structure RespectsUnder (A : Permit) (Q : ∀ ⦃α : Type⦄, Eval α → Eval α → Prop) : Prop
    extends RespectsTerms A Q, RespectsInput Q where
  record := fun f hf => sameNames f hf.sameNames
  nextCounted := RespectsInput.nextCounted ⟨pure, bind, assign, sameNames, detached⟩
  aside := fun x hx => detached x hx.detached

namespace RespectsExprs

variable {A : Permit} {Q : ∀ ⦃α : Type⦄, Eval α → Eval α → Prop} (h : RespectsExprs A Q)

include h

/-! ## Reading the state -/

theorem scope : Q Eval.scope Eval.scope := h.aside _ .scope

/-- To look at something other than the policy. -/
theorem gets {α : Type} {f : Machine → α} (hf : ∀ m policy, f (m.withPolicy policy) = f m) :
    Q (do return f (← get)) (do return f (← get)) :=
  h.aside _ (.gets hf)

theorem isPending : Q Eval.isPending Eval.isPending := h.gets fun _ _ => rfl

theorem fail {α : Type} (fault : Fault) : Q (Eval.fail fault : Eval α) (Eval.fail fault) :=
  h.stop _

theorem failAt {α : Type} (fault : Fault) (place : Location) :
    Q (Eval.failAt fault place : Eval α) (Eval.failAt fault place) :=
  h.stop _

/-- Behind what stops nothing matters. -/
theorem stop_bind {α β : Type} (why : Stop) (f g : α → Eval β) :
    Q (throw why >>= f) (throw why >>= g) :=
  h.stop why

theorem ofExcept {α : Type} (r : Except Fault α) : Q (Eval.ofExcept r) (Eval.ofExcept r) := by
  cases r with
  | ok a => exact h.pure a
  | error fault => exact h.fail fault

theorem requireTexts (format : String) (values : List Value) :
    Q (Eval.requireTexts format values) (Eval.requireTexts format values) :=
  h.aside _ (.requireTexts format values)

theorem textUnder (numberFormat : Scope → String) (v : Value) :
    Q (Eval.textUnder numberFormat v) (Eval.textUnder numberFormat v) :=
  h.aside _ (.textUnder numberFormat v)

theorem textOf (v : Value) : Q (Eval.textOf v) (Eval.textOf v) := h.textUnder _ v

theorem formatted (format : String) (args : List Value) :
    Q (Eval.formatted format args) (Eval.formatted format args) :=
  h.aside _ (.formatted format args)

theorem flush : Q Eval.flush Eval.flush := h.aside _ .flush

theorem regexOf (pattern : String) : Q (Eval.regexOf pattern) (Eval.regexOf pattern) := by
  refine h.bind h.scope fun s => ?_
  cases Regex.compile (Regex.escapeStray pattern) s.ignoresCase with
  | ok re => exact h.pure re
  | error fault => exact h.stop _

theorem read {t : Target} (ht : t.Permitted A) : Q t.read t.read := by
  cases t with
  | var name => exact h.access (.getVar name) ht.1
  | element array key => exact h.access (.getElement array key) ht.1
  | field i => exact h.bind h.scope fun _ => h.pure _

theorem writeTarget (v : Value) {t : Target} (ht : t.Permitted A) : Q (t.write v) (t.write v) := by
  cases t with
  | var name =>
    have hset := h.access (.setVar name v) (ht.2 v)
    unfold Target.write
    dsimp only
    split
    · exact h.bind h.scope fun _ => h.bind (h.requireTexts _ _) fun _ => hset
    · exact hset
  | element array key => exact h.access (.setElement array key v) (ht.2 v)
  | field i =>
    refine h.bind (h.textOf v) fun text => ?_
    exact h.record _ (.setField i text)

/-- What goes on with the array that an argument names. -/
theorem arrayName_bind {α : Type} (b : Builtin) {e : Expr} (he : e.PermittedArray A)
    {f g : String → Eval α} (hf : ∀ name, A (.arrayId name) → Q (f name) (g name)) :
    Q (b.arrayName e >>= f) (b.arrayName e >>= g) := by
  fun_induction Builtin.arrayName b e with
  | case1 name => exact hf name he
  | case2 inner place ih => exact ih he
  | case3 e _ _ => exact h.stop_bind _ f g

/-! ## Parts -/

variable {self self' : Meaning} {E : Expr → Prop}
  (hv : ∀ e, E e → Q (self.value e) (self'.value e))

include hv

theorem text {e : Expr} (he : E e) : Q (self.text e) (self'.text e) :=
  h.bind (hv e he) fun v => h.textOf v

theorem number {e : Expr} (he : E e) : Q (self.number e) (self'.number e) :=
  h.bind (hv e he) fun _ => h.pure _

theorem isTrue {e : Expr} (he : E e) : Q (self.isTrue e) (self'.isTrue e) :=
  h.bind (hv e he) fun _ => h.pure _

theorem values {es : List Expr} (hes : ∀ e ∈ es, E e) : Q (self.values es) (self'.values es) := by
  induction es with
  | nil => exact h.pure []
  | cons e es ih =>
    obtain ⟨he, hes⟩ := List.forall_mem_cons.mp hes
    exact h.bind (hv e he) fun _ => h.bind (ih hes) fun _ => h.pure _

theorem texts {es : List Expr} (hes : ∀ e ∈ es, E e) : Q (self.texts es) (self'.texts es) := by
  induction es with
  | nil => exact h.pure []
  | cons e es ih =>
    obtain ⟨he, hes⟩ := List.forall_mem_cons.mp hes
    exact h.bind (h.text hv he) fun _ => h.bind (ih hes) fun _ => h.pure _

theorem key {indices : List Expr} (hes : ∀ e ∈ indices, E e) :
    Q (self.key indices) (self'.key indices) :=
  h.bind (h.values hv hes) fun _ => h.bind h.scope fun _ =>
    h.bind (h.requireTexts _ _) fun _ => h.pure _

theorem fieldIndex {e : Expr} (he : E e) : Q (self.fieldIndex e) (self'.fieldIndex e) := by
  refine h.bind (h.number hv he) fun n => ?_
  split
  · exact h.fail _
  · split
    · exact h.fail _
    · exact h.pure _

theorem pattern {e : Expr} (he : E e) : Q (self.pattern e) (self'.pattern e) := by
  unfold Meaning.pattern
  split
  · exact h.pure _
  · exact h.text hv he

/-- What goes on with the target that an expression names. -/
theorem resolve_bind {α : Type} {e : Expr} (he : e.PermittedTarget A E) {f g : Target → Eval α}
    (hf : ∀ t, t.Permitted A → Q (f t) (g t)) :
    Q (Target.resolve self e >>= f) (Target.resolve self' e >>= g) := by
  fun_induction Target.resolve self e with
  | case1 name => exact hf (.var name) he
  | case2 array indices =>
    rw [Target.resolve, bind_assoc, bind_assoc]
    exact h.bind (h.key hv he.2) fun key => hf (.element array key) (he.1 key)
  | case3 index =>
    rw [Target.resolve, bind_assoc, bind_assoc]
    exact h.bind (h.fieldIndex hv he) fun i => hf (.field i) trivial
  | case4 inner place ih => exact ih he
  | case5 e hvar helement hfield hgroup =>
    rw [Target.resolve.eq_5 self' e hvar helement hfield hgroup]
    exact h.stop_bind _ f g

/-! ## Built-in functions -/

theorem callLength {arg : Option Expr} (harg : ∀ e ∈ arg, E e) :
    Q (Builtin.callLength self arg) (Builtin.callLength self' arg) := by
  unfold Builtin.callLength
  split
  · exact h.bind h.scope fun _ => h.pure _
  · next name place =>
    -- The size is asked only of a name that stands for an array, so that nothing changes.
    have hsize := h.aside _ (.ifArray name fun s => Scope.arraySize_of_isArray (s := s))
    have htext := h.text hv (harg _ rfl)
    have hall := h.bind hsize fun size =>
      show Q
          (size.elim (do return .ofNat (← self.text (.var name place)).length) fun n =>
            Pure.pure (Value.ofNat n))
          (size.elim (do return .ofNat (← self'.text (.var name place)).length) fun n =>
            Pure.pure (Value.ofNat n)) by
        cases size with
        | some n => exact h.pure _
        | none => exact h.bind htext fun _ => h.pure _
    have heq : ∀ self : Meaning, (do
          if (← Eval.scope).isArray name then
            return Value.ofNat (← onScope (Scope.arraySize name))
          else return Value.ofNat (← self.text (.var name place)).length) =
        (do if (← Eval.scope).isArray name then some <$> onScope (Scope.arraySize name)
            else return none) >>= fun size =>
          size.elim (do return .ofNat (← self.text (.var name place)).length) fun n =>
            Pure.pure (Value.ofNat n) := by
      intro self
      rw [bind_assoc]
      congr 1
      funext s
      split
      · rw [map_eq_pure_bind, bind_assoc]
        rfl
      · rfl
    rw [heq self, heq self']
    exact hall
  · exact h.bind (h.text hv (harg _ rfl)) fun _ => h.pure _

theorem callSubstr {s start : Expr} {length : Option Expr} (hs : E s) (hstart : E start)
    (hlength : ∀ e ∈ length, E e) :
    Q (Builtin.callSubstr self s start length) (Builtin.callSubstr self' s start length) := by
  refine h.bind (h.text hv hs) fun _ => h.bind (h.number hv hstart) fun _ => ?_
  cases length with
  | none => exact h.pure _
  | some e => exact h.bind (h.number hv (hlength e rfl)) fun _ => h.pure _

theorem callIndex {s word : Expr} (hs : E s) (hword : E word) :
    Q (Builtin.callIndex self s word) (Builtin.callIndex self' s word) := by
  refine h.bind (h.text hv hs) fun _ => h.bind (h.text hv hword) fun _ => ?_
  split <;> exact h.pure _

theorem splitterOf {separator : Option Expr} (hsep : ∀ e ∈ separator, E e) :
    Q (Builtin.splitterOf self separator) (Builtin.splitterOf self' separator) := by
  unfold Builtin.splitterOf
  split
  · exact h.bind (h.regexOf _) fun _ => h.pure _
  · exact h.bind (h.text hv (hsep _ rfl)) fun _ => h.bind h.scope fun _ => h.ofExcept _
  · exact h.bind h.scope fun _ => h.pure _

theorem callSplit {s array : Expr} {separator : Option Expr} (hs : E s)
    (harray : array.PermittedArray A) (hsep : ∀ e ∈ separator, E e) :
    Q (Builtin.callSplit self s array separator) (Builtin.callSplit self' s array separator) := by
  refine h.bind (h.text hv hs) fun s => h.arrayName_bind .split harray fun name hname => ?_
  refine h.bind (h.splitterOf hv hsep) fun splitter => ?_
  exact h.refill name (fun _ => (splitter.split s).map .ofText)
    (fun _ => Value.ofNat (splitter.split s).length) hname

/-- What goes on with the target of a substitution. -/
theorem substitutionTarget_bind {α : Type} (b : Builtin) {target : Option Expr}
    (htarget : ∀ e ∈ target, e.PermittedTarget A E) {f g : Target → Eval α}
    (hf : ∀ t, t.Permitted A → Q (f t) (g t)) :
    Q (Builtin.substitutionTarget self b target >>= f)
      (Builtin.substitutionTarget self' b target >>= g) := by
  unfold Builtin.substitutionTarget
  split
  · exact hf (.field 0) trivial
  · split
    · exact h.resolve_bind hv (htarget _ rfl) hf
    · exact h.stop_bind _ f g

theorem callSubstitute (b : Builtin) (everywhere : Bool) {pattern replacement : Expr}
    {target : Option Expr} (hpattern : E pattern) (hreplacement : E replacement)
    (htarget : ∀ e ∈ target, e.PermittedTarget A E) :
    Q (Builtin.callSubstitute self b everywhere pattern replacement target)
      (Builtin.callSubstitute self' b everywhere pattern replacement target) := by
  refine h.bind (h.pattern hv hpattern) fun _ => h.bind (h.text hv hreplacement) fun _ => ?_
  refine h.substitutionTarget_bind hv b htarget fun t ht => h.bind (h.read ht) fun _ => ?_
  refine h.bind (h.textOf _) fun _ => h.bind (h.regexOf _) fun _ => ?_
  dsimp only
  split
  · exact h.bind (h.writeTarget _ ht) fun _ => h.pure _
  · exact h.pure _

theorem callMatch {s pattern : Expr} (hs : E s) (hpattern : E pattern) :
    Q (Builtin.callMatch self s pattern) (Builtin.callMatch self' s pattern) := by
  refine h.bind (h.text hv hs) fun _ => h.bind (h.pattern hv hpattern) fun _ => ?_
  refine h.bind (h.regexOf _) fun _ => ?_
  exact h.bind (h.record _ fun s => ⟨s.record, _, _, rfl⟩) fun _ => h.pure _

theorem callSprintf {format : Expr} {args : List Expr} (hformat : E format)
    (hargs : ∀ e ∈ args, E e) :
    Q (Builtin.callSprintf self format args) (Builtin.callSprintf self' format args) :=
  h.bind (h.text hv hformat) fun _ => h.bind (h.values hv hargs) fun _ =>
    h.bind (h.formatted _ _) fun _ => h.pure _

omit hv in
theorem callRand : Q Builtin.callRand Builtin.callRand := by
  have hrun : ∀ m : Machine, Builtin.callRand m =
      .ok (.num m.random.next.1) { m with random := m.random.next.2 } := by
    intro m
    rw [Builtin.callRand]
  refine h.aside _ ⟨fun m => ?_, fun policy m => ?_⟩
  · rw [after_of_ok (hrun m)]
    exact ⟨m.world, _, m.seed, m.opened, rfl, rfl⟩
  · rw [hrun, hrun]
    rfl

theorem callSrand {seed : Option Expr} (hseed : ∀ e ∈ seed, E e) :
    Q (Builtin.callSrand self seed) (Builtin.callSrand self' seed) := by
  have hset : ∀ previous x, Q (do modify (Machine.setSeed x); return Value.num previous)
      (do modify (Machine.setSeed x); return Value.num previous) := fun _ x =>
    h.bind (h.aside _ (.modify (fun m => ⟨m.world, .ofSeed x, x, m.opened, rfl, rfl⟩)
      fun _ _ => rfl)) fun _ => h.pure _
  have hprevious := h.gets (f := Machine.seed) fun _ _ => rfl
  cases seed with
  | some e =>
    have hall := h.bind hprevious fun previous =>
      h.bind (h.number hv (hseed e rfl)) (hset previous)
    exact hall
  | none =>
    have hclock := h.gets (f := fun m => m.world.clock) fun _ _ => rfl
    have hall := h.bind hprevious fun previous => h.bind hclock (hset previous)
    exact hall

omit hv in
theorem renumber (b : Builtin) {array : Expr} (harray : array.PermittedArray A)
    (listed : Table → List Value) :
    Q (Builtin.renumber b array listed) (Builtin.renumber b array listed) :=
  h.arrayName_bind b harray fun name hname => h.refill name listed
    (fun t => Value.ofNat (listed t).length) hname

theorem callClose {name : Expr} (hname : E name) :
    Q (Builtin.callClose self name) (Builtin.callClose self' name) := by
  refine h.bind (h.text hv hname) fun file => ?_
  show Q ((do return (← get).opened.contains file) >>= fun isOpen => if isOpen then _ else _)
    ((do return (← get).opened.contains file) >>= fun isOpen => if isOpen then _ else _)
  refine h.bind (h.gets fun _ _ => rfl) fun isOpen => ?_
  split
  · refine h.bind (h.aside _ (.modify (fun m => ?_) fun _ _ => rfl)) fun _ => h.pure _
    exact ⟨m.world, m.random, m.seed, _, rfl, rfl⟩
  · exact h.pure _

theorem callNumeric (f : Double → Double) {e : Expr} (he : E e) :
    Q (Builtin.callNumeric self f e) (Builtin.callNumeric self' f e) :=
  h.bind (h.number hv he) fun _ => h.pure _

omit h hv in
theorem forall_mem_head? {es : List Expr} {P : Expr → Prop} (hes : ∀ e ∈ es, P e) :
    ∀ e ∈ es.head?, P e :=
  fun e he => hes e (List.mem_of_head? he)

theorem dispatch (b : Builtin) {args : List Expr} (place : Location)
    (hargs : b.Permitted A E args) :
    Q (b.dispatch self args place) (b.dispatch self' args place) := by
  unfold Builtin.dispatch
  split
  · exact h.callLength hv (forall_mem_head? hargs)
  · obtain ⟨hs, hstart, hmore⟩ := List.forall_mem_cons.mp hargs |>.imp_right List.forall_mem_cons.mp
    exact h.callSubstr hv hs hstart (forall_mem_head? hmore)
  · exact h.callIndex hv (hargs _ (by simp)) (hargs _ (by simp))
  · exact h.callSplit hv hargs.1 hargs.2.1 (forall_mem_head? hargs.2.2)
  · exact h.callSubstitute hv _ _ hargs.1 hargs.2.1 hargs.2.2
  · exact h.callSubstitute hv _ _ hargs.1 hargs.2.1 hargs.2.2
  · exact h.callMatch hv (hargs _ (by simp)) (hargs _ (by simp))
  · exact h.callSprintf hv (hargs _ (by simp)) (List.forall_mem_cons.mp hargs).2
  · exact h.bind (h.text hv (hargs _ (by simp))) fun _ => h.pure _
  · exact h.bind (h.text hv (hargs _ (by simp))) fun _ => h.pure _
  · exact h.callNumeric hv _ (hargs _ (by simp))
  · exact h.callNumeric hv _ (hargs _ (by simp))
  · exact h.callNumeric hv _ (hargs _ (by simp))
  · exact h.callNumeric hv _ (hargs _ (by simp))
  · exact h.callNumeric hv _ (hargs _ (by simp))
  · exact h.callNumeric hv _ (hargs _ (by simp))
  · exact h.bind (h.number hv (hargs _ (by simp))) fun _ =>
      h.bind (h.number hv (hargs _ (by simp))) fun _ => h.pure _
  · exact h.callRand
  · exact h.callSrand hv (forall_mem_head? hargs)
  · exact h.renumber .asort hargs _
  · exact h.renumber .asorti hargs _
  · exact h.bind h.flush fun _ => h.pure _
  · exact h.callClose hv (hargs _ (by simp))
  · exact h.failAt _ _

theorem builtin (b : Builtin) {args : List Expr} (place : Location)
    (hargs : b.Permitted A E args) : Q (b.call self args place) (b.call self' args place) := by
  unfold Builtin.call
  split
  · exact h.dispatch hv b place hargs
  · exact h.failAt _ _

/-- A call that is not one of a function of the program. -/
theorem hostCall (name : String) {args : List Expr} (place : Location) {p : Program}
    (hp : p.function? name = none) (hargs : ∀ e ∈ args, E e) :
    Q (Call.named self p name args place) (Call.named self' p name args place) := by
  -- To look a name up and to act on the answer are two steps.
  have heq : ∀ self : Meaning, Call.named self p name args place =
      (do return (← get).host.function? name) >>= fun f? =>
        f?.elim (raise (.undefinedFunction name place)) fun f => do
          return Value.ofText (f (← self.texts args)) := by
    intro self
    funext m
    rw [Call.named, hp, bind_assoc, bind_of_ok (get_run m)]
    dsimp only
    rw [bind_of_ok (get_run m), pure_bind]
    cases m.host.function? name <;> rfl
  rw [heq self, heq self']
  refine h.bind (h.gets fun _ _ => rfl) fun f => ?_
  cases f with
  | some f => exact h.bind (h.texts hv hargs) fun _ => h.pure _
  | none => exact h.stop _

/-! ## Expressions -/

theorem evalLogic (op : Logic) {left right : Expr} (hleft : E left) (hright : E right) :
    Q (Expr.evalLogic self op left right) (Expr.evalLogic self' op left right) := by
  refine h.bind (h.isTrue hv hleft) fun l => ?_
  split
  · exact h.pure _
  · exact h.pure _
  · exact h.bind (h.isTrue hv hright) fun _ => h.pure _

theorem evalAssign (op : Option Arith) {target value : Expr} (htarget : target.PermittedTarget A E)
    (hvalue : E value) :
    Q (Expr.evalAssign self op target value) (Expr.evalAssign self' op target value) := by
  refine h.resolve_bind hv htarget fun t ht => h.bind (hv value hvalue) fun v => ?_
  cases op with
  | none => exact h.bind (h.pure v) fun v => h.bind (h.writeTarget v ht) fun _ => h.pure _
  | some op =>
    refine h.bind (h.read ht) fun _ => h.bind (h.ofExcept _) fun x => h.bind (h.pure _) fun v => ?_
    exact h.bind (h.writeTarget v ht) fun _ => h.pure _

theorem evalStep (how : Awk.Step) {target : Expr} (htarget : target.PermittedTarget A E) :
    Q (Expr.evalStep self how target) (Expr.evalStep self' how target) := by
  refine h.resolve_bind hv htarget fun t ht => h.bind (h.read ht) fun _ => ?_
  exact h.bind (h.writeTarget _ ht) fun _ => h.pure _

theorem getlineRecord {file : Option Expr} (hfile : ∀ e ∈ file, E e) :
    Q (Expr.getlineRecord self file) (Expr.getlineRecord self' file) := by
  cases file with
  | some file =>
    exact h.bind (h.text hv (hfile file rfl)) fun name => h.aside _ (.readFile name)
  | none =>
    have heq : ∀ self : Meaning, Expr.getlineRecord self none = do
        return .ok (← Eval.nextCounted) := by
      intro self
      simp only [Expr.getlineRecord, Eval.nextCounted, bind_assoc]
      congr 1
      funext record
      cases record with
      | none => rfl
      | some record => simp only [Option.isSome_some, if_true, bind_assoc, pure_bind]
    rw [heq, heq]
    exact h.bind h.nextCounted fun _ => h.pure _

theorem evalGetline {target file : Option Expr} (htarget : ∀ e ∈ target, e.PermittedTarget A E)
    (hfile : ∀ e ∈ file, E e) :
    Q (Expr.evalGetline self target file) (Expr.evalGetline self' target file) := by
  have hrecord := h.getlineRecord hv hfile
  unfold Expr.evalGetline Expr.resolveTarget?
  cases target with
  | none =>
    simp only [pure_bind]
    refine h.bind hrecord fun r => ?_
    rcases r with _ | _ | record
    · exact h.pure _
    · exact h.pure _
    · exact h.bind (h.record _ (.setRecord record)) fun _ => h.pure _
  | some e =>
    simp only [bind_assoc, pure_bind]
    refine h.resolve_bind hv (htarget e rfl) fun t ht => h.bind hrecord fun r => ?_
    rcases r with _ | _ | record
    · exact h.pure _
    · exact h.pure _
    · exact h.bind (h.writeTarget _ ht) fun _ => h.pure _

/-- A rule for expressions respects what its parts respect, except that a call has to be
looked at on its own. -/
theorem exprRule {p : Program} {e : Expr} (he : e.Permitted A E)
    (hcall : ∀ name args place, e = .call name args place →
      Q (Call.named self p name args place) (Call.named self' p name args place)) :
    Q (e.rule p self) (e.rule p self') := by
  cases e with
  | number x place => exact h.pure _
  | string s place => exact h.pure _
  | regex pattern place =>
    exact h.bind (h.regexOf pattern) fun _ => h.bind h.scope fun _ => h.pure _
  | var name place => exact h.access (.getVar name) he
  | field index place =>
    exact h.bind (h.fieldIndex hv he) fun _ => h.bind h.scope fun _ => h.pure _
  | element array indices place =>
    exact h.bind (h.key hv he.2) fun key => h.access (.getElement array key) (he.1 key)
  | arith op left right place =>
    refine h.bind (h.number hv he.1) fun _ => h.bind (h.number hv he.2) fun _ => ?_
    exact h.bind (h.ofExcept _) fun _ => h.pure _
  | relation op left right place =>
    exact h.bind (hv left he.1) fun _ => h.bind (hv right he.2) fun _ => h.pure _
  | logic op left right place => exact h.evalLogic hv op he.1 he.2
  | concat left right place =>
    exact h.bind (h.text hv he.1) fun _ => h.bind (h.text hv he.2) fun _ => h.pure _
  | unary op operand place => exact h.bind (hv operand he) fun _ => h.pure _
  | assign op target value place => exact h.evalAssign hv op he.1 he.2
  | step how target place => exact h.evalStep hv how he
  | cond test ifTrue ifFalse place =>
    refine h.bind (h.isTrue hv he.1) fun b => ?_
    split
    · exact hv ifTrue he.2.1
    · exact hv ifFalse he.2.2
  | call name args place => exact hcall name args place rfl
  | builtin b args place => exact h.builtin hv b place he
  | contains key array place =>
    refine h.bind (h.key hv he.2) fun key => ?_
    exact h.bind (h.access (.hasElement array key) (he.1 key)) fun _ => h.pure _
  | matching subject pattern negated place =>
    refine h.bind (h.text hv he.1) fun _ => h.bind (h.pattern hv he.2) fun _ => ?_
    exact h.bind (h.regexOf _) fun _ => h.pure _
  | getline target file place => exact h.evalGetline hv he.1 he.2
  | group inner place => exact hv inner he

/-! ## Binding parameters -/

theorem bindParam (hnew : Q (onScope Scope.newArray) (onScope Scope.newArray)) {isArray : Bool}
    {arg : Option Expr} (harg : ∀ e ∈ arg, E e)
    (harray : isArray → ∀ name place, arg = some (.var name place) → A (.arrayId name)) :
    Q (Call.bindParam self isArray arg) (Call.bindParam self' isArray arg) := by
  have hfresh : Q Call.bindParam.fresh Call.bindParam.fresh := h.bind hnew fun _ => h.pure _
  unfold Call.bindParam
  split
  · next name place =>
    have hvalue := hv _ (harg _ rfl)
    cases isArray with
    | true =>
      refine h.bind h.scope fun s => ?_
      simp only [Bool.true_or, if_true]
      exact h.bind (h.access (.arrayId name) (harray rfl name place rfl)) fun _ => h.pure _
    | false =>
      -- A name that stands for an array is passed on, which changes nothing.
      have hid := h.aside _ (.ifArray name fun s => Scope.arrayId_of_isArray (s := s))
      have hall := h.bind hid fun id =>
        show Q
            (id.elim (do return (.scalar (← self.value (.var name place)), [])) fun id =>
              Pure.pure (Binding.array id, ([] : List Nat)))
            (id.elim (do return (.scalar (← self'.value (.var name place)), [])) fun id =>
              Pure.pure (Binding.array id, [])) by
          cases id with
          | some id => exact h.pure _
          | none => exact h.bind hvalue fun _ => h.pure _
      have heq : ∀ self : Meaning, (do
            if false || (← Eval.scope).isArray name then
              return (Binding.array (← onScope (Scope.arrayId name)), ([] : List Nat))
            else return (Binding.scalar (← self.value (.var name place)), [])) =
          (do if (← Eval.scope).isArray name then some <$> onScope (Scope.arrayId name)
              else return none) >>= fun id =>
            id.elim (do return (.scalar (← self.value (.var name place)), [])) fun id =>
              Pure.pure (Binding.array id, []) := by
        intro self
        rw [bind_assoc]
        congr 1
        funext s
        simp only [Bool.false_or]
        split
        · rw [map_eq_pure_bind, bind_assoc]
          rfl
        · rfl
      rw [heq self, heq self']
      exact hall
  · split
    · exact hfresh
    · exact h.bind (hv _ (harg _ rfl)) fun _ => h.pure _
  · split
    · exact hfresh
    · exact h.pure _

theorem bindParams (hnew : Q (onScope Scope.newArray) (onScope Scope.newArray))
    {params : List (String × Bool)} {args : List Expr} (hargs : ∀ e ∈ args, E e)
    (harrays : ∀ (i : Nat) (param name : String) (place : Location),
      params[i]? = some (param, true) → args[i]? = some (.var name place) → A (.arrayId name)) :
    Q (Call.bindParams self params args) (Call.bindParams self' params args) := by
  induction params generalizing args with
  | nil => exact h.pure _
  | cons param params ih =>
    obtain ⟨param, isArray⟩ := param
    refine h.bind (h.bindParam hv hnew (forall_mem_head? hargs) fun hmark name place harg => ?_)
      fun _ => h.bind (ih (fun e he => hargs e (List.mem_of_mem_tail he))
        fun i param name place hparam harg => ?_) fun _ => h.pure _
    · subst hmark
      exact harrays 0 param name place rfl (by rw [← harg, List.head?_eq_getElem?])
    · rw [List.getElem?_tail] at harg
      exact harrays (i + 1) param name place hparam harg

theorem enter (hnew : Q (onScope Scope.newArray) (onScope Scope.newArray)) (f : Function)
    {args : List Expr} (place : Location) (hargs : ∀ e ∈ args, E e)
    (harrays : ∀ (i : Nat) (name : String) (place : Location), f.isArrayParam i →
      args[i]? = some (.var name place) → A (.arrayId name)) :
    Q (Call.enter self f args place) (Call.enter self' f args place) := by
  unfold Call.enter
  split
  · exact h.failAt _ _
  · show Q ((do return (← get).callDepth) >>= fun depth => if maxCallDepth ≤ depth then _ else _)
      ((do return (← get).callDepth) >>= fun depth => if maxCallDepth ≤ depth then _ else _)
    refine h.bind (h.gets fun _ _ => rfl) fun depth => ?_
    split
    · exact h.failAt _ _
    · refine h.bindParams hv hnew hargs fun i param name place hparam harg => ?_
      simp only [List.getElem?_map, Option.map_eq_some_iff] at hparam
      obtain ⟨⟨q, j⟩, hj, heq⟩ := hparam
      obtain ⟨rfl, hmark⟩ := Prod.mk.inj heq
      have hij : j = i := by
        have hz := List.getElem?_zipIdx (l := f.params) (i := 0) (j := i)
        rw [hj] at hz
        cases hq : f.params[i]? with
        | none => rw [hq] at hz; cases hz
        | some q' =>
          rw [hq] at hz
          simp only [Option.map_some, Option.some.injEq, Prod.mk.injEq] at hz
          omega
      subst hij
      exact harrays j name place hmark harg

/-! ## Parts of statements -/

theorem loopTest {test : Option Expr} (htest : ∀ e ∈ test, E e) :
    Q (Stmt.loopTest self test) (Stmt.loopTest self' test) := by
  cases test with
  | none => exact h.bind h.isPending fun _ => h.pure _
  | some e =>
    exact h.bind (h.isTrue hv (htest e rfl)) fun _ => h.bind h.isPending fun _ => h.pure _

theorem loopStep {update : Option Expr} (hupdate : ∀ e ∈ update, E e) :
    Q (Stmt.loopStep self update) (Stmt.loopStep self' update) := by
  cases update with
  | none => exact h.pure true
  | some e => exact h.bind (hv e (hupdate e rfl)) fun _ => h.bind h.isPending fun _ => h.pure _

theorem printed {args : List Expr} (hargs : ∀ e ∈ args, E e) :
    Q (Stmt.printed self args) (Stmt.printed self' args) := by
  have more : ∀ {args : List Expr}, (∀ e ∈ args, E e) →
      Q (Stmt.printed.more self args) (Stmt.printed.more self' args) := by
    intro args hargs
    induction args with
    | nil => exact h.pure _
    | cons e es ih =>
      obtain ⟨he, hes⟩ := List.forall_mem_cons.mp hargs
      exact h.bind (hv e he) fun v => h.bind h.scope fun _ => h.bind (h.textUnder _ v) fun _ =>
        h.bind (ih hes) fun _ => h.pure _
  cases args with
  | nil => exact h.pure _
  | cons e es =>
    obtain ⟨he, hes⟩ := List.forall_mem_cons.mp hargs
    exact h.bind (hv e he) fun v => h.bind (h.textUnder _ v) fun _ =>
      h.bind (more hes) fun _ => h.pure _

theorem exitCode {code : Option Expr} (hcode : ∀ e ∈ code, E e) :
    Q (Stmt.exitCode self code) (Stmt.exitCode self' code) := by
  cases code with
  | none => exact h.gets fun _ _ => rfl
  | some e => exact h.bind (h.number hv (hcode e rfl)) fun _ => h.pure _

theorem runDelete {array : String} {index : List Expr} (hclear : A (.clearArray array))
    (hdelete : ∀ key, A (.deleteElement array key)) (hindex : ∀ e ∈ index, E e) :
    Q (Stmt.runDelete self array index) (Stmt.runDelete self' array index) := by
  unfold Stmt.runDelete
  split
  · exact h.bind (h.access (.clearArray array) hclear) fun _ => h.pure _
  · refine h.bind (h.key hv hindex) fun key => ?_
    exact h.bind (h.access (.deleteElement array key) (hdelete key)) fun _ => h.pure _

/-! ## Loops -/

omit hv in
theorem sequence {run run' : Stmt → Eval Flow} {body : List Stmt}
    (hr : ∀ s ∈ body, Q (run s) (run' s)) :
    Q (Call.sequence run body) (Call.sequence run' body) := by
  induction body with
  | nil => exact h.pure _
  | cons s rest ih =>
    obtain ⟨hs, hrest⟩ := List.forall_mem_cons.mp hr
    refine h.bind hs fun flow => ?_
    split
    · exact ih hrest
    · exact h.pure _

omit hv in
theorem loop {before before' after after' : Eval Bool} {body body' : Eval Flow}
    (hbefore : Q before before') (hbody : Q body body') (hafter : Q after after') (n : Nat) :
    Q (Stmt.loop before body after n) (Stmt.loop before' body' after' n) := by
  induction n with
  | zero => exact h.stop _
  | succ n ih =>
    refine h.bind hbefore fun go => ?_
    split
    · refine h.bind hbody fun flow => ?_
      have hnext : Q (do if ← after then Stmt.loop before body after n else return .normal)
          (do if ← after' then Stmt.loop before' body' after' n else return .normal) := by
        refine h.bind hafter fun go => ?_
        split
        · exact ih
        · exact h.pure _
      cases flow with
      | normal => exact hnext
      | continue_ => exact hnext
      | break_ => exact h.pure _
      | signal s => exact h.pure _
      | return_ v => exact h.pure _
    · exact h.pure _

omit hv in
theorem forKeys {var : String} (hvar : ∀ v, A (.setVar var v)) {body body' : Eval Flow}
    (hbody : Q body body') (keys : List String) :
    Q (Stmt.forKeys var body keys) (Stmt.forKeys var body' keys) := by
  induction keys with
  | nil => exact h.pure _
  | cons key keys ih =>
    refine h.bind (h.access (.setVar var (.ofText key)) (hvar _)) fun _ =>
      h.bind hbody fun flow => ?_
    cases flow with
    | normal => exact ih
    | continue_ => exact ih
    | break_ => exact h.pure _
    | signal s => exact h.pure _
    | return_ v => exact h.pure _

end RespectsExprs

/-! ## Output -/

namespace RespectsTerms

variable {A : Permit} {Q : ∀ ⦃α : Type⦄, Eval α → Eval α → Prop} (h : RespectsTerms A Q)

include h

theorem printRecord : Q Eval.printRecord Eval.printRecord :=
  h.bind h.scope fun _ => h.bind (h.write _) fun _ => h.bind h.scope fun _ => h.write _

variable {self self' : Meaning} {E : Expr → Prop}
  (hv : ∀ e, E e → Q (self.value e) (self'.value e))

include hv

theorem runPrint {args : List Expr} (hargs : ∀ e ∈ args, E e) :
    Q (Stmt.runPrint self args) (Stmt.runPrint self' args) := by
  unfold Stmt.runPrint
  split
  · exact h.bind h.printRecord fun _ => h.pure _
  · refine h.bind (h.printed hv hargs) fun _ => h.bind h.isPending fun _ => ?_
    dsimp only
    split
    · exact h.bind h.scope fun _ => h.bind (h.write _) fun _ => h.pure _
    · exact h.pure _

theorem runPrintf {format : Expr} {args : List Expr} (hformat : E format)
    (hargs : ∀ e ∈ args, E e) :
    Q (Stmt.runPrintf self format args) (Stmt.runPrintf self' format args) := by
  refine h.bind (h.text hv hformat) fun _ => h.bind (h.values hv hargs) fun _ => ?_
  refine h.bind h.isPending fun _ => ?_
  dsimp only
  split
  · exact h.bind (h.formatted _ _) fun _ => h.bind (h.write _) fun _ => h.pure _
  · exact h.pure _

end RespectsTerms

/-! ## Statements -/

/-- A relation that respects also what a statement does about a signal. -/
structure RespectsBodies (A : Permit) (Q : ∀ ⦃α : Type⦄, Eval α → Eval α → Prop) : Prop
    extends RespectsTerms A Q where
  takePending : Q Eval.takePending Eval.takePending

structure RespectsStatements (A : Permit) (Q : ∀ ⦃α : Type⦄, Eval α → Eval α → Prop) : Prop
    extends RespectsUnder A Q, RespectsBodies A Q

namespace RespectsBodies

variable {A : Permit} {Q : ∀ ⦃α : Type⦄, Eval α → Eval α → Prop} (h : RespectsBodies A Q)

include h

theorem unlessPending {x y : Eval Flow} (hx : Q x y) :
    Q (Stmt.unlessPending x) (Stmt.unlessPending y) := by
  refine h.bind h.takePending fun taken => ?_
  cases taken with
  | some s => exact h.pure _
  | none => exact hx

theorem settled {x y : Eval Flow} (hx : Q x y) :
    Q (x >>= Stmt.settled) (y >>= Stmt.settled) :=
  h.bind hx fun flow => h.unlessPending (h.pure flow)

/-- A rule for statements respects what its parts respect. -/
theorem stmtRule {self self' : Meaning} {E : Expr → Prop} {S : Stmt → Prop}
    (hv : ∀ e, E e → Q (self.value e) (self'.value e))
    (hr : ∀ s, S s → Q (self.run s) (self'.run s)) (fuel : Nat) {s : Stmt}
    (hs : s.Permitted A E S) : Q (s.rule self fuel) (s.rule self' fuel) := by
  cases s with
  | expr e => exact h.bind (hv e hs) fun _ => h.pure _
  | print args place => exact h.runPrint hv hs
  | printf format args place => exact h.runPrintf hv hs.1 hs.2
  | ifElse test ifTrue ifFalse place =>
    refine h.bind (h.isTrue hv hs.1) fun holds => h.bind h.isPending fun _ => ?_
    split
    · exact h.pure _
    · split
      · exact hr ifTrue hs.2.1
      · cases ifFalse with
        | some s => exact hr s (hs.2.2 s rfl)
        | none => exact h.pure _
  | whileLoop test body place =>
    have htest : Q (Stmt.loopTest self (some test)) (Stmt.loopTest self' (some test)) :=
      h.loopTest hv fun e he => by cases he; exact hs.1
    exact h.loop htest (hr body hs.2) (h.pure true) fuel
  | doWhile body test place =>
    have htest : Q (Stmt.loopTest self (some test)) (Stmt.loopTest self' (some test)) :=
      h.loopTest hv fun e he => by cases he; exact hs.1
    exact h.loop (h.pure true) (hr body hs.2) htest fuel
  | forLoop init test update body place =>
    obtain ⟨hinit, htest, hupdate, hbody⟩ := hs
    have hloop := h.loop (h.loopTest hv htest) (hr body hbody) (h.loopStep hv hupdate) fuel
    cases init with
    | none => exact hloop
    | some e => exact h.bind (hv e (hinit e rfl)) fun _ => h.unlessPending hloop
  | forIn var array body place =>
    obtain ⟨hkeys, hvar, hbody⟩ := hs
    exact h.bind (h.access (.arrayKeys array) hkeys) fun keys =>
      h.bind (h.aside _ (.arranged keys)) fun keys => h.forKeys hvar (hr body hbody) keys
  | block body place => exact h.sequence fun s hmem => hr s (hs s hmem)
  | breakLoop place => exact h.pure _
  | continueLoop place => exact h.pure _
  | next place => exact h.pure _
  | nextFile place => exact h.pure _
  | exit code place => exact h.bind (h.exitCode hv hs) fun _ => h.pure _
  | returnValue value place =>
    cases value with
    | none => exact h.pure _
    | some e => exact h.bind (hv e (hs e rfl)) fun _ => h.pure _
  | delete array index place => exact h.runDelete hv hs.1 hs.2.1 hs.2.2
  | empty => exact h.pure _

/-- What holds between the meanings of the parts and other meanings of them holds between the terms
themselves, if it still does once the rule is applied to the parts and, possibly, something is put
around that; calls have to be looked at on their own. -/
theorem evaluations {p : Program} {E : Expr → Prop} {S : Stmt → Prop} (self : Nat → Meaning)
    (hE : ∀ e, E e → e.Permitted A E) (hS : ∀ s, S s → s.Permitted A E S)
    (hargs : ∀ name args place, E (.call name args place) → ∀ e ∈ args, E e)
    (hzero : (∀ e, Q (eval p 0 e) ((self 0).value e)) ∧ ∀ s, Q (exec p 0 s) ((self 0).run s))
    (hvalue : ∀ n e, E e → Q (eval p (n + 1) e) (Eval.located e.place (e.rule p (self n))) →
      Q (eval p (n + 1) e) ((self (n + 1)).value e))
    (hrun : ∀ n s, S s → Q (exec p (n + 1) s) (s.rule (self n) n >>= Stmt.settled) →
      Q (exec p (n + 1) s) ((self (n + 1)).run s))
    (hcall : ∀ n, (∀ e, E e → Q (eval p n e) ((self n).value e)) →
      (∀ s, S s → Q (exec p n s) ((self n).run s)) → ∀ name f args place,
      p.function? name = some f → E (.call name args place) →
      Q (Call.user (meaning p n) f args place) (Call.user (self n) f args place))
    (n : Nat) :
    (∀ e, E e → Q (eval p n e) ((self n).value e)) ∧
      ∀ s, S s → Q (exec p n s) ((self n).run s) := by
  induction n with
  | zero => exact ⟨fun e _ => hzero.1 e, fun s _ => hzero.2 s⟩
  | succ n ih =>
    have hv : ∀ e, E e → Q ((meaning p n).value e) ((self n).value e) := ih.1
    have hr : ∀ s, S s → Q ((meaning p n).run s) ((self n).run s) := ih.2
    refine ⟨fun e he => hvalue n e he ?_, fun s hs => hrun n s hs ?_⟩
    · refine h.located e.place (h.exprRule hv (hE e he) fun name args place hcalls => ?_)
      subst hcalls
      cases hf : p.function? name with
      | none => exact h.hostCall hv name place hf (hargs name args place he)
      | some f =>
        unfold Call.named
        rw [hf]
        exact hcall n ih.1 ih.2 name f args place hf he
    · exact h.settled (h.stmtRule hv hr n (hS s hs))

end RespectsBodies
end Awk
