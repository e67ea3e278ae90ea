import Awk.Proofs.ArrayMarks
import Awk.Proofs.CallFrames

/-!
# Names that a body does not use as arrays

`Usage` lists the uses of names as arrays that the marks of parameters are made from.  Evaluation
accepts one more: a name in parentheses where a built-in function fills an array.  `wrapped` lists
these.  A term that does not have a name in either list takes the name for that of an array in none
of its own accesses; this is shown once for every form of terms.
-/

namespace Awk

/-! ## Names in parentheses -/

/-- The name that an expression is, within any number of parentheses. -/
def Expr.named? : Expr → Option String
  | .var name _ => some name
  | .group inner _ => inner.named?
  | _ => none

/-- The name that an expression is, within one or more parentheses. -/
def Expr.wrapped? : Expr → Option String
  | .group inner _ => inner.named?
  | _ => none

mutual

/-- The names in parentheses that built-in functions take for arrays to be filled. -/
def Expr.wrapped : Expr → List String
  | .number .. | .string .. | .regex .. | .var .. => []
  | .field e _ | .group e _ | .step _ e _ | .unary _ e _ => e.wrapped
  | .element _ indices _ => Expr.wrappeds indices
  | .contains key _ _ => Expr.wrappeds key
  | .arith _ l r _ | .relation _ l r _ | .logic _ l r _ | .concat l r _ => l.wrapped ++ r.wrapped
  | .assign _ target value _ => target.wrapped ++ value.wrapped
  | .cond test ifTrue ifFalse _ => test.wrapped ++ ifTrue.wrapped ++ ifFalse.wrapped
  | .matching subject pattern _ _ => subject.wrapped ++ pattern.wrapped
  | .call _ args _ => Expr.wrappeds args
  | .builtin b args _ => Expr.builtinWrappeds b 0 args
  | .getline target file _ => Expr.wrappedIn target ++ Expr.wrappedIn file

def Expr.wrappedIn : Option Expr → List String
  | none => []
  | some e => e.wrapped

def Expr.wrappeds : List Expr → List String
  | [] => []
  | e :: es => e.wrapped ++ Expr.wrappeds es

def Expr.builtinWrappeds (b : Builtin) (position : Nat) : List Expr → List String
  | [] => []
  | e :: es =>
    (if b.arrayPosition? = some position then e.wrapped?.toList else []) ++ e.wrapped ++
      Expr.builtinWrappeds b (position + 1) es

end

mutual

def Stmt.wrapped : Stmt → List String
  | .expr e => e.wrapped
  | .print args _ => Expr.wrappeds args
  | .printf format args _ => format.wrapped ++ Expr.wrappeds args
  | .ifElse test ifTrue ifFalse _ => test.wrapped ++ ifTrue.wrapped ++ Stmt.wrappedIn ifFalse
  | .whileLoop test body _ => test.wrapped ++ body.wrapped
  | .doWhile body test _ => test.wrapped ++ body.wrapped
  | .forLoop init test update body _ =>
    Expr.wrappedIn init ++ Expr.wrappedIn test ++ Expr.wrappedIn update ++ body.wrapped
  | .forIn _ _ body _ => body.wrapped
  | .block body _ => Stmt.wrappeds body
  | .exit code _ => Expr.wrappedIn code
  | .returnValue value _ => Expr.wrappedIn value
  | .delete _ index _ => Expr.wrappeds index
  | .breakLoop _ | .continueLoop _ | .next _ | .nextFile _ | .empty => []

def Stmt.wrappedIn : Option Stmt → List String
  | none => []
  | some s => s.wrapped

def Stmt.wrappeds : List Stmt → List String
  | [] => []
  | s :: ss => s.wrapped ++ Stmt.wrappeds ss

end

/-- The names in parentheses that the body has built-in functions fill. -/
def Function.wrapped (f : Function) : List String := Stmt.wrappeds f.body.body

/-! ## Uses -/

/-- A name is not used as an array, and not passed on to a parameter for one. -/
structure Usage.Spares (p : Program) (q : String) (u : Usage) : Prop where
  arrays : q ∉ u.arrays
  forwards : ∀ callee j g, (q, callee, j) ∈ u.forwards → p.function? callee = some g →
    g.isArrayParam j = false

namespace Usage

variable {p : Program} {q : String}

@[simp] theorem spares_none : Usage.none.Spares p q :=
  ⟨List.not_mem_nil, fun _ _ _ h => by cases h⟩

@[simp] theorem spares_append {a b : Usage} :
    (a ++ b).Spares p q ↔ a.Spares p q ∧ b.Spares p q := by
  constructor
  · rintro ⟨harrays, hforwards⟩
    exact ⟨⟨fun h => harrays (List.mem_append_left _ h),
        fun callee j g h => hforwards callee j g (List.mem_append_left _ h)⟩,
      ⟨fun h => harrays (List.mem_append_right _ h),
        fun callee j g h => hforwards callee j g (List.mem_append_right _ h)⟩⟩
  · rintro ⟨ha, hb⟩
    refine ⟨fun h => ?_, fun callee j g h => ?_⟩
    · rcases List.mem_append.mp h with h | h
      · exact ha.arrays h
      · exact hb.arrays h
    · rcases List.mem_append.mp h with h | h
      · exact ha.forwards callee j g h
      · exact hb.forwards callee j g h

@[simp] theorem spares_array {name : String} : (Usage.array name).Spares p q ↔ name ≠ q := by
  constructor
  · rintro ⟨harrays, -⟩ rfl
    exact harrays (List.mem_singleton_self _)
  · intro hne
    exact ⟨fun h => hne (List.mem_singleton.mp h).symm, fun _ _ _ h => by cases h⟩

/-- Terms of two parts. -/
theorem spares_both {a b : Usage} {v w : List String} :
    (a ++ b).Spares p q ∧ q ∉ v ++ w ↔ (a.Spares p q ∧ q ∉ v) ∧ b.Spares p q ∧ q ∉ w := by
  rw [spares_append, List.mem_append, not_or]
  tauto

/-- Terms that name an array. -/
theorem spares_array_both {name : String} {b : Usage} {w : List String} :
    (Usage.array name ++ b).Spares p q ∧ q ∉ w ↔ name ≠ q ∧ b.Spares p q ∧ q ∉ w := by
  rw [spares_append, spares_array, and_assoc]

end Usage

/-- The term does not use the name as an array in any way. -/
def Expr.Spares (p : Program) (q : String) (e : Expr) : Prop :=
  e.usage.Spares p q ∧ q ∉ e.wrapped

def Stmt.Spares (p : Program) (q : String) (s : Stmt) : Prop :=
  s.usage.Spares p q ∧ q ∉ s.wrapped

namespace Expr

variable {p : Program} {q : String}

theorem spares_usages : ∀ {es : List Expr},
    (usages es).Spares p q ∧ q ∉ wrappeds es ↔ ∀ e ∈ es, e.Spares p q
  | [] => by simp [usages, wrappeds]
  | e :: es => by
    have ih : (usages es).Spares p q ∧ q ∉ wrappeds es ↔ ∀ e ∈ es, e.Spares p q := spares_usages
    rw [List.forall_mem_cons, ← ih, usages, wrappeds, Usage.spares_both, Spares]

theorem spares_usage? {o : Option Expr} :
    (usage? o).Spares p q ∧ q ∉ wrappedIn o ↔ ∀ e ∈ o, e.Spares p q := by
  cases o with
  | none => simp [usage?, wrappedIn]
  | some e => simp [usage?, wrappedIn, Spares]

theorem argumentUsages_cons (callee : String) (k : Nat) (e : Expr) (es : List Expr) :
    argumentUsages callee k (e :: es) =
      (match e with
        | .var name _ => .forward name callee k
        | e => e.usage) ++ argumentUsages callee (k + 1) es := by
  cases e <;> rfl

theorem builtinUsages_cons (b : Builtin) (k : Nat) (e : Expr) (es : List Expr) :
    builtinUsages b k (e :: es) =
      (match e with
        | .var name _ => if b.arrayPosition? = some k then .array name else .none
        | e => e.usage) ++ builtinUsages b (k + 1) es := by
  cases e <;> rfl

/-- An argument of a call is a term like others, or a name that is passed on. -/
theorem spares_argument {callee : String} {k : Nat} {e : Expr}
    (h : (match e with
      | .var name _ => Usage.forward name callee k
      | e => e.usage).Spares p q) : e.usage.Spares p q := by
  cases e <;> first | exact h | exact Usage.spares_none

theorem spares_arguments {callee : String} : ∀ {k : Nat} {args : List Expr},
    (argumentUsages callee k args).Spares p q → q ∉ wrappeds args →
    (∀ e ∈ args, e.Spares p q) ∧ ∀ i place g, args[i]? = some (.var q place) →
      p.function? callee = some g → g.isArrayParam (k + i) = false
  | _, [], _, _ => ⟨fun _ he => (nomatch he), fun _ _ _ harg => (nomatch harg)⟩
  | k, e :: es, husage, hwrapped => by
    rw [argumentUsages_cons, Usage.spares_append] at husage
    simp only [wrappeds, List.mem_append, not_or] at hwrapped
    obtain ⟨hes, hrest⟩ := spares_arguments husage.2 hwrapped.2
    refine ⟨List.forall_mem_cons.mpr ⟨⟨spares_argument husage.1, hwrapped.1⟩, hes⟩, ?_⟩
    intro i place g harg hg
    cases i with
    | zero =>
      cases harg
      exact husage.1.forwards callee k g (List.mem_singleton_self _) hg
    | succ i =>
      have hmark := hrest i place g harg hg
      rw [Nat.add_right_comm] at hmark
      exact hmark

/-- The name that an expression has is the one it takes for that of an array. -/
theorem permittedArray_of_named {N : String → Prop} (e : Expr) (h : ∀ name ∈ e.named?, N name) :
    e.PermittedArray (Permit.arrays N) := by
  fun_induction Expr.PermittedArray (Permit.arrays N) e with
  | case1 name place =>
    intro name' hname
    cases hname
    exact h name rfl
  | case2 inner place ih => exact ih h
  | case3 e => exact trivial

/-- An argument of a built-in function is a term like others.  In the position of an array the
name that it has is another one. -/
theorem spares_builtinArgument {b : Builtin} {k : Nat} {e : Expr}
    (husage : (match e with
      | .var name _ => if b.arrayPosition? = some k then Usage.array name else .none
      | e => e.usage).Spares p q)
    (hwrapped : q ∉ if b.arrayPosition? = some k then e.wrapped?.toList else []) :
    e.usage.Spares p q ∧
      (b.arrayPosition? = some k → e.PermittedArray (Permit.arrays (· ≠ q))) := by
  refine ⟨by cases e <;> first | exact husage | exact Usage.spares_none, fun hk => ?_⟩
  rw [if_pos hk] at hwrapped
  refine permittedArray_of_named e fun name hname => ?_
  cases e with
  | var other place =>
    cases hname
    simp only [if_pos hk, Usage.spares_array] at husage
    exact husage
  | group inner place =>
    rintro rfl
    exact hwrapped (Option.mem_toList.mpr hname)
  | _ => cases hname

theorem spares_builtinArguments {b : Builtin} : ∀ {k : Nat} {args : List Expr},
    (builtinUsages b k args).Spares p q → q ∉ builtinWrappeds b k args →
    (∀ e ∈ args, e.Spares p q) ∧ ∀ i e, args[i]? = some e → b.arrayPosition? = some (k + i) →
      e.PermittedArray (Permit.arrays (· ≠ q))
  | _, [], _, _ => ⟨fun _ he => (nomatch he), fun _ _ harg => (nomatch harg)⟩
  | k, e :: es, husage, hwrapped => by
    rw [builtinUsages_cons, Usage.spares_append] at husage
    rw [builtinWrappeds, List.mem_append, List.mem_append, not_or, not_or] at hwrapped
    obtain ⟨hes, hrest⟩ := spares_builtinArguments husage.2 hwrapped.2
    obtain ⟨he, harray⟩ := spares_builtinArgument husage.1 hwrapped.1.1
    refine ⟨List.forall_mem_cons.mpr ⟨⟨he, hwrapped.1.2⟩, hes⟩, fun i e' harg hk => ?_⟩
    cases i with
    | zero =>
      cases harg
      exact harray hk
    | succ i => exact hrest i e' harg (by rw [hk, Nat.add_right_comm, Nat.add_assoc])

/-! ## Nodes -/

theorem Spares.permittedTarget {e : Expr} (h : e.Spares p q) :
    e.PermittedTarget (Permit.arrays (· ≠ q)) (Spares p q) := by
  fun_induction Expr.PermittedTarget (Permit.arrays (· ≠ q)) (Spares p q) e with
  | case1 name place =>
    have hnone : ∀ name ∈ (none : Option String), name ≠ q := fun name hname => by cases hname
    exact ⟨hnone, fun _ => hnone⟩
  | case2 array indices place =>
    obtain ⟨hne, hindices⟩ := Usage.spares_array_both.mp h
    have harray : ∀ name ∈ some array, name ≠ q := fun name hname => by
      cases hname
      exact hne
    exact ⟨fun key => ⟨harray, fun v => harray⟩, spares_usages.mp hindices⟩
  | case3 index place => exact h
  | case4 inner place ih => exact ih h
  | case5 e => exact trivial

end Expr

theorem Builtin.permitted_of_spares {p : Program} {q : String} {b : Builtin} {args : List Expr}
    (h : ∀ e ∈ args, e.Spares p q)
    (harray : ∀ i e, args[i]? = some e → b.arrayPosition? = some i →
      e.PermittedArray (Permit.arrays (· ≠ q))) :
    b.Permitted (Permit.arrays (· ≠ q)) (Expr.Spares p q) args := by
  unfold Builtin.Permitted
  split
  · next s array more =>
    obtain ⟨hs, -, hmore⟩ := List.forall_mem_cons.mp h |>.imp_right List.forall_mem_cons.mp
    exact ⟨hs, harray 1 array rfl rfl, hmore⟩
  · next pattern replacement more =>
    obtain ⟨hpattern, hreplacement, hmore⟩ :=
      List.forall_mem_cons.mp h |>.imp_right List.forall_mem_cons.mp
    exact ⟨hpattern, hreplacement, fun e he => (hmore e (List.mem_of_head? he)).permittedTarget⟩
  · next pattern replacement more =>
    obtain ⟨hpattern, hreplacement, hmore⟩ :=
      List.forall_mem_cons.mp h |>.imp_right List.forall_mem_cons.mp
    exact ⟨hpattern, hreplacement, fun e he => (hmore e (List.mem_of_head? he)).permittedTarget⟩
  · next array => exact harray 0 array rfl rfl
  · next array => exact harray 0 array rfl rfl
  · exact h

theorem ne_of_mem_some {q array : String} (hne : array ≠ q) : ∀ name ∈ some array, name ≠ q := by
  intro name hname
  cases hname
  exact hne

/-- A node of a term that spares a name takes the name for that of an array in none of its
accesses. -/
theorem Expr.Spares.permitted {p : Program} {q : String} {e : Expr} (h : e.Spares p q) :
    e.Permitted (Permit.arrays (· ≠ q)) (Expr.Spares p q) := by
  cases e with
  | number x place => exact trivial
  | string s place => exact trivial
  | regex pattern place => exact trivial
  | call name args place => exact trivial
  | var name place => exact fun _ hname => (nomatch hname)
  | field e place => exact h
  | unary op e place => exact h
  | group e place => exact h
  | element array indices place =>
    obtain ⟨hne, hindices⟩ := Usage.spares_array_both.mp h
    exact ⟨fun key => ne_of_mem_some hne, Expr.spares_usages.mp hindices⟩
  | contains key array place =>
    obtain ⟨hne, hkey⟩ := Usage.spares_array_both.mp h
    exact ⟨fun text => ne_of_mem_some hne, Expr.spares_usages.mp hkey⟩
  | arith op l r place => exact Usage.spares_both.mp h
  | relation op l r place => exact Usage.spares_both.mp h
  | logic op l r place => exact Usage.spares_both.mp h
  | concat l r place => exact Usage.spares_both.mp h
  | matching subject pattern negated place => exact Usage.spares_both.mp h
  | assign op target value place =>
    obtain ⟨htarget, hvalue⟩ := Usage.spares_both.mp h
    exact ⟨Expr.Spares.permittedTarget htarget, hvalue⟩
  | step how target place => exact Expr.Spares.permittedTarget (e := target) h
  | cond test ifTrue ifFalse place =>
    obtain ⟨hboth, hfalse⟩ := Usage.spares_both.mp h
    obtain ⟨htest, htrue⟩ := Usage.spares_both.mp hboth
    exact ⟨htest, htrue, hfalse⟩
  | builtin b args place =>
    obtain ⟨hargs, harray⟩ := Expr.spares_builtinArguments h.1 h.2
    exact Builtin.permitted_of_spares hargs fun i e harg hi =>
      harray i e harg (by rw [hi, Nat.zero_add])
  | getline target file place =>
    obtain ⟨htarget, hfile⟩ := Usage.spares_both.mp h
    exact ⟨fun e he => (Expr.spares_usage?.mp htarget e he).permittedTarget,
      Expr.spares_usage?.mp hfile⟩

namespace Stmt

variable {p : Program} {q : String}

theorem spares_usages : ∀ {ss : List Stmt},
    (usages ss).Spares p q ∧ q ∉ wrappeds ss ↔ ∀ s ∈ ss, s.Spares p q
  | [] => by simp [usages, wrappeds]
  | s :: ss => by
    have ih : (usages ss).Spares p q ∧ q ∉ wrappeds ss ↔ ∀ s ∈ ss, s.Spares p q := spares_usages
    rw [List.forall_mem_cons, ← ih, usages, wrappeds, Usage.spares_both, Spares]

theorem Spares.permitted {s : Stmt} (h : s.Spares p q) :
    s.Permitted (Permit.arrays (· ≠ q)) (Expr.Spares p q) (Spares p q) := by
  cases s with
  | expr e => exact h
  | print args place => exact Expr.spares_usages.mp h
  | printf format args place =>
    obtain ⟨hformat, hargs⟩ := Usage.spares_both.mp h
    exact ⟨hformat, Expr.spares_usages.mp hargs⟩
  | ifElse test ifTrue ifFalse place =>
    obtain ⟨hboth, hfalse⟩ := Usage.spares_both.mp h
    obtain ⟨htest, htrue⟩ := Usage.spares_both.mp hboth
    refine ⟨htest, htrue, fun s hs => ?_⟩
    cases hs
    exact hfalse
  | whileLoop test body place => exact Usage.spares_both.mp h
  | doWhile body test place => exact Usage.spares_both.mp h
  | forLoop init test update body place =>
    obtain ⟨hheader, hbody⟩ := Usage.spares_both.mp h
    obtain ⟨hboth, hupdate⟩ := Usage.spares_both.mp hheader
    obtain ⟨hinit, htest⟩ := Usage.spares_both.mp hboth
    exact ⟨Expr.spares_usage?.mp hinit, Expr.spares_usage?.mp htest,
      Expr.spares_usage?.mp hupdate, hbody⟩
  | forIn var array body place =>
    obtain ⟨hne, hbody⟩ := Usage.spares_array_both.mp h
    exact ⟨ne_of_mem_some hne, fun _ _ hname => (nomatch hname), hbody⟩
  | block body place => exact spares_usages.mp h
  | exit code place => exact Expr.spares_usage?.mp h
  | returnValue value place => exact Expr.spares_usage?.mp h
  | delete array index place =>
    obtain ⟨hne, hindex⟩ := Usage.spares_array_both.mp h
    exact ⟨ne_of_mem_some hne, fun key => ne_of_mem_some hne, Expr.spares_usages.mp hindex⟩
  | breakLoop place => exact trivial
  | continueLoop place => exact trivial
  | next place => exact trivial
  | nextFile place => exact trivial
  | empty => exact trivial

end Stmt

/-- What a call has for arguments spares a name, and passes it on to no parameter for an array. -/
theorem Expr.Spares.arguments {p : Program} {q name : String} {args : List Expr} {place : Location}
    (h : (Expr.call name args place).Spares p q) :
    (∀ e ∈ args, e.Spares p q) ∧ ∀ f, p.function? name = some f → ∀ i x place', f.isArrayParam i →
      args[i]? = some (.var x place') → x ≠ q := by
  obtain ⟨hargs, hforward⟩ := Expr.spares_arguments h.1 h.2
  refine ⟨hargs, fun f hf i x place' hmark harg => ?_⟩
  rintro rfl
  have hnot := hforward i place' f harg hf
  rw [Nat.zero_add, hmark] at hnot
  cases hnot

/-- A parameter that is not marked and that no built-in function fills in parentheses is spared
by the body of its function. -/
theorem Program.Resolved.spares {p : Program} (hp : p.Resolved) {name : String} {f : Function}
    (hf : p.function? name = some f) {i : Nat} {q : String} (hq : f.params[i]? = some q)
    (hmark : f.isArrayParam i = false) (hwrapped : q ∉ f.wrapped) :
    ∀ s ∈ f.body.body, s.Spares p q := by
  have hmem : f ∈ p.functions := List.mem_of_find?_eq_some hf
  have hnot : ¬f.isArrayParam i := by rw [hmark]; exact Bool.false_ne_true
  refine Stmt.spares_usages.mp ⟨⟨fun hused => ?_, fun callee j g hforward hg => ?_⟩, hwrapped⟩
  · exact hnot ((hp.marked f hmem).direct i q hq hused)
  · by_contra hj
    exact hnot (hp.closed f hmem i q hq ⟨callee, j, g, hforward, hg, by simpa using hj⟩)

end Awk
