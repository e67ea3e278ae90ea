import Awk.Proofs.Subterms
import Mathlib.Logic.Relation

/-!
# Forwarded arrays

A parameter stands for an array if a chain of calls that pass it on by its name alone ends at a
parameter that is used as an array in the body of its function: `Program.Reaches`.  What a body does
with names is said of its nodes, one by one (`Function.Makes`), and what the analysis collects is
just that.

Marks are made round by round.  Every mark has such a chain behind it, whatever has been marked
before, and where nothing is left to mark every chain has made its marks; so the order in which
marks are made is all the same, and that of functions and calls with it.
-/

namespace Awk

/-! ## Nodes of terms -/

namespace Expr

theorem sizeOf_lt_of_mem_parts {part e : Expr} (h : part ∈ e.parts) : sizeOf part < sizeOf e := by
  cases e with
  | number | string | regex | var => cases h
  | field | unary | group | step =>
    rw [List.mem_singleton.mp h]
    simp only [field.sizeOf_spec, unary.sizeOf_spec, group.sizeOf_spec, step.sizeOf_spec]
    omega
  | element | call | builtin | contains =>
    simp only [parts] at h
    have hlt := List.sizeOf_lt_of_mem h
    simp only [element.sizeOf_spec, call.sizeOf_spec, builtin.sizeOf_spec, contains.sizeOf_spec]
    omega
  | arith | relation | logic | concat | matching | assign =>
    simp only [parts, List.mem_cons, List.not_mem_nil, or_false] at h
    simp only [arith.sizeOf_spec, relation.sizeOf_spec, logic.sizeOf_spec, concat.sizeOf_spec,
      matching.sizeOf_spec, assign.sizeOf_spec]
    rcases h with rfl | rfl <;> omega
  | cond =>
    simp only [parts, List.mem_cons, List.not_mem_nil, or_false] at h
    simp only [cond.sizeOf_spec]
    rcases h with rfl | rfl | rfl <;> omega
  | getline target file =>
    simp only [parts, List.mem_append, Option.mem_toList] at h
    rcases h with rfl | rfl <;> simp <;> omega

theorem induction_parts {motive : Expr → Prop}
    (node : ∀ e, (∀ part ∈ e.parts, motive part) → motive e) (e : Expr) : motive e :=
  node e fun part _ => induction_parts node part
termination_by sizeOf e
decreasing_by exact sizeOf_lt_of_mem_parts ‹_›

/-- Some node of the expression has the property. -/
inductive Somewhere (P : Expr → Prop) : Expr → Prop where
  | here {e : Expr} : P e → Somewhere P e
  | part {e part : Expr} : part ∈ e.parts → Somewhere P part → Somewhere P e

end Expr

namespace Stmt

theorem sizeOf_lt_of_mem_parts {part s : Stmt} (h : part ∈ s.parts) : sizeOf part < sizeOf s := by
  cases s with
  | ifElse test ifTrue ifFalse place =>
    simp only [parts, List.mem_cons, Option.mem_toList] at h
    rcases h with rfl | rfl <;> simp <;> omega
  | whileLoop | doWhile | forLoop | forIn =>
    rw [List.mem_singleton.mp h]
    simp only [whileLoop.sizeOf_spec, doWhile.sizeOf_spec, forLoop.sizeOf_spec, forIn.sizeOf_spec]
    omega
  | block body place =>
    simp only [parts] at h
    have hlt := List.sizeOf_lt_of_mem h
    simp only [block.sizeOf_spec]
    omega
  | _ => cases h

theorem induction_parts {motive : Stmt → Prop}
    (node : ∀ s, (∀ part ∈ s.parts, motive part) → motive s) (s : Stmt) : motive s :=
  node s fun part _ => induction_parts node part
termination_by sizeOf s
decreasing_by exact sizeOf_lt_of_mem_parts ‹_›

/-- Some node of the statement has the property that is asked of its kind. -/
inductive Somewhere (P : Expr → Prop) (S : Stmt → Prop) : Stmt → Prop where
  | here {s : Stmt} : S s → Somewhere P S s
  | expr {s : Stmt} {e : Expr} : e ∈ s.exprs → e.Somewhere P → Somewhere P S s
  | part {s part : Stmt} : part ∈ s.parts → Somewhere P S part → Somewhere P S s

end Stmt

/-! ## Uses of names -/

/-- What can be done with a name that has a bearing on arrays. -/
inductive NameUse where
  | array (name : String)
  | forward (name callee : String) (position : Nat)

/-- What a node of an expression does with names itself: it subscripts one, asks for membership, has
a built-in function fill one or passes one on. -/
inductive Expr.Makes : Expr → NameUse → Prop where
  | subscript (array : String) (indices : List Expr) (place : Location) :
      Makes (.element array indices place) (.array array)
  | member (key : List Expr) (array : String) (place : Location) :
      Makes (.contains key array place) (.array array)
  | split {args : List Expr} {name : String} {place' : Location} (place : Location) :
      args[1]? = some (.var name place') → Makes (.builtin .split args place) (.array name)
  | asort {args : List Expr} {name : String} {place' : Location} (place : Location) :
      args[0]? = some (.var name place') → Makes (.builtin .asort args place) (.array name)
  | asorti {args : List Expr} {name : String} {place' : Location} (place : Location) :
      args[0]? = some (.var name place') → Makes (.builtin .asorti args place) (.array name)
  | pass {args : List Expr} {i : Nat} {name : String} {place' : Location} (callee : String)
      (place : Location) : args[i]? = some (.var name place') →
      Makes (.call callee args place) (.forward name callee i)

/-- What a statement does with names itself: it runs over an array or deletes from it. -/
inductive Stmt.Makes : Stmt → NameUse → Prop where
  | forIn (var array : String) (body : Stmt) (place : Location) :
      Makes (.forIn var array body place) (.array array)
  | delete (array : String) (index : List Expr) (place : Location) :
      Makes (.delete array index place) (.array array)

/-- Somewhere in the body a name is used in this way. -/
def Function.Makes (f : Function) (u : NameUse) : Prop :=
  ∃ s ∈ f.body.body, s.Somewhere (·.Makes u) (·.Makes u)

namespace Usage

def Has (usage : Usage) : NameUse → Prop
  | .array name => name ∈ usage.arrays
  | .forward name callee position => (name, callee, position) ∈ usage.forwards

variable {u : NameUse}

@[simp] theorem has_none : ¬Usage.none.Has u := by
  cases u <;> exact List.not_mem_nil

@[simp] theorem has_append {a b : Usage} : (a ++ b).Has u ↔ a.Has u ∨ b.Has u := by
  cases u <;> exact List.mem_append

@[simp] theorem has_array {name : String} : (Usage.array name).Has u ↔ u = .array name := by
  cases u <;> simp [Has, Usage.array]

@[simp] theorem has_forward {name callee : String} {position : Nat} :
    (Usage.forward name callee position).Has u ↔ u = .forward name callee position := by
  cases u <;> simp [Has, Usage.forward]

end Usage

namespace Expr

variable {u : NameUse}

theorem usages_has {es : List Expr} : (usages es).Has u ↔ ∃ e ∈ es, e.usage.Has u := by
  induction es with
  | nil => simp [usages]
  | cons e es ih => simp [usages, ih]

theorem usage?_has {o : Option Expr} : (usage? o).Has u ↔ ∃ e ∈ o, e.usage.Has u := by
  cases o <;> simp [usage?]

/-- Arguments that are looked at one after the other: some argument has a use of its own, from the
position it stands at, or there is a use within some argument. -/
theorem positions_has (walk : Nat → List Expr → Usage) (A : Nat → Expr → Prop)
    (hnil : ∀ k, walk k [] = .none)
    (hcons : ∀ k e es, (walk k (e :: es)).Has u ↔
      (A k e ∨ e.usage.Has u) ∨ (walk (k + 1) es).Has u) : ∀ (k : Nat) (args : List Expr),
    (walk k args).Has u ↔
      (∃ i e, args[i]? = some e ∧ A (k + i) e) ∨ ∃ e ∈ args, e.usage.Has u
  | k, [] => by simp [hnil]
  | k, e :: es => by
    have hpositions : (∃ i e', (e :: es)[i]? = some e' ∧ A (k + i) e') ↔
        A k e ∨ ∃ i e', es[i]? = some e' ∧ A (k + 1 + i) e' := by
      constructor
      · rintro ⟨i, e', he, hA⟩
        cases i with
        | zero =>
          cases he
          exact .inl hA
        | succ i => exact .inr ⟨i, e', he, by rwa [Nat.add_assoc, Nat.add_comm 1]⟩
      · rintro (hA | ⟨i, e', he, hA⟩)
        · exact ⟨0, e, rfl, hA⟩
        · exact ⟨i + 1, e', he, by rwa [Nat.add_comm i, ← Nat.add_assoc]⟩
    rw [hcons, positions_has walk A hnil hcons (k + 1) es, hpositions, List.exists_mem_cons_iff]
    exact or_or_or_comm

theorem argumentUsages_has {callee : String} {args : List Expr} :
    (argumentUsages callee 0 args).Has u ↔
      (∃ i name place, args[i]? = some (.var name place) ∧ u = .forward name callee i) ∨
        ∃ e ∈ args, e.usage.Has u := by
  rw [positions_has (argumentUsages callee)
    (fun k e => ∃ name place, e = .var name place ∧ u = .forward name callee k)
    (fun k => rfl) (fun k e es => ?_)]
  · simp only [Nat.zero_add]
    refine or_congr_left ⟨?_, ?_⟩
    · rintro ⟨i, _, he, name, place, rfl, hu⟩
      exact ⟨i, name, place, he, hu⟩
    · rintro ⟨i, name, place, he, hu⟩
      exact ⟨i, _, he, name, place, rfl, hu⟩
  · rw [argumentUsages_cons, Usage.has_append]
    cases e <;> simp [usage]

theorem builtinUsages_has {b : Builtin} {args : List Expr} :
    (builtinUsages b 0 args).Has u ↔
      (∃ i name place, args[i]? = some (.var name place) ∧ b.arrayPosition? = some i ∧
        u = .array name) ∨ ∃ e ∈ args, e.usage.Has u := by
  rw [positions_has (builtinUsages b)
    (fun k e => ∃ name place, e = .var name place ∧ b.arrayPosition? = some k ∧
      u = .array name)
    (fun k => rfl) (fun k e es => ?_)]
  · simp only [Nat.zero_add]
    refine or_congr_left ⟨?_, ?_⟩
    · rintro ⟨i, _, he, name, place, rfl, hu⟩
      exact ⟨i, name, place, he, hu⟩
    · rintro ⟨i, name, place, he, hu⟩
      exact ⟨i, _, he, name, place, rfl, hu⟩
  · rw [builtinUsages_cons, Usage.has_append]
    cases e with
    | var name place =>
      by_cases hk : b.arrayPosition? = some k <;> simp [hk, usage]
    | _ => simp

/-- Built-in functions fill the array that they are given by its name. -/
theorem makes_builtin {b : Builtin} {args : List Expr} {place : Location} :
    (builtin b args place).Makes u ↔ ∃ i name place', args[i]? = some (.var name place') ∧
      b.arrayPosition? = some i ∧ u = .array name := by
  constructor
  · rintro (_ | _ | ⟨_, hname⟩ | ⟨_, hname⟩ | ⟨_, hname⟩ | _) <;> exact ⟨_, _, _, hname, rfl, rfl⟩
  · rintro ⟨i, name, place', hname, hi, rfl⟩
    cases b <;> cases hi
    · exact .split place hname
    · exact .asort place hname
    · exact .asorti place hname

theorem makes_call {callee : String} {args : List Expr} {place : Location} :
    (call callee args place).Makes u ↔ ∃ i name place', args[i]? = some (.var name place') ∧
      u = .forward name callee i := by
  constructor
  · rintro (_ | _ | _ | _ | _ | ⟨_, _, hname⟩)
    exact ⟨_, _, _, hname, rfl⟩
  · rintro ⟨i, name, place', hname, rfl⟩
    exact .pass callee place hname

/-- What is collected at a node: what it does itself, and what is collected below. -/
theorem usage_has_node {e : Expr} :
    e.usage.Has u ↔ e.Makes u ∨ ∃ part ∈ e.parts, part.usage.Has u := by
  cases e with
  | element array indices place =>
    rw [usage, Usage.has_append, Usage.has_array, usages_has]
    refine or_congr_left ⟨?_, ?_⟩
    · rintro rfl
      exact .subscript array indices place
    · rintro ⟨⟩
      rfl
  | contains key array place =>
    rw [usage, Usage.has_append, Usage.has_array, usages_has]
    refine or_congr_left ⟨?_, ?_⟩
    · rintro rfl
      exact .member key array place
    · rintro ⟨⟩
      rfl
  | call callee args place => rw [usage, argumentUsages_has, makes_call, parts]
  | builtin b args place => rw [usage, builtinUsages_has, makes_builtin, parts]
  | getline target file place =>
    have hnone : ¬(getline target file place).Makes u := by rintro ⟨⟩
    rw [or_iff_right hnone, usage, Usage.has_append, usage?_has, usage?_has, parts]
    simp only [List.mem_append, Option.mem_toList, Option.mem_def, or_and_right, exists_or]
  | _ =>
    rw [or_iff_right (by rintro ⟨⟩)]
    simp [usage, parts, or_assoc]

/-- What is collected is what the nodes do. -/
theorem usage_has (e : Expr) : e.usage.Has u ↔ e.Somewhere (·.Makes u) := by
  induction e using induction_parts with
  | node e ih =>
    rw [usage_has_node]
    constructor
    · rintro (hhere | ⟨part, hpart, hbelow⟩)
      · exact .here hhere
      · exact .part hpart ((ih part hpart).mp hbelow)
    · rintro (hhere | @⟨_, part, hpart, hbelow⟩)
      · exact .inl hhere
      · exact .inr ⟨part, hpart, (ih part hpart).mpr hbelow⟩

end Expr

namespace Stmt

variable {u : NameUse}

theorem usages_has {ss : List Stmt} : (usages ss).Has u ↔ ∃ s ∈ ss, s.usage.Has u := by
  induction ss with
  | nil => simp [usages]
  | cons s ss ih => simp [usages, ih]

theorem usage?_has {o : Option Stmt} : (usage? o).Has u ↔ ∃ s ∈ o, s.usage.Has u := by
  cases o <;> simp [usage?]

/-- What is collected at a statement: what it does itself, and what is collected below. -/
theorem usage_has_node {s : Stmt} :
    s.usage.Has u ↔
      s.Makes u ∨ (∃ e ∈ s.exprs, e.usage.Has u) ∨ ∃ part ∈ s.parts, part.usage.Has u := by
  cases s with
  | forIn var array body place =>
    have hmakes : (forIn var array body place).Makes u ↔ u = .array array := by
      constructor
      · rintro ⟨⟩
        rfl
      · rintro rfl
        exact .forIn var array body place
    simp [hmakes, usage, exprs, parts]
  | delete array index place =>
    have hmakes : (delete array index place).Makes u ↔ u = .array array := by
      constructor
      · rintro ⟨⟩
        rfl
      · rintro rfl
        exact .delete array index place
    simp [hmakes, usage, exprs, parts, Expr.usages_has]
  | _ =>
    rw [or_iff_right (by rintro ⟨⟩)]
    simp [usage, exprs, parts, Expr.usages_has, Expr.usage?_has, usages_has, usage?_has, or_assoc,
      or_and_right, exists_or]

theorem usage_has (s : Stmt) : s.usage.Has u ↔ s.Somewhere (·.Makes u) (·.Makes u) := by
  induction s using induction_parts with
  | node s ih =>
    rw [usage_has_node]
    constructor
    · rintro (hhere | ⟨e, he, huse⟩ | ⟨part, hpart, hbelow⟩)
      · exact .here hhere
      · exact .expr he (e.usage_has.mp huse)
      · exact .part hpart ((ih part hpart).mp hbelow)
    · rintro (hhere | @⟨_, e, he, huse⟩ | @⟨_, part, hpart, hbelow⟩)
      · exact .inl hhere
      · exact .inr (.inl ⟨e, he, e.usage_has.mpr huse⟩)
      · exact .inr (.inr ⟨part, hpart, (ih part hpart).mpr hbelow⟩)

end Stmt

theorem Function.usage_has {f : Function} {u : NameUse} : f.usage.Has u ↔ f.Makes u := by
  rw [Function.usage, Stmt.usages_has, Function.Makes]
  simp only [Stmt.usage_has]

/-! ## Chains -/

/-- A parameter, by the name of its function and its position. -/
structure Slot where
  function : String
  position : Nat

namespace Program

/-- The body of its function makes this use of the parameter. -/
def Makes (p : Program) (slot : Slot) (use : String → NameUse) : Prop :=
  ∃ f q, p.function? slot.function = some f ∧ f.params[slot.position]? = some q ∧ f.Makes (use q)

def UsesDirectly (p : Program) (slot : Slot) : Prop := p.Makes slot .array

/-- The first parameter is passed on by its name, for the second one. -/
def Forwards (p : Program) (slot next : Slot) : Prop :=
  p.Makes slot (.forward · next.function next.position)

/-- The parameter is passed on, from one function to the next, until one uses it as an array. -/
def Reaches (p : Program) (slot : Slot) : Prop :=
  ∃ final, Relation.ReflTransGen p.Forwards slot final ∧ p.UsesDirectly final

theorem reaches_of_usesDirectly {p : Program} {slot : Slot} (h : p.UsesDirectly slot) :
    p.Reaches slot :=
  ⟨slot, .refl, h⟩

theorem reaches_of_forwards {p : Program} {slot next : Slot} (h : p.Forwards slot next)
    (hnext : p.Reaches next) : p.Reaches slot := by
  obtain ⟨final, hchain, huse⟩ := hnext
  exact ⟨final, hchain.head h, huse⟩

end Program

/-! ## Markings -/

namespace Function

/-- The function without marks. -/
def bare (f : Function) : Function := { f with arrayParams := [] }

variable {f g : Function}

theorem name_eq_of_bare (h : f.bare = g.bare) : f.name = g.name := by
  show f.bare.name = g.bare.name
  rw [h]

theorem params_eq_of_bare (h : f.bare = g.bare) : f.params = g.params := by
  show f.bare.params = g.bare.params
  rw [h]

theorem makes_iff_of_bare (h : f.bare = g.bare) {u : NameUse} : f.Makes u ↔ g.Makes u := by
  show f.bare.Makes u ↔ g.bare.Makes u
  rw [h]

theorem eq_of_bare (h : f.bare = g.bare) (hmarks : f.arrayParams = g.arrayParams) : f = g := by
  cases f
  cases g
  cases h
  cases hmarks
  rfl

theorem arrayParams_eq (hlength : f.arrayParams.length = g.arrayParams.length)
    (h : ∀ i, f.isArrayParam i ↔ g.isArrayParam i) : f.arrayParams = g.arrayParams := by
  refine List.ext_getElem hlength fun i hi hi' => ?_
  have hmark := h i
  rw [isArrayParam, isArrayParam, List.getElem?_eq_getElem hi, List.getElem?_eq_getElem hi',
    Option.getD_some, Option.getD_some] at hmark
  exact Bool.eq_iff_iff.mpr hmark

theorem MarkedMore.bare_eq {functions : List Function} (h : f.MarkedMore functions g) :
    g.bare = f.bare := by
  rw [h.same]
  rfl

theorem MarkedMore.marked {functions : List Function} (h : f.MarkedMore functions g)
    (hf : f.Marked) : g.Marked := by
  have hparams := params_eq_of_bare h.bare_eq
  refine ⟨?_, fun i q hq huse => h.kept i (hf.direct i q (hparams ▸ hq) ?_)⟩
  · rw [h.length, hf.length, hparams]
  · rw [h.same] at huse
    exact huse

end Function

namespace Program

/-- With distinct names a function is found by its own. -/
theorem find?_name {functions : List Function} (h : (functions.map (·.name)).Nodup)
    {f : Function} (hf : f ∈ functions) : functions.find? (·.name == f.name) = some f := by
  induction functions with
  | nil => cases hf
  | cons g rest ih =>
    rw [List.map_cons, List.nodup_cons] at h
    rw [List.find?_cons]
    rcases List.mem_cons.mp hf with rfl | hf
    · rw [beq_self_eq_true]
    · have hne : g.name ≠ f.name := fun heq => h.1 (heq ▸ List.mem_map_of_mem hf)
      rw [beq_eq_false_iff_ne.mpr hne]
      exact ih h.2 hf

/-- What is true of the marks all the way: functions are the same but for their marks, what is used
directly is marked, and marks have chains behind them. -/
structure Marking (p : Program) (functions : List Function) : Prop where
  same : functions.map Function.bare = p.functions.map Function.bare
  marked : ∀ f ∈ functions, f.Marked
  reaches : ∀ f ∈ functions, ∀ i, f.isArrayParam i → p.Reaches ⟨f.name, i⟩

namespace Marking

variable {p : Program} {functions functions' : List Function}

theorem names (h : p.Marking functions) :
    functions.map (·.name) = p.functions.map (·.name) := by
  have hnames := congrArg (List.map Function.name) h.same
  rw [List.map_map, List.map_map] at hnames
  exact hnames

/-- Functions are found as before. -/
theorem find?_of_function? (h : p.Marking functions) {name : String} {f₀ : Function}
    (hf₀ : p.function? name = some f₀) :
    ∃ f, functions.find? (·.name == name) = some f ∧ f.bare = f₀.bare := by
  have hfound := congrArg (List.find? (·.name == name)) h.same
  rw [List.find?_map, List.find?_map] at hfound
  refine Option.map_eq_some_iff.mp (hfound.trans ?_)
  exact congrArg (Option.map Function.bare) hf₀

/-- The function of the program that a marked one comes from. -/
theorem original (h : p.Marking functions) (hnames : (p.functions.map (·.name)).Nodup)
    {f : Function} (hf : f ∈ functions) :
    ∃ f₀, p.function? f.name = some f₀ ∧ f₀.bare = f.bare := by
  have hmem : f.bare ∈ p.functions.map Function.bare := h.same ▸ List.mem_map_of_mem hf
  obtain ⟨f₀, hf₀, hsame⟩ := List.mem_map.mp hmem
  refine ⟨f₀, ?_, hsame⟩
  rw [← Function.name_eq_of_bare hsame]
  exact find?_name hnames hf₀

/-- The marks to begin with. -/
theorem direct (hnames : (p.functions.map (·.name)).Nodup) :
    p.Marking (p.functions.map Function.markDirect) := by
  refine ⟨?_, fun f hf => ?_, fun f hf i hmark => ?_⟩
  · rw [List.map_map]
    rfl
  · obtain ⟨f₀, -, rfl⟩ := List.mem_map.mp hf
    exact f₀.markDirect_marked
  · obtain ⟨f₀, hf₀, rfl⟩ := List.mem_map.mp hf
    rw [Function.isArrayParam, Function.markDirect, List.getElem?_map] at hmark
    cases hq : f₀.params[i]? with
    | none =>
      rw [hq] at hmark
      cases hmark
    | some q =>
      rw [hq] at hmark
      have huse : q ∈ f₀.usage.arrays := List.contains_iff_mem.mp hmark
      exact reaches_of_usesDirectly ⟨f₀, q, find?_name hnames hf₀, hq, Function.usage_has.mp huse⟩

/-- One more step of marking: what it marks is passed on to something that has a chain. -/
theorem step (h : p.Marking functions) (hnames : (p.functions.map (·.name)).Nodup)
    (hmore : MarksMore functions functions') : p.Marking functions' := by
  have hfrom : ∀ f' ∈ functions', ∃ f ∈ functions, f.MarkedMore functions f' := by
    intro f' hf'
    obtain ⟨i, hi, rfl⟩ := List.mem_iff_getElem.mp hf'
    have hlength := hmore.length_eq
    exact ⟨functions[i], List.getElem_mem _, hmore.get (by omega) hi⟩
  refine ⟨?_, fun f' hf' => ?_, fun f' hf' i hmark => ?_⟩
  · refine Eq.trans ?_ h.same
    rw [← List.forall₂_eq_eq_eq, List.forall₂_map_left_iff, List.forall₂_map_right_iff]
    exact List.Forall₂.flip (hmore.imp fun f f' hf => hf.bare_eq)
  · obtain ⟨f, hf, hf'⟩ := hfrom f' hf'
    exact hf'.marked (h.marked f hf)
  · obtain ⟨f, hf, hf'⟩ := hfrom f' hf'
    rw [hf'.same]
    rcases hf'.passed i hmark with hmark | ⟨q, hq, callee, j, g, huse, hg, hmark⟩
    · exact h.reaches f hf i hmark
    · obtain ⟨f₀, hf₀, hsame⟩ := h.original hnames hf
      have hforwards : p.Forwards ⟨f.name, i⟩ ⟨callee, j⟩ := by
        refine ⟨f₀, q, hf₀, Function.params_eq_of_bare hsame ▸ hq, ?_⟩
        exact (Function.makes_iff_of_bare hsame).mpr (Function.usage_has.mp huse)
      have hname : g.name = callee := by simpa using List.find?_some hg
      refine reaches_of_forwards hforwards ?_
      rw [← hname]
      exact h.reaches g (List.mem_of_find?_eq_some hg) j hmark

/-- However many steps there are. -/
theorem steps (h : p.Marking functions) (hnames : (p.functions.map (·.name)).Nodup)
    (hmore : Relation.ReflTransGen MarksMore functions functions') : p.Marking functions' := by
  induction hmore with
  | refl => exact h
  | tail _ hstep ih => exact ih.step hnames hstep

/-- Where nothing is left to be marked, a chain has marked all parameters on its way. -/
theorem isArrayParam_of_reaches (h : p.Marking functions) (hclosed : Closed functions)
    {slot : Slot} (hreaches : p.Reaches slot) :
    ∃ f, functions.find? (·.name == slot.function) = some f ∧ f.isArrayParam slot.position := by
  obtain ⟨final, hchain, f₀, q, hf₀, hq, huse⟩ := hreaches
  induction hchain using Relation.ReflTransGen.head_induction_on with
  | refl =>
    obtain ⟨f, hf, hsame⟩ := h.find?_of_function? hf₀
    rw [← Function.params_eq_of_bare hsame] at hq
    have huse := Function.usage_has.mpr ((Function.makes_iff_of_bare hsame).mpr huse)
    exact ⟨f, hf, (h.marked f (List.mem_of_find?_eq_some hf)).direct final.position q hq huse⟩
  | @head slot next hforwards _ ih =>
    obtain ⟨g, hg, hmark⟩ := ih
    obtain ⟨f₀, q, hf₀, hq, huse⟩ := hforwards
    obtain ⟨f, hf, hsame⟩ := h.find?_of_function? hf₀
    rw [← Function.params_eq_of_bare hsame] at hq
    have huse := Function.usage_has.mpr ((Function.makes_iff_of_bare hsame).mpr huse)
    have hmem := List.mem_of_find?_eq_some hf
    refine ⟨f, hf, hclosed.isArrayParam hmem (h.marked f hmem).length hq ?_⟩
    exact ⟨_, _, g, huse, hg, hmark⟩

/-- Where nothing is left to be marked, the marks are those of the chains. -/
theorem isArrayParam_iff (h : p.Marking functions) (hnames : (p.functions.map (·.name)).Nodup)
    (hclosed : Closed functions) {f : Function} (hf : f ∈ functions) (i : Nat) :
    f.isArrayParam i ↔ p.Reaches ⟨f.name, i⟩ := by
  refine ⟨h.reaches f hf i, fun hreaches => ?_⟩
  obtain ⟨g, hg, hmark⟩ := h.isArrayParam_of_reaches hclosed hreaches
  rw [← h.names] at hnames
  cases (find?_name hnames hf).symm.trans hg
  exact hmark

/-- There is one way only to end. -/
theorem unique (h : p.Marking functions) (h' : p.Marking functions')
    (hnames : (p.functions.map (·.name)).Nodup) (hclosed : Closed functions)
    (hclosed' : Closed functions') : functions = functions' := by
  have hsame := h.same.trans h'.same.symm
  have hlength : functions.length = functions'.length := by
    simpa using congrArg List.length hsame
  refine List.ext_getElem hlength fun i hi hi' => ?_
  have hbare : functions[i].bare = functions'[i].bare := by
    have hget : (functions.map Function.bare)[i]? = (functions'.map Function.bare)[i]? := by
      rw [hsame]
    rw [List.getElem?_map, List.getElem?_map, List.getElem?_eq_getElem hi,
      List.getElem?_eq_getElem hi'] at hget
    exact Option.some.inj hget
  have hmem := List.getElem_mem hi
  have hmem' := List.getElem_mem hi'
  refine Function.eq_of_bare hbare (Function.arrayParams_eq ?_ fun j => ?_)
  · rw [(h.marked _ hmem).length, (h'.marked _ hmem').length, Function.params_eq_of_bare hbare]
  · rw [h.isArrayParam_iff hnames hclosed hmem, h'.isArrayParam_iff hnames hclosed' hmem',
      Function.name_eq_of_bare hbare]

end Marking

/-- Steps that change marks come to an end. -/
theorem wellFounded_marksMore :
    WellFounded fun later earlier => MarksMore earlier later ∧ later ≠ earlier := by
  refine Subrelation.wf ?_ (measure unmarked).wf
  rintro later earlier ⟨hmore, hne⟩
  obtain ⟨hle, heq⟩ := unmarked_of_marksMore hmore
  exact Nat.lt_of_le_of_ne hle fun hsame => hne (heq hsame)

/-- The rounds are such steps. -/
theorem resolveArrayParams_steps (p : Program) :
    Relation.ReflTransGen MarksMore (p.functions.map Function.markDirect)
      p.resolveArrayParams.functions := by
  refine (closeForwards_keeps (P := fun functions =>
    (∀ f ∈ functions, f.arrayParams.length = f.params.length) ∧
      Relation.ReflTransGen MarksMore (p.functions.map Function.markDirect) functions)
    (fun functions ⟨hlength, hsteps⟩ => ⟨fun f hf => ?_, hsteps.tail (marksMore_round hlength)⟩)
    _ _ ⟨p.markDirect_length, .refl⟩).2
  obtain ⟨g, hg, rfl⟩ := List.mem_map.mp hf
  exact Function.markForwarded_length (hlength g hg)

theorem resolveArrayParams_marking {p : Program} (h : (p.functions.map (·.name)).Nodup) :
    p.Marking p.resolveArrayParams.functions :=
  (Marking.direct h).steps h p.resolveArrayParams_steps

/-! ## Order -/

/-- The functions of the program in another order, and in their bodies the uses of names in another
order. -/
structure Reordered (p p' : Program) : Prop where
  names : (p.functions.map (·.name)).Perm (p'.functions.map (·.name))
  params : ∀ f ∈ p.functions, ∀ f' ∈ p'.functions, f.name = f'.name → f.params = f'.params
  makes : ∀ f ∈ p.functions, ∀ f' ∈ p'.functions, f.name = f'.name →
    ∀ u, f.Makes u ↔ f'.Makes u

namespace Reordered

variable {p p' : Program}

theorem symm (h : p.Reordered p') : p'.Reordered p where
  names := h.names.symm
  params f' hf' f hf hname := (h.params f hf f' hf' hname.symm).symm
  makes f' hf' f hf hname u := (h.makes f hf f' hf' hname.symm u).symm

theorem makes_slot (h : p.Reordered p') (hnames : (p.functions.map (·.name)).Nodup) {slot : Slot}
    {use : String → NameUse} (hmakes : p.Makes slot use) : p'.Makes slot use := by
  obtain ⟨f, q, hf, hq, huse⟩ := hmakes
  have hmem := List.mem_of_find?_eq_some hf
  have hname : f.name = slot.function := by simpa using List.find?_some hf
  obtain ⟨f', hmem', hname'⟩ := List.mem_map.mp (h.names.subset (List.mem_map_of_mem hmem))
  refine ⟨f', q, ?_, h.params f hmem f' hmem' hname'.symm ▸ hq,
    (h.makes f hmem f' hmem' hname'.symm _).mp huse⟩
  rw [← hname, ← hname']
  exact find?_name (h.names.nodup hnames) hmem'

theorem reaches (h : p.Reordered p') (hnames : (p.functions.map (·.name)).Nodup) {slot : Slot}
    (hreaches : p.Reaches slot) : p'.Reaches slot := by
  obtain ⟨final, hchain, huse⟩ := hreaches
  refine ⟨final, ?_, h.makes_slot hnames huse⟩
  exact Relation.ReflTransGen.mono (fun _ _ hnext => h.makes_slot hnames hnext) _ _ hchain

/-- The chains are the same, and so are the marks. -/
theorem arrayParams_eq (h : p.Reordered p') (hnames : (p.functions.map (·.name)).Nodup)
    {f f' : Function} (hf : f ∈ p.resolveArrayParams.functions)
    (hf' : f' ∈ p'.resolveArrayParams.functions) (hname : f.name = f'.name) :
    f.arrayParams = f'.arrayParams := by
  have hnames' := h.names.nodup hnames
  have hmarking := resolveArrayParams_marking hnames
  have hmarking' := resolveArrayParams_marking hnames'
  have hparams : f.params = f'.params := by
    obtain ⟨g, hg, hsame⟩ := hmarking.original hnames hf
    obtain ⟨g', hg', hsame'⟩ := hmarking'.original hnames' hf'
    rw [← Function.params_eq_of_bare hsame, ← Function.params_eq_of_bare hsame']
    refine h.params g (List.mem_of_find?_eq_some hg) g' (List.mem_of_find?_eq_some hg') ?_
    rw [Function.name_eq_of_bare hsame, Function.name_eq_of_bare hsame', hname]
  refine Function.arrayParams_eq ?_ fun i => ?_
  · rw [(hmarking.marked f hf).length, (hmarking'.marked f' hf').length, hparams]
  · rw [hmarking.isArrayParam_iff hnames p.resolveArrayParams_closed hf,
      hmarking'.isArrayParam_iff hnames' p'.resolveArrayParams_closed hf', hname]
    exact ⟨h.reaches hnames, h.symm.reaches hnames'⟩

end Reordered

/-! ## The analysis -/

/-- In a program whose functions have distinct names, a parameter is marked if and only if it is
passed on, by its name alone and however often, until a body uses it as an array.  Nothing but the
marks is changed.  Marking ends, in whatever order marks are made, and always with the same ones,
also for the functions and their calls in another order. -/
theorem resolveArrayParams_exact (p : Program) (h : (p.functions.map (·.name)).Nodup) :
    (∀ f ∈ p.resolveArrayParams.functions, ∀ i, f.isArrayParam i ↔ p.Reaches ⟨f.name, i⟩) ∧
    (p.resolveArrayParams.functions.map Function.bare = p.functions.map Function.bare ∧
      ∀ f ∈ p.resolveArrayParams.functions, f.arrayParams.length = f.params.length) ∧
    ((WellFounded fun later earlier => MarksMore earlier later ∧ later ≠ earlier) ∧
      Relation.ReflTransGen MarksMore (p.functions.map Function.markDirect)
        p.resolveArrayParams.functions ∧
      Closed p.resolveArrayParams.functions) ∧
    (∀ functions, Relation.ReflTransGen MarksMore (p.functions.map Function.markDirect) functions →
      Closed functions → functions = p.resolveArrayParams.functions) ∧
    ∀ p', p.Reordered p' → ∀ f ∈ p.resolveArrayParams.functions,
      ∀ f' ∈ p'.resolveArrayParams.functions, f.name = f'.name →
      f.arrayParams = f'.arrayParams := by
  have hmarking := resolveArrayParams_marking h
  have hclosed := p.resolveArrayParams_closed
  refine ⟨fun f hf i => hmarking.isArrayParam_iff h hclosed hf i,
    ⟨hmarking.same, fun f hf => (hmarking.marked f hf).length⟩,
    ⟨wellFounded_marksMore, p.resolveArrayParams_steps, hclosed⟩,
    fun functions hsteps hclosed' => ?_, fun p' hreordered f hf f' hf' hname => ?_⟩
  · exact ((Marking.direct h).steps h hsteps).unique hmarking h hclosed' hclosed
  · exact hreordered.arrayParams_eq h hf hf' hname

/-- The functions and the statements of their bodies from last to first. -/
def backwards (p : Program) : Program :=
  let turned (f : Function) := { f with body := { f.body with body := f.body.body.reverse } }
  { p with functions := (p.functions.map turned).reverse }

theorem reordered_backwards {p : Program} (h : (p.functions.map (·.name)).Nodup) :
    p.Reordered p.backwards := by
  -- The function of that name, turned around, is the only one that there is.
  have hturned : ∀ f ∈ p.functions, ∀ f' ∈ p.backwards.functions, f.name = f'.name →
      f' = { f with body := { f.body with body := f.body.body.reverse } } := by
    intro f hf f' hf' hname
    obtain ⟨g, hg, rfl⟩ := List.mem_map.mp (List.mem_reverse.mp hf')
    have hfound := find?_name h hf
    rw [hname] at hfound
    cases (find?_name h hg).symm.trans hfound
    rfl
  refine ⟨?_, fun f hf f' hf' hname => ?_, fun f hf f' hf' hname u => ?_⟩
  · rw [backwards, List.map_reverse, List.map_map]
    exact (List.reverse_perm _).symm
  · rw [hturned f hf f' hf' hname]
  · rw [hturned f hf f' hf' hname, Function.Makes, Function.Makes]
    simp only [List.mem_reverse]

/-- Two functions that hand their parameters to each other, crosswise, and one of them on to a
third function, which clears it. -/
def handedAround : Program :=
  let name (s : String) : Expr := .var s .start
  let call (callee : String) (args : List Expr) : Stmt := .expr (.call callee args .start)
  let function (f : String) (params : List String) (body : List Stmt) : Function :=
    { name := f, params, arrayParams := [], body := ⟨body, .start⟩, place := .start }
  { rules := []
    functions :=
      [function "f" ["a", "n"] [call "g" [name "n", name "a"]],
        function "g" ["x", "y"] [call "f" [name "y", name "x"], call "h" [name "y"]],
        function "h" ["z"] [.delete "z" [] .start]] }

theorem resolveArrayParams_exact_handedAround :
    (handedAround.functions.map (·.name)).Nodup ∧
    handedAround.Reaches ⟨"f", 0⟩ ∧ ¬handedAround.Reaches ⟨"f", 1⟩ ∧
    arrayMarks handedAround.resolveArrayParams.functions = [[true, false], [false, true], [true]] ∧
    ∀ f ∈ handedAround.resolveArrayParams.functions,
      ∀ f' ∈ handedAround.backwards.resolveArrayParams.functions, f.name = f'.name →
      f.arrayParams = f'.arrayParams := by
  have hnames : (handedAround.functions.map (·.name)).Nodup := by decide
  obtain ⟨hexact, -, -, -, horder⟩ := resolveArrayParams_exact handedAround hnames
  have hmarks : arrayMarks handedAround.resolveArrayParams.functions =
      [[true, false], [false, true], [true]] := by decide +kernel
  have hf : ∃ f ∈ handedAround.resolveArrayParams.functions, f.name = "f" ∧ f.isArrayParam 0 ∧
      ¬f.isArrayParam 1 := by decide +kernel
  obtain ⟨f, hmem, hname, h₀, h₁⟩ := hf
  refine ⟨hnames, ?_, ?_, hmarks, horder _ (reordered_backwards hnames)⟩
  · rw [← hname]
    exact (hexact f hmem 0).mp h₀
  · rw [← hname]
    exact fun hreaches => h₁ ((hexact f hmem 1).mpr hreaches)

end Program
end Awk
