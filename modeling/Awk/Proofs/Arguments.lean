import Awk.Proofs.References

/-!
# How arguments are passed

The arguments of a call are taken from left to right, each as its parameter asks.  `Passes` is the
table of what becomes of one: a name that stands for an array is passed by reference, and so is
one that was never set and is given to a parameter for an array; anything that is given to a
parameter for a scalar is evaluated, once.  `Refuses` says when that fails.

One row of the table is not what one would expect.  What is given to a parameter for an array and
is not a name, is neither evaluated nor refused: the parameter gets a new array, as if the argument
were missing (`argument_not_evaluated`).
-/

namespace Awk

open Eval Scope

namespace Scope

/-! ## What a name stands for -/

/-- The name stands for a scalar that was set, or is that of a special variable. -/
def HoldsScalar (s : Scope) (x : String) : Prop :=
  (∃ v, v ≠ .uninit ∧ s.lookup? x = some (.scalar v)) ∨
    s.local? x = none ∧ (Special.ofName? x).isSome

/-- The name stands for nothing yet, or for a variable that was never set. -/
def Unset (s : Scope) (x : String) : Prop :=
  (s.local? x = none → Special.ofName? x = none) ∧
    (s.lookup? x = none ∨ s.lookup? x = some (.scalar .uninit))

theorem lookup?_of_local {s : Scope} {x : String} {b : Binding} (h : s.local? x = some b) :
    s.lookup? x = some b := by
  rw [lookup?, h]

theorem lookup?_of_global {s : Scope} {x : String} (h : s.local? x = none) :
    s.lookup? x = s.globals[x]? := by
  rw [lookup?, h]

/-- Only a name that stands for an array or was never set has an array. -/
theorem isArray_or_unset_of_arrayId {x : String} {s s₁ : Scope} {id : Nat}
    (h : arrayId x s = .ok id s₁) : s.isArray x ∨ s.Unset x := by
  unfold arrayId at h
  split at h
  · next hlocal => exact .inl (isArray_iff.mpr ⟨_, lookup?_of_local hlocal⟩)
  · next hlocal =>
    refine .inr ⟨fun hnone => ?_, .inr (lookup?_of_local hlocal)⟩
    rw [hnone] at hlocal
    cases hlocal
  · cases h
  · next hlocal =>
    split at h
    · cases h
    · next hspecial =>
      rw [Option.not_isSome_iff_eq_none] at hspecial
      split at h
      · next hglobal =>
        exact .inl (isArray_iff.mpr ⟨_, (lookup?_of_global hlocal).trans hglobal⟩)
      · next hglobal =>
        exact .inr ⟨fun _ => hspecial, .inr ((lookup?_of_global hlocal).trans hglobal)⟩
      · next hglobal =>
        exact .inr ⟨fun _ => hspecial, .inl ((lookup?_of_global hlocal).trans hglobal)⟩
      · cases h

/-- A name that has no array holds a scalar, and the refusal says so. -/
theorem holdsScalar_of_arrayId {x : String} {s s₁ : Scope} {fault : Fault}
    (h : arrayId x s = .error fault s₁) : s.HoldsScalar x ∧ fault = .scalarAsArray x := by
  unfold arrayId at h
  split at h
  · cases h
  · dsimp only at h
    split at h
    · cases h
    · cases h
  · next v hunset hlocal =>
    cases h
    refine ⟨.inl ⟨_, ?_, lookup?_of_local hlocal⟩, rfl⟩
    rintro rfl
    exact hunset rfl
  · next hlocal =>
    split at h
    · next hspecial =>
      cases h
      exact ⟨.inr ⟨hlocal, hspecial⟩, rfl⟩
    · split at h
      · cases h
      · cases h
      · cases h
      · next v hunset hglobal =>
        cases h
        refine ⟨.inl ⟨_, ?_, (lookup?_of_global hlocal).trans hglobal⟩, rfl⟩
        rintro rfl
        exact hunset rfl

end Scope

/-! ## One argument -/

/-- The number of the array, if it is one. -/
def Binding.array? : Binding → Option Nat
  | .scalar _ => none
  | .array id => some id

/-- What becomes of the argument for one parameter: what the parameter is bound to, and the arrays
that are made for it. -/
inductive Passes (self : Meaning) :
    Bool → Option Expr → Machine → Binding × List Nat → Machine → Prop where
  /-- The array of a name is passed. -/
  | reference {isArray : Bool} {x : String} {place : Location} {m m₁ : Machine} {id : Nat} :
      m.scope.isArray x ∨ isArray = true ∧ m.scope.Unset x →
      onScope (arrayId x) m = .ok id m₁ →
      Passes self isArray (some (.var x place)) m (.array id, []) m₁
  /-- The argument is evaluated and its value passed. -/
  | value {e : Expr} {m m₁ : Machine} {v : Value} :
      (∀ x place, e = .var x place → m.scope.isArray x = false) → self.value e m = .ok v m₁ →
      Passes self false (some e) m (.scalar v, []) m₁
  /-- There is no argument for a scalar. -/
  | unset {m : Machine} : Passes self false none m (.scalar .uninit, []) m
  /-- There is no argument for an array. -/
  | fresh {m m₁ : Machine} {id : Nat} : onScope newArray m = .ok id m₁ →
      Passes self true none m (.array id, [id]) m₁
  /-- The argument for an array is not a name, and nothing becomes of it. -/
  | dropped {e : Expr} {m m₁ : Machine} {id : Nat} : (∀ x place, e ≠ .var x place) →
      onScope newArray m = .ok id m₁ → Passes self true (some e) m (.array id, [id]) m₁

/-- How the argument for one parameter stops the call. -/
inductive Refuses (self : Meaning) : Bool → Option Expr → Machine → Stop → Machine → Prop where
  /-- A scalar is given to a parameter for an array. -/
  | scalar {isArray : Bool} {x : String} {place : Location} {m : Machine} :
      isArray = true ∨ m.scope.isArray x → m.scope.HoldsScalar x →
      Refuses self isArray (some (.var x place)) m (.failed (.runtime (.scalarAsArray x) none)) m
  /-- The argument has no value. -/
  | value {e : Expr} {m m₁ : Machine} {stop : Stop} :
      (∀ x place, e = .var x place → m.scope.isArray x = false) →
      self.value e m = .error stop m₁ → Refuses self false (some e) m stop m₁

/-- The arguments of a call are passed one after the other, each in the machine that the one before
it has left. -/
inductive PassesAll (self : Meaning) : List (String × Bool) → List Expr → Machine →
    List (String × Binding) × List Nat → Machine → Prop where
  | nil {args : List Expr} {m : Machine} : PassesAll self [] args m ([], []) m
  | cons {q : String} {isArray : Bool} {params : List (String × Bool)} {args : List Expr}
      {m m₁ m₂ : Machine} {b : Binding} {made owned : List Nat}
      {bindings : List (String × Binding)} :
      Passes self isArray args.head? m (b, made) m₁ →
      PassesAll self params args.tail m₁ (bindings, owned) m₂ →
      PassesAll self ((q, isArray) :: params) args m ((q, b) :: bindings, made ++ owned) m₂

/-- One of the arguments stops the call, when those before it have been passed. -/
inductive RefusesOne (self : Meaning) :
    List (String × Bool) → List Expr → Machine → Stop → Machine → Prop where
  | here {q : String} {isArray : Bool} {params : List (String × Bool)} {args : List Expr}
      {m m₁ : Machine} {stop : Stop} : Refuses self isArray args.head? m stop m₁ →
      RefusesOne self ((q, isArray) :: params) args m stop m₁
  | later {q : String} {isArray : Bool} {params : List (String × Bool)} {args : List Expr}
      {m m₁ m₂ : Machine} {bound : Binding × List Nat} {stop : Stop} :
      Passes self isArray args.head? m bound m₁ → RefusesOne self params args.tail m₁ stop m₂ →
      RefusesOne self ((q, isArray) :: params) args m stop m₂

/-- One is true where a computation ends with a value, the other where it stops. -/
def EndsIn {α : Type} (P : α → Machine → Prop) (Q : Stop → Machine → Prop) :
    EStateM.Result Stop Machine α → Prop
  | .ok a m => P a m
  | .error stop m => Q stop m

instance {α : Type} (P : α → Machine → Prop) [∀ a m, Decidable (P a m)] :
    DecidablePred (EndsIn P fun _ _ => False)
  | .ok a m => inferInstanceAs (Decidable (P a m))
  | .error _ _ => inferInstanceAs (Decidable False)

section

variable {self : Meaning} {m : Machine}

theorem Passes.unmarked {isArray : Bool} {arg : Option Expr} {m₁ : Machine} {b : Binding}
    {made : List Nat} (h : Passes self isArray arg m (b, made) m₁) (hb : b.array? = none) :
    isArray = false := by
  cases h with
  | value _ _ => rfl
  | unset => rfl
  | reference _ _ => cases hb
  | fresh _ => cases hb
  | dropped _ _ => cases hb

theorem bindParam_other {isArray : Bool} {e : Expr} (h : ∀ x place, e ≠ .var x place) :
    Call.bindParam self isArray (some e) =
      if isArray then Call.bindParam.fresh else do return (.scalar (← self.value e), []) := by
  cases e with
  | var x place => exact absurd rfl (h x place)
  | _ => rfl

theorem bindParam_evaluated {e : Expr}
    (hname : ∀ x place, e = .var x place → m.scope.isArray x = false)
    (hrun : Call.bindParam self false (some e) m =
      (do return (.scalar (← self.value e), []) : Eval (Binding × List Nat)) m) :
    EndsIn (Passes self false (some e) m) (Refuses self false (some e) m)
      (Call.bindParam self false (some e) m) := by
  rw [hrun]
  cases hvalue : self.value e m with
  | ok v m₁ =>
    rw [bind_of_ok hvalue]
    exact Passes.value hname hvalue
  | error stop m₁ =>
    rw [bind_of_error hvalue]
    exact Refuses.value hname hvalue

theorem bindParam_named {isArray : Bool} {x : String} {place : Location}
    (h : isArray = true ∨ m.scope.isArray x) :
    EndsIn (Passes self isArray (some (.var x place)) m)
      (Refuses self isArray (some (.var x place)) m)
      (Call.bindParam self isArray (some (.var x place)) m) := by
  have hrun : Call.bindParam self isArray (some (.var x place)) m =
      (do return (.array (← onScope (arrayId x)), []) : Eval (Binding × List Nat)) m := by
    rw [Call.bindParam, bind_of_ok (show scope m = .ok m.scope m from rfl), if_pos]
    simpa using h
  rw [hrun]
  cases hid : arrayId x m.scope with
  | ok id s₁ =>
    have hok : onScope (arrayId x) m = .ok id { m with scope := s₁ } := by rw [onScope, hid]
    rw [bind_of_ok hok]
    refine Passes.reference ?_ hok
    rcases isArray_or_unset_of_arrayId hid with harray | hunset
    · exact .inl harray
    · exact h.elim (fun hmark => .inr ⟨hmark, hunset⟩) .inl
  | error fault s₁ =>
    obtain ⟨hholds, rfl⟩ := holdsScalar_of_arrayId hid
    have hfails : onScope (arrayId x) m =
        .error (.failed (.runtime (.scalarAsArray x) none)) m := by
      rw [onScope, hid, arrayId_error hid]
    rw [bind_of_error hfails]
    exact Refuses.scalar h hholds

/-- The rows of the two tables are all there is. -/
theorem bindParam_endsIn (self : Meaning) (m : Machine) (isArray : Bool) (arg : Option Expr) :
    EndsIn (Passes self isArray arg m) (Refuses self isArray arg m)
      (Call.bindParam self isArray arg m) := by
  cases arg with
  | none =>
    cases isArray with
    | false => exact Passes.unset
    | true => exact Passes.fresh rfl
  | some e =>
    by_cases hvar : ∃ x place, e = .var x place
    · obtain ⟨x, place, rfl⟩ := hvar
      by_cases href : isArray = true ∨ m.scope.isArray x
      · exact bindParam_named href
      · rw [not_or, Bool.not_eq_true, Bool.not_eq_true] at href
        obtain ⟨rfl, hscalar⟩ := href
        refine bindParam_evaluated ?_ ?_
        · intro y place' heq
          cases heq
          exact hscalar
        · rw [Call.bindParam, bind_of_ok (show scope m = .ok m.scope m from rfl), hscalar]
          rfl
    · have hother : ∀ x place, e ≠ .var x place := fun x place heq => hvar ⟨x, place, heq⟩
      cases isArray with
      | false =>
        refine bindParam_evaluated (fun x place heq => absurd heq (hother x place)) ?_
        rw [bindParam_other hother]
        rfl
      | true =>
        rw [bindParam_other hother]
        exact Passes.dropped hother rfl

theorem bindParam_passes {isArray : Bool} {arg : Option Expr} {bound : Binding × List Nat}
    {m₁ : Machine} (h : Call.bindParam self isArray arg m = .ok bound m₁) :
    Passes self isArray arg m bound m₁ := by
  have hends := bindParam_endsIn self m isArray arg
  rw [h] at hends
  exact hends

/-! ## All arguments -/

theorem bindParams_endsIn (self : Meaning) : ∀ (params : List (String × Bool))
    (args : List Expr) (m : Machine),
    EndsIn (PassesAll self params args m) (RefusesOne self params args m)
      (Call.bindParams self params args m)
  | [], args, m => PassesAll.nil
  | (q, isArray) :: params, args, m => by
    have hfirst := bindParam_endsIn self m isArray args.head?
    rw [Call.bindParams]
    cases hbind : Call.bindParam self isArray args.head? m with
    | error stop m₁ =>
      rw [hbind] at hfirst
      rw [bind_of_error hbind]
      exact RefusesOne.here hfirst
    | ok bound m₁ =>
      rw [hbind] at hfirst
      obtain ⟨b, made⟩ := bound
      rw [bind_of_ok hbind]
      dsimp only
      have hrest := bindParams_endsIn self params args.tail m₁
      cases hrun : Call.bindParams self params args.tail m₁ with
      | error stop m₂ =>
        rw [hrun] at hrest
        rw [bind_of_error hrun]
        exact RefusesOne.later hfirst hrest
      | ok rest m₂ =>
        rw [hrun] at hrest
        rw [bind_of_ok hrun]
        exact PassesAll.cons hfirst hrest

/-- The parameters of a function, each with its mark. -/
def Function.marked (f : Function) : List (String × Bool) :=
  f.params.zipIdx.map fun param => (param.1, f.isArrayParam param.2)

theorem enter_eq_bindParams {f : Function} {args : List Expr} (place : Location)
    (hfew : args.length ≤ f.params.length) (hdepth : m.callDepth < maxCallDepth) :
    Call.enter self f args place m = Call.bindParams self f.marked args m := by
  rw [Call.enter, if_neg (by omega), bind_of_ok (get_run m), if_neg (by omega)]
  rfl

end

/-! ## Calls -/

theorem located_congr {α : Type} {x y : Eval α} {m m₁ : Machine} (h : x m = y m₁)
    (place : Location) : located place x m = located place y m₁ := by
  unfold located
  rw [h]

section

variable {p : Program} {n : Nat} {name : String} {f : Function} {args : List Expr}
  {place : Location} {m : Machine}

theorem call_run (hf : p.function? name = some f) :
    eval p (n + 1) (.call name args place) m =
      located place (Call.user (meaning p n) f args place) m := by
  refine located_congr ?_ place
  show Call.named (meaning p n) p name args place m = _
  rw [Call.named, hf]

end

namespace Scope

/-- Behind a call the array is that of a variable with the name: of the local one, or of the global
one if there was no local when the call began. -/
def Holds (before behind : Scope) (x : String) (id : Nat) : Prop :=
  behind.local? x = some (.array id) ∨
    before.local? x = none ∧ behind.globals[x]? = some (.array id)

/-- A variable keeps the array that it was asked for, also where a later argument makes a local that
hides it. -/
theorem holds_of_arrayId {s s₂ s₃ s' : Scope} {x : String} {id : Nat} (hbefore : ArraysStay s s₂)
    (hid : arrayId x s₂ = .ok id s₃) (hbehind : ArraysStay s₃ s') : Holds s s' x id := by
  have hlookup := lookup?_of_arrayId hid
  cases hlocal : s₃.local? x with
  | some b =>
    rw [lookup?_of_local hlocal] at hlookup
    rw [hlookup] at hlocal
    exact .inl (hbehind.inFrame x id hlocal)
  | none =>
    rw [lookup?_of_global hlocal] at hlookup
    have hnone := hbefore.bound x ((arrayId_resolved hid).arraysStay.bound x hlocal)
    exact .inr ⟨hnone, hbehind.inGlobals x id hlookup⟩

theorem popFrame_below {s : Scope} {f : Frame} {fs : List Frame} (hf : s.frames = f :: fs) :
    s.popFrame.frames = fs ∧ s.popFrame.globals = s.globals := by
  rw [popFrame, hf]
  exact ⟨rfl, rfl⟩

theorem Holds.anchored {s s' : Scope} {x : String} {id : Nat} {ks : List (List Nat)}
    (h : Holds s s' x id) (hs : Settled s'.globals s'.frames ks) :
    Anchored s'.globals s'.frames id := by
  rcases h with hlocal | ⟨-, hglobal⟩
  · exact hs.lookup (lookup?_of_local hlocal)
  · exact .inl ⟨x, hglobal⟩

end Scope

section

variable {p : Program} {n : Nat} {name : String} {f : Function} {args : List Expr}
  {place : Location} {m m₁ : Machine} {bindings : List (String × Binding)} {owned : List Nat}

/-- All the time that the statements run, and in the calls that they make, the name stands for the
array that is given, or for none. -/
def StandsThroughout (p : Program) (n : Nat) (body : List Stmt) (q : String) (a : Option Nat)
    (m : Machine) : Prop :=
  ∀ alarm, Call.sequence (meaningWatched
    (fun m' => (m'.scope.atDepth m.scope.depth).arrayOf? q = a) alarm p n).run body m =
      Call.sequence (meaning p n).run body m

theorem Binding.stands {q : String} {b : Binding} {frame : Frame}
    (h : frame.locals[q]? = some b) : Stands q b.array? frame := by
  cases b with
  | scalar v => exact ⟨v, h⟩
  | array id => exact h

/-- What a parameter is bound to stays so, and the frames below are left alone. -/
theorem body_keeps_binding (p : Program) (n : Nat) (body : List Stmt) {q : String} {b : Binding}
    (hb : (m₁.enterCall bindings owned).scope.local? q = some b)
    (hspared : b.array? = none → ∀ s ∈ body, s.Spares p q) :
    StandsThroughout p n body q b.array? (m₁.enterCall bindings owned) ∧
      ∃ frame, (after (Call.sequence (meaning p n).run body)
        (m₁.enterCall bindings owned)).scope.frames = frame :: m₁.scope.frames := by
  have hentered : InCall (Stands q b.array?) (fun _ => True) m₁.scope.frames
      (m₁.enterCall bindings owned).scope := ⟨⟨_, rfl, Binding.stands hb⟩, trivial⟩
  have hrun : ∀ alarm, Throughout
      (fun m => InCall (Stands q b.array?) (fun _ => True) m₁.scope.frames m.scope)
      (Call.sequence (exec p n) body)
      (Call.sequence (execWatched
        (fun m' => (m'.scope.atDepth (m₁.scope.depth + 1)).arrayOf? q = b.array?) alarm p n)
        body) := fun alarm =>
    body_stands (fun _ _ _ _ => trivial)
      (fun _ above _ hframes hf _ => arrayOf?_of_stands above hframes hf) hspared alarm
  refine ⟨fun alarm => (hrun alarm _ hentered).1, ?_⟩
  obtain ⟨⟨frame, hframes, -⟩, -⟩ := (hrun .exhausted _ hentered).2
  exact ⟨frame, hframes⟩

/-- Behind the call a variable of the caller still holds the array that was passed, and its elements
are those that the body has left. -/
theorem reference_behind_call {x q : String} {place' : Location} {isArray : Bool} {id : Nat}
    {made : List Nat} {m₂ m₃ : Machine} (hm : m.Sound) (hf : p.function? name = some f)
    (henter : Call.enter (meaning p n) f args place m = .ok (bindings, owned) m₁)
    (hbefore : ArraysStay m.scope m₂.scope)
    (hat : Call.bindParam (meaning p n) isArray (some (.var x place')) m₂ =
      .ok (.array id, made) m₃)
    (hbehind : ArraysStay m₃.scope m₁.scope)
    (hq : (m₁.enterCall bindings owned).scope.local? q = some (.array id)) :
    let behind := (after (eval p (n + 1) (.call name args place)) m).scope
    Holds m.scope behind x id ∧
      behind.table id = (after (Call.sequence (meaning p n).run f.body.body)
        (m₁.enterCall bindings owned)).scope.table id := by
  intro behind
  set ended := (after (Call.sequence (meaning p n).run f.body.body)
    (m₁.enterCall bindings owned)).scope
  have hid : arrayId x m₂.scope = .ok id m₃.scope := by
    rcases bindParam_var hat with ⟨id', hsame, hid⟩ | ⟨⟨v, hscalar⟩, -⟩
    · cases hsame
      exact hid
    · cases hscalar
  have hpop : behind = ended.popFrame := by
    rw [show behind = _ from scope_after_call hf henter, Call.body, after_inFrame]
    rfl
  have hbody : ArraysStay m₁.scope behind := by
    rw [show behind = _ from scope_after_call hf henter]
    exact stayArrays_respected.inFrame bindings owned (y := Call.sequence (exec p n) f.body.body)
      (stayArrays_respected.block p n f.body.body) m₁
  have hholds := holds_of_arrayId hbefore hid (hbehind.trans hbody)
  obtain ⟨-, frame, hframes⟩ := body_keeps_binding p n f.body.body hq
    fun hnone => by cases hnone
  obtain ⟨l, hsound⟩ := sound_behind_body hm henter f.body.body
  obtain ⟨ks, hbelow⟩ := hsound.settled_below hframes
  obtain ⟨hrest, hglobals⟩ := popFrame_below hframes
  have hsettled : Settled behind.globals behind.frames ks := by
    rw [hpop, hrest, hglobals]
    exact hbelow
  have hanchored := hholds.anchored hsettled
  rw [hpop, hrest, hglobals] at hanchored
  refine ⟨hholds, ?_⟩
  rw [hpop]
  exact hsound.table_popFrame hframes hanchored

/-- What one argument of a call becomes when all have been passed: `q` is its parameter, and `b` is
what that is bound to inside the call. -/
structure Received (p : Program) (n : Nat) (call : Expr) (f : Function) (m inside : Machine)
    (i : Nat) (e : Expr) (q : String) (b : Binding) : Prop where
  param : f.params[i]? = some q
  bound : inside.scope.local? q = some b
  /-- The argument is passed in the scope of the caller. -/
  passed : ∃ m₂ made m₃, m₂.scope.depth = m.scope.depth ∧
    Passes (meaning p n) (f.isArrayParam i) (some e) m₂ (b, made) m₃
  /-- What is done through the parameter is done to its array, and one that was given a scalar
  becomes no array.  The body may not have a built-in function fill it in parentheses. -/
  stands : (b.array? = none → q ∉ f.wrapped) →
    StandsThroughout p n f.body.body q b.array? inside
  /-- The caller keeps the array of a name, as the body has left it. -/
  kept : ∀ x place id, e = .var x place → b = .array id →
    let behind := (after (eval p (n + 1) call) m).scope
    Holds m.scope behind x id ∧ behind.table id =
      (after (Call.sequence (meaning p n).run f.body.body) inside).scope.table id

theorem argument_received {source : String} {i : Nat} {e : Expr}
    (hp : parseProgram source = .ok p) (hm : m.Sound) (hf : p.function? name = some f)
    (hfew : args.length ≤ f.params.length)
    (henter : Call.enter (meaning p n) f args place m = .ok (bindings, owned) m₁)
    (he : args[i]? = some e) :
    ∃ q b, Received p n (.call name args place) f m (m₁.enterCall bindings owned) i e q b := by
  have hresolved := parseProgram_resolved hp
  obtain ⟨q, hq⟩ : ∃ q, f.params[i]? = some q := by
    have hlt := (List.getElem?_eq_some_iff.mp he).1
    exact ⟨_, List.getElem?_eq_getElem (hlt.trans_le hfew)⟩
  obtain ⟨m₂, m₃, b, made, hbefore, hat, hbehind, hb⟩ := enter_binds
    (hresolved.nodup f (List.mem_of_find?_eq_some hf)) hq he henter
  have hpasses := bindParam_passes hat
  refine ⟨q, b, hq, hb, ⟨m₂, made, m₃, hbefore.depth, hpasses⟩, fun hwrapped => ?_, ?_⟩
  · refine (body_keeps_binding p n f.body.body hb fun hnone => ?_).1
    exact hresolved.spares hf hq (hpasses.unmarked hnone) (hwrapped hnone)
  · rintro x place' id rfl rfl
    exact reference_behind_call hm hf henter hbefore hat hbehind hb

end

/-- A call of a function of a program that was read, with no more arguments than parameters and
less than the greatest depth of calls.  Either the arguments are all passed, one after the other by
the rows of `Passes`, and the body runs with what they have become; or one of them is refused, and
the call stops with that error.  What is done to an array through a parameter is done to the array
that was passed, and the caller has it behind the call. -/
theorem arguments_passed {source : String} {p : Program} {n : Nat} {name : String} {f : Function}
    {args : List Expr} {place : Location} {m : Machine} (hp : parseProgram source = .ok p)
    (hm : m.Sound) (hf : p.function? name = some f) (hfew : args.length ≤ f.params.length)
    (hdepth : m.callDepth < maxCallDepth) :
    let self := meaning p n
    let call : Expr := .call name args place
    (∃ bindings owned m₁, PassesAll self f.marked args m (bindings, owned) m₁ ∧
      eval p (n + 1) call m =
        located place (Call.body self f bindings owned >>= Call.conclude) m₁ ∧
      ∀ i e, args[i]? = some e →
        ∃ q b, Received p n call f m (m₁.enterCall bindings owned) i e q b) ∨
    ∃ stop m₁, RefusesOne self f.marked args m stop m₁ ∧
      eval p (n + 1) call m = located place (throw stop) m₁ := by
  intro self call
  have hends := bindParams_endsIn self f.marked args m
  rw [← enter_eq_bindParams place hfew hdepth] at hends
  rw [show eval p (n + 1) call m = _ from call_run hf]
  cases henter : Call.enter self f args place m with
  | ok bound m₁ =>
    obtain ⟨bindings, owned⟩ := bound
    rw [henter] at hends
    exact .inl ⟨bindings, owned, m₁, hends, located_congr (bind_of_ok henter) place,
      fun i e he => argument_received hp hm hf hfew henter he⟩
  | error stop m₁ =>
    rw [henter] at hends
    exact .inr ⟨stop, m₁, hends, located_congr (bind_of_error henter) place⟩

/-- The special variable `NR` is given to a parameter for an array: the call fails, and says why. -/
theorem arguments_passed_special :
    let m := Machine.initial .empty
    let call : Expr := .call "f" [.var "NR" .start] .start
    ∃ p, parseProgram "function f(a) \x7b a[1] = 5 \x7d" = .ok p ∧
      eval p 9 call m = .error (.failed (.runtime (.scalarAsArray "NR") (some .start))) m := by
  intro m call
  have hread : ((parseProgram "function f(a) \x7b a[1] = 5 \x7d").toOption.bind fun p =>
      (p.function? "f").map fun f => (f.params, f.arrayParams)) = some (["a"], [true]) := by
    decide +kernel
  obtain ⟨p, hp, hread⟩ := exists_ok_of_bind hread
  obtain ⟨f, hf, hmarks⟩ := Option.map_eq_some_iff.mp hread
  rw [Prod.mk.injEq] at hmarks
  obtain ⟨hparams, hmarks⟩ := hmarks
  refine ⟨p, hp, ?_⟩
  have hmarked : f.marked = [("a", true)] := by
    simp [Function.marked, hparams, hmarks, Function.isArrayParam]
  have houtcome := @arguments_passed _ p 8 "f" f [.var "NR" .start] .start m hp
    (Machine.initial_sound .empty) hf (by rw [hparams]; decide) (by decide)
  rw [hmarked] at houtcome
  rcases houtcome with ⟨bindings, owned, m₁, hpasses, -⟩ | ⟨stop, m₁, hrefuses, hrun⟩
  · cases hpasses with
    | cons hfirst _ =>
      rw [List.head?_cons] at hfirst
      cases hfirst with
      | reference _ hid => cases hid
      | dropped hother _ => exact absurd rfl (hother _ _)
  · rw [show eval p 9 call m = _ from hrun]
    cases hrefuses with
    | here hfirst =>
      rw [List.head?_cons] at hfirst
      cases hfirst with
      | scalar _ _ => rfl
    | later _ hrest => cases hrest

/-- The assignment `n = 7` is given to a parameter for an array: the call succeeds, and `n` is as it
was. -/
theorem argument_not_evaluated :
    let m := Machine.initial .empty
    let arg : Expr := .assign none (.var "n" .start) (.number 7.0 .start) .start
    ∃ p f v m₁, parseProgram "function f(a) \x7b a[1] = 5 \x7d" = .ok p ∧
      p.function? "f" = some f ∧ f.isArrayParam 0 = true ∧
      eval p 9 (.call "f" [arg] .start) m = .ok v m₁ ∧ m₁.scope.lookup? "n" = none ∧
      ((after (eval p 8 arg) m).scope.lookup? "n").isSome := by
  intro m arg
  set call : Expr := .call "f" [arg] .start
  have hread : ((parseProgram "function f(a) \x7b a[1] = 5 \x7d").toOption.bind fun p =>
      (p.function? "f").map fun f =>
        (f.isArrayParam 0, decide (EndsIn (fun _ m₁ => (m₁.scope.lookup? "n").isNone)
          (fun _ _ => False) (eval p 9 call m)),
          ((after (eval p 8 arg) m).scope.lookup? "n").isSome)) =
      some (true, true, true) := by decide +kernel
  obtain ⟨p, hp, hread⟩ := exists_ok_of_bind hread
  obtain ⟨f, hf, hrest⟩ := Option.map_eq_some_iff.mp hread
  simp only [Prod.mk.injEq, decide_eq_true_eq] at hrest
  obtain ⟨hmark, hends, hsome⟩ := hrest
  cases hrun : eval p 9 call m with
  | error stop m₁ =>
    rw [hrun] at hends
    exact hends.elim
  | ok v m₁ =>
    rw [hrun] at hends
    exact ⟨p, f, v, m₁, hp, hf, hmark, hrun, Option.isNone_iff_eq_none.mp hends, hsome⟩

end Awk
