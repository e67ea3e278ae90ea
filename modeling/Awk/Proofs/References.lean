import Awk.Proofs.ArrayUse
import Awk.Proofs.SoundRuns

/-!
# Arrays that are passed to functions

A parameter that stands for an array has the number of the array that the caller names.  Whether
it stands for one is settled when the parameters are bound: either it has the number then, or it
never has one.  So whoever uses the parameter uses the array of the caller, and all that is done to
it can be seen there, provided that the marks see every use.  They do, except for names in
parentheses.
-/

namespace Awk

namespace Scope

/-- The number of the array that a name stands for. -/
def arrayOf? (s : Scope) (name : String) : Option Nat :=
  match s.lookup? name with
  | some (.array id) => some id
  | _ => none

/-- The scope as it is seen from the outermost calls, as many as are given. -/
def atDepth (d : Nat) (s : Scope) : Scope :=
  { s with frames := s.frames.drop (s.frames.length - d) }

theorem arrayOf?_eq_some {s : Scope} {name : String} {id : Nat} :
    s.arrayOf? name = some id ↔ s.lookup? name = some (.array id) := by
  unfold arrayOf?
  split
  · next h => rw [h]; simp
  · next h =>
    refine iff_of_false (fun h' => by cases h') fun h' => h id h'

theorem isArray_iff {s : Scope} {name : String} :
    s.isArray name ↔ ∃ id, s.lookup? name = some (.array id) := by
  unfold isArray
  split
  · next id h => exact iff_of_true rfl ⟨id, h⟩
  · next h => exact iff_of_false Bool.false_ne_true fun ⟨id, h'⟩ => h id h'

theorem atDepth_of_append {s : Scope} (above frames : List Frame)
    (h : s.frames = above ++ frames) :
    s.atDepth frames.length = { s with frames } := by
  have hdrop : s.frames.drop (s.frames.length - frames.length) = frames := by
    rw [h, List.length_append, Nat.add_sub_cancel, List.drop_left]
  rw [atDepth, hdrop]

/-! ## Names that stay arrays -/

theorem GlobalsKept.array {g g' : Bindings} (h : GlobalsKept g g') {name : String} {id : Nat}
    (hg : g[name]? = some (.array id)) : g'[name]? = some (.array id) := by
  rcases h name with h | ⟨hunset, -⟩
  · rw [h, hg]
  · rw [hg] at hunset
    rcases hunset with h | h <;> cases h

/-- At one depth of calls a name that stands for an array goes on to do so, unless a global one is
hidden by a local that is new. -/
structure ArraysStay (s s' : Scope) : Prop extends Within s s' where
  inFrame : ∀ name id, s.local? name = some (.array id) → s'.local? name = some (.array id)
  inGlobals : ∀ (name : String) id, s.globals[name]? = some (.array id) →
    s'.globals[name]? = some (.array id)
  bound : ∀ name, s'.local? name = none → s.local? name = none

theorem ArraysStay.refl (s : Scope) : ArraysStay s s :=
  { Within.refl s with
    inFrame := fun _ _ h => h
    inGlobals := fun _ _ h => h
    bound := fun _ h => h }

theorem ArraysStay.trans {s₁ s₂ s₃ : Scope} (h₁ : ArraysStay s₁ s₂) (h₂ : ArraysStay s₂ s₃) :
    ArraysStay s₁ s₃ :=
  { h₁.toWithin.trans h₂.toWithin with
    inFrame := fun name id h => h₂.inFrame name id (h₁.inFrame name id h)
    inGlobals := fun name id h => h₂.inGlobals name id (h₁.inGlobals name id h)
    bound := fun name h => h₁.bound name (h₂.bound name h) }

theorem local?_of_frames {s s' : Scope} (h : s'.frames = s.frames) (name : String) :
    s'.local? name = s.local? name := by
  rw [local?, local?, h]

/-- What leaves the frames alone and has no less arrays among the globals. -/
theorem arraysStay_of_frames {s s' : Scope} (hwithin : Within s s') (hframes : s'.frames = s.frames)
    (hglobals : ∀ (name : String) id, s.globals[name]? = some (.array id) →
      s'.globals[name]? = some (.array id)) : ArraysStay s s' :=
  { hwithin with
    inFrame := fun name id h => by rw [local?_of_frames hframes]; exact h
    inGlobals := hglobals
    bound := fun name h => by rw [← local?_of_frames hframes]; exact h }

theorem SameNames.arraysStay {s s' : Scope} (h : SameNames s s') : ArraysStay s s' :=
  arraysStay_of_frames h.within h.frames fun name id hid => by rw [h.globals]; exact hid

/-- A frame with one more name, which stood for no array. -/
theorem arraysStay_insert {s s' : Scope} {f f' : Frame} {fs : List Frame} {name : String}
    {b : Binding} (hf : s.frames = f :: fs) (hf' : s'.frames = f' :: fs)
    (hlocals : f'.locals = f.locals.insert name b) (hglobals : s'.globals = s.globals)
    (hna : ∀ id, f.locals[name]? ≠ some (.array id)) : ArraysStay s s' where
  depth := by rw [hf, hf']; rfl
  below := by rw [hf, hf']; rfl
  globals _ := by rw [hglobals]; exact .refl _
  inFrame other id h := by
    rw [local?, hf] at h
    rw [local?, hf']
    dsimp only at h ⊢
    rw [hlocals, Bindings.getElem?_insert, if_neg]
    · exact h
    · rintro rfl
      exact hna id h
  inGlobals other id h := by rw [hglobals]; exact h
  bound other h := by
    rw [local?, hf'] at h
    rw [local?, hf]
    dsimp only at h ⊢
    rw [hlocals, Bindings.getElem?_insert] at h
    split at h
    · cases h
    · exact h

theorem globals_insert_array {g : Bindings} {name : String} {b : Binding}
    (hna : ∀ id, g[name]? ≠ some (.array id)) (other : String) (id : Nat)
    (h : g[other]? = some (.array id)) : (g.insert name b)[other]? = some (.array id) := by
  rw [Bindings.getElem?_insert, if_neg]
  · exact h
  · rintro rfl
    exact hna id h

theorem Resolved.arraysStay {name : String} {s s' : Scope} {id : Nat} (h : Resolved name s id s') :
    ArraysStay s s' := by
  have hwithin := h.within
  cases h with
  | found _ => exact .refl s
  | inFrame hf hunset _ =>
    exact arraysStay_insert hf rfl rfl rfl fun id hid => by rw [hunset] at hid; cases hid
  | asGlobal hnone _ =>
    refine arraysStay_of_frames hwithin rfl (globals_insert_array fun id hid => ?_)
    cases hnone _ hid

theorem Effect.arraysStay {s s' : Scope} (h : Effect s s') : ArraysStay s s' := by
  cases h with
  | none hsame => exact hsame.arraysStay
  | assigned name v hna =>
    have hwithin := bind_within s name (.scalar v)
    unfold bind assigned? at *
    split at hwithin
    · next hf =>
      rw [hf] at hna
      exact arraysStay_of_frames hwithin rfl (globals_insert_array hna)
    · next f fs hf =>
      rw [hf] at hna
      exact arraysStay_insert hf rfl rfl rfl hna
  | resolved hr => exact hr.arraysStay
  | changed f hr =>
    exact hr.arraysStay.trans (arraysStay_of_frames ⟨rfl, rfl, fun _ => .refl _⟩ rfl fun _ _ h => h)

/-- A name that stands for an array goes on to do so where no new local hides it. -/
theorem ArraysStay.lookup {s s' : Scope} (h : ArraysStay s s') {name : String} {id : Nat}
    (hid : s.lookup? name = some (.array id))
    (hkept : s.local? name = none → s'.local? name = none) :
    s'.lookup? name = some (.array id) := by
  unfold lookup? at hid ⊢
  cases hlocal : s.local? name with
  | some b =>
    rw [hlocal] at hid
    cases hid
    rw [h.inFrame name id hlocal]
  | none =>
    rw [hlocal] at hid
    rw [hkept hlocal]
    exact h.inGlobals name id hid

/-- Behind the question for its array a name stands for the answer. -/
theorem lookup?_of_arrayId {name : String} {s s' : Scope} {id : Nat}
    (h : arrayId name s = .ok id s') : s'.lookup? name = some (.array id) := by
  unfold arrayId at h
  split at h
  · next hl =>
    cases h
    simp only [lookup?, hl]
  · next hl =>
    unfold local? at hl
    split at hl
    · cases hl
    · next f fs hf =>
      rw [hf] at h
      cases h
      simp only [lookup?, local?, Bindings.getElem?_insert, if_true]
  · cases h
  · next hl =>
    split at h
    · cases h
    · split at h
      · next hg =>
        cases h
        simp only [lookup?, hl, hg]
      · cases h
        simp only [lookup?, show ∀ arena globals, local? { s with arena, globals } name =
          s.local? name from fun _ _ => rfl, hl, Bindings.getElem?_insert, if_true]
      · cases h
        simp only [lookup?, show ∀ arena globals, local? { s with arena, globals } name =
          s.local? name from fun _ _ => rfl, hl, Bindings.getElem?_insert, if_true]
      · cases h

end Scope

open Eval Scope

def StayArrays {α : Type} (x : Eval α) : Prop := ∀ m, ArraysStay m.scope (after x m).scope

theorem stayArrays_respected : RespectsCalls fun _ x _ => StayArrays x where
  pure a m := .refl m.scope
  bind hx hf := after_bind_trans (R := fun m m' : Machine => ArraysStay m.scope m'.scope)
    (fun _ _ _ => .trans) hx hf
  stop why m := .refl m.scope
  located place hx m := by
    rw [after_located]
    exact hx m
  access a m := by
    rw [after_onScope]
    exact (a.effect m.scope).arraysStay
  newArray m := by
    rw [after_onScope]
    exact arraysStay_of_frames ⟨rfl, rfl, fun _ => .refl _⟩ rfl fun _ _ h => h
  fillArray id values m := by
    rw [after_onScope]
    exact arraysStay_of_frames ⟨rfl, rfl, fun _ => .refl _⟩ rfl fun _ _ h => h
  sameNames f hf m := (hf m.scope).arraysStay
  write text m := by
    rw [(after_write text m).1]
    exact .refl m.scope
  detached x hx m := by
    rw [(hx m).1]
    exact .refl m.scope
  takePending m := .refl m.scope
  leave s m := .refl m.scope
  inFrame bindings owned hx m := by
    obtain ⟨hframes, hglobals⟩ :=
      inFrame_keeps (fun m => (hx m).toWithin) bindings owned m
    exact arraysStay_of_frames ⟨by rw [hframes], by rw [hframes], fun _ => hglobals⟩ hframes
      fun _ _ => hglobals.array

/-! ## Binding parameters -/

theorem lookup_foldl_insert_of_not_mem {q : String} : ∀ {bindings : List (String × Binding)}
    {g : Bindings}, q ∉ bindings.map Prod.fst →
    (bindings.foldl (fun m (name, b) => m.insert name b) g)[q]? = g[q]?
  | [], _, _ => rfl
  | (name, b) :: bindings, g, h => by
    rw [List.map_cons, List.mem_cons, not_or] at h
    rw [List.foldl_cons, lookup_foldl_insert_of_not_mem h.2, Bindings.getElem?_insert,
      if_neg (Ne.symm h.1)]

/-- Of names that are bound once each is bound as it says. -/
theorem lookup_foldl_insert {q : String} {b : Binding} : ∀ {bindings : List (String × Binding)}
    {g : Bindings}, (bindings.map Prod.fst).Nodup → (q, b) ∈ bindings →
    (bindings.foldl (fun m (name, b) => m.insert name b) g)[q]? = some b
  | [], _, _, h => by cases h
  | (name, b') :: bindings, g, hnodup, h => by
    obtain ⟨hnot, hrest⟩ := List.nodup_cons.mp hnodup
    rcases List.mem_cons.mp h with heq | h
    · cases heq
      rw [List.foldl_cons, lookup_foldl_insert_of_not_mem hnot, Bindings.getElem?_insert,
        if_pos rfl]
    · rw [List.foldl_cons]
      exact lookup_foldl_insert hrest h

/-- A name as an argument: its array is passed, or it has none and its value is. -/
theorem bindParam_var {self : Meaning} {isArray : Bool} {x : String} {place : Location}
    {m m₁ : Machine} {b : Binding} {made : List Nat}
    (h : Call.bindParam self isArray (some (.var x place)) m = .ok (b, made) m₁) :
    (∃ id, b = .array id ∧ arrayId x m.scope = .ok id m₁.scope) ∨
      (∃ v, b = .scalar v) ∧ isArray = false ∧ m.scope.isArray x = false := by
  rw [Call.bindParam, bind_of_ok (show scope m = .ok m.scope m from rfl)] at h
  split at h
  · obtain ⟨id, m₂, hid, hpure⟩ := bind_ok_inv h
    cases hpure
    unfold onScope at hid
    split at hid
    · next hrun =>
      cases hid
      exact .inl ⟨id, rfl, hrun⟩
    · cases hid
  · next hnot =>
    obtain ⟨v, m₂, -, hpure⟩ := bind_ok_inv h
    cases hpure
    simp only [Bool.or_eq_true, not_or, Bool.not_eq_true] at hnot
    exact .inr ⟨⟨v, rfl⟩, hnot⟩

section

variable {p : Program} {n : Nat}

theorem bindParam_stayArrays (isArray : Bool) (arg : Option Expr) :
    StayArrays (Call.bindParam (meaning p n) isArray arg) := by
  have h := stayArrays_respected
  have hq := h.under.toRespectsExprs
  exact @RespectsExprs.bindParam _ _ hq (meaning p n) (meaning p n) (fun _ => True)
    (fun e _ => (h.evaluation p n).1 e) h.newArray _ _ (fun _ _ => trivial) fun _ _ _ _ => trivial

theorem bindParams_stayArrays (params : List (String × Bool)) (args : List Expr) :
    StayArrays (Call.bindParams (meaning p n) params args) := by
  have h := stayArrays_respected
  have hq := h.under.toRespectsExprs
  exact @RespectsExprs.bindParams _ _ hq (meaning p n) (meaning p n) (fun _ => True)
    (fun e _ => (h.evaluation p n).1 e) h.newArray _ _ (fun _ _ => trivial)
    fun _ _ _ _ _ _ => trivial

/-- One of the parameters, between those before and those behind it. -/
theorem bindParams_at : ∀ {params : List (String × Bool)} {args : List Expr} {m m₁ : Machine}
    {bindings : List (String × Binding)} {owned : List Nat} {i : Nat} {q : String}
    {isArray : Bool} {e : Expr}, Call.bindParams (meaning p n) params args m =
      .ok (bindings, owned) m₁ → params[i]? = some (q, isArray) → args[i]? = some e →
    ∃ m₂ m₃ b made, ArraysStay m.scope m₂.scope ∧
      Call.bindParam (meaning p n) isArray (some e) m₂ = .ok (b, made) m₃ ∧
      ArraysStay m₃.scope m₁.scope ∧ (q, b) ∈ bindings
  | [], args, m, m₁, bindings, owned, i, q, isArray, e, hrun, hparam, harg => by cases hparam
  | (param, mark) :: params, args, m, m₁, bindings, owned, i, q, isArray, e, hrun, hparam,
      harg => by
    obtain ⟨⟨b, made⟩, m₂, hfirst, hrun⟩ := bind_ok_inv hrun
    obtain ⟨⟨bindings', owned'⟩, m₃, hrest, hpure⟩ := bind_ok_inv hrun
    cases hpure
    cases i with
    | zero =>
      cases hparam
      have hstay := bindParams_stayArrays (p := p) (n := n) params args.tail m₂
      rw [after_of_ok hrest] at hstay
      rw [List.head?_eq_getElem?, harg] at hfirst
      exact ⟨m, m₂, b, made, .refl _, hfirst, hstay, List.mem_cons_self⟩
    | succ i =>
      have hstay := bindParam_stayArrays (p := p) (n := n) mark args.head? m
      rw [after_of_ok hfirst] at hstay
      rw [← List.getElem?_tail] at harg
      obtain ⟨m₄, m₅, b', made', hbefore, hbind, hbehind, hmem⟩ :=
        bindParams_at hrest hparam harg
      exact ⟨m₄, m₅, b', made', hstay.trans hbefore, hbind, hbehind,
        List.mem_cons_of_mem _ hmem⟩

theorem bindParams_names : ∀ {params : List (String × Bool)} {args : List Expr} {m m₁ : Machine}
    {bindings : List (String × Binding)} {owned : List Nat},
    Call.bindParams (meaning p n) params args m = .ok (bindings, owned) m₁ →
    bindings.map Prod.fst = params.map Prod.fst
  | [], args, m, m₁, bindings, owned, hrun => by
    cases hrun
    rfl
  | (param, mark) :: params, args, m, m₁, bindings, owned, hrun => by
    obtain ⟨⟨b, made⟩, m₂, -, hrun⟩ := bind_ok_inv hrun
    obtain ⟨⟨bindings', owned'⟩, m₃, hrest, hpure⟩ := bind_ok_inv hrun
    cases hpure
    rw [List.map_cons, List.map_cons, bindParams_names hrest]

/-- One of the arguments, between those before and those behind it, and what its parameter is bound
to when the call begins. -/
theorem enter_binds {f : Function} (hnodup : f.params.Nodup) {args : List Expr}
    {place : Location} {m m₁ : Machine} {bindings : List (String × Binding)} {owned : List Nat}
    {i : Nat} {q : String} {e : Expr} (hq : f.params[i]? = some q) (he : args[i]? = some e)
    (henter : Call.enter (meaning p n) f args place m = .ok (bindings, owned) m₁) :
    ∃ m₂ m₃ b made, ArraysStay m.scope m₂.scope ∧
      Call.bindParam (meaning p n) (f.isArrayParam i) (some e) m₂ = .ok (b, made) m₃ ∧
      ArraysStay m₃.scope m₁.scope ∧ (m₁.enterCall bindings owned).scope.local? q = some b := by
  have hbind := bindParams_of_enter henter
  have hparam : (f.params.zipIdx.map fun param => (param.1, f.isArrayParam param.2))[i]? =
      some (q, f.isArrayParam i) := by
    rw [List.getElem?_map, List.getElem?_zipIdx, hq, Option.map_some, Option.map_some, Nat.zero_add]
  have hnames : (bindings.map Prod.fst).Nodup := by
    rw [bindParams_names hbind, List.map_map]
    have hfst : f.params.zipIdx.map
        (Prod.fst ∘ fun param => (param.1, f.isArrayParam param.2)) = f.params :=
      List.zipIdx_map_fst 0 f.params
    exact (congrArg List.Nodup hfst).mpr hnodup
  obtain ⟨m₂, m₃, b, made, hbefore, hat, hbehind, hmem⟩ := bindParams_at hbind hparam he
  exact ⟨m₂, m₃, b, made, hbefore, hat, hbehind, lookup_foldl_insert hnames hmem⟩

/-- What the name of a parameter is bound to when a call begins, from what the caller's name
stands for. -/
theorem enter_at {f : Function} (hnodup : f.params.Nodup) {args : List Expr}
    {place place' : Location} {m m₁ : Machine} {bindings : List (String × Binding)}
    {owned : List Nat} {i : Nat} {q x : String} (hq : f.params[i]? = some q)
    (hx : args[i]? = some (.var x place'))
    (henter : Call.enter (meaning p n) f args place m = .ok (bindings, owned) m₁)
    (hkept : m.scope.local? x = none → m₁.scope.local? x = none) :
    ∃ b, (m₁.enterCall bindings owned).scope.local? q = some b ∧
      ((∃ id, b = .array id ∧ m₁.scope.lookup? x = some (.array id)) ∨
        (∃ v, b = .scalar v) ∧ f.isArrayParam i = false ∧ m.scope.isArray x = false) := by
  obtain ⟨m₂, m₃, b, made, hbefore, hat, hbehind, hb⟩ := enter_binds hnodup hq hx henter
  refine ⟨b, hb, ?_⟩
  have hmiddle : ArraysStay m₂.scope m₃.scope := by
    have hstay := bindParam_stayArrays (p := p) (n := n) (f.isArrayParam i)
      (some (.var x place')) m₂
    rw [after_of_ok hat] at hstay
    exact hstay
  rcases bindParam_var hat with ⟨id, rfl, hid⟩ | ⟨hscalar, hmark, hnot⟩
  · refine .inl ⟨id, rfl, hbehind.lookup (lookup?_of_arrayId hid) fun hnone => hkept ?_⟩
    exact hbefore.bound x (hmiddle.bound x hnone)
  · refine .inr ⟨hscalar, hmark, ?_⟩
    by_contra harray
    obtain ⟨id, hid⟩ := isArray_iff.mp (Bool.not_eq_false _ ▸ harray)
    have hlater := hbefore.lookup hid fun hnone =>
      hmiddle.bound x (hbehind.bound x (hkept hnone))
    rw [isArray_iff.mpr ⟨id, hlater⟩] at hnot
    cases hnot

end

/-! ## The body of a call -/

namespace Scope

/-- The parameter `q` of a call stands for the given array or for none, and the name `x` of the
caller for that array if there is one.  The caller is seen at depth `d`. -/
def Shares (d : Nat) (x q : String) (a : Option Nat) (s : Scope) : Prop :=
  (s.atDepth (d + 1)).arrayOf? q = a ∧ (a.isSome → (s.atDepth d).arrayOf? x = a)

instance (d : Nat) (x q : String) (a : Option Nat) : DecidablePred (Shares d x q a) := fun _ =>
  inferInstanceAs (Decidable (_ ∧ _))

/-- The property of the frame of a call that decides what its parameter stands for. -/
def Stands (q : String) : Option Nat → Frame → Prop
  | some id, f => f.locals[q]? = some (.array id)
  | none, f => ∃ v, f.locals[q]? = some (.scalar v)

/-- The property of the globals that keeps what the caller's name stands for. -/
def Names (caller : Scope) (x : String) : Option Nat → Bindings → Prop
  | some id, g => ({ caller with globals := g } : Scope).lookup? x = some (.array id)
  | none, _ => True

theorem stands_kept {q : String} {a : Option Nat} {N : String → Prop}
    (hN : a = none → ∀ name, N name → name ≠ q) (f f' : Frame) (hchange : FrameChange N f f')
    (h : Stands q a f) : Stands q a f' := by
  cases a with
  | some id =>
    have hq : f.locals[q]? = some (.array id) := h
    have hother : ∀ {name : String} {b : Binding}, name ≠ q →
        (f.locals.insert name b)[q]? = some (.array id) := by
      intro name b hne
      rw [Bindings.getElem?_insert, if_neg hne]
      exact hq
    cases hchange with
    | none => exact h
    | assigned name v hna =>
      refine hother ?_
      rintro rfl
      exact hna id hq
    | made id' _ hunset =>
      refine hother ?_
      rintro rfl
      rw [hq] at hunset
      cases hunset
  | none =>
    obtain ⟨v, hv⟩ := h
    cases hchange with
    | none => exact ⟨v, hv⟩
    | assigned name w _ =>
      show ∃ v, (f.locals.insert name (.scalar w))[q]? = some (.scalar v)
      rw [Bindings.getElem?_insert]
      split
      · exact ⟨w, rfl⟩
      · exact ⟨v, hv⟩
    | made id' hname _ =>
      refine ⟨v, ?_⟩
      show (f.locals.insert _ (.array id'))[q]? = some (.scalar v)
      rw [Bindings.getElem?_insert, if_neg (hN rfl _ hname)]
      exact hv

theorem names_stable (caller : Scope) (x : String) (a : Option Nat) :
    GlobalsStable (Names caller x a) := by
  intro g g' hkept h
  cases a with
  | none => trivial
  | some id =>
    have hstay : ArraysStay { caller with globals := g } { caller with globals := g' } :=
      arraysStay_of_frames ⟨rfl, rfl, fun _ => hkept⟩ rfl fun _ _ => hkept.array
    exact hstay.lookup h fun hnone => hnone

/-- In the call and beyond it the frame says what the parameter stands for. -/
theorem arrayOf?_of_stands {s : Scope} {q : String} {a : Option Nat} (above : List Frame)
    {f : Frame} {base : List Frame} (hframes : s.frames = above ++ f :: base) (hf : Stands q a f) :
    (s.atDepth (base.length + 1)).arrayOf? q = a := by
  have hinner : s.atDepth (base.length + 1) = { s with frames := f :: base } :=
    atDepth_of_append above (f :: base) hframes
  rw [hinner]
  cases a with
  | some id =>
    refine arrayOf?_eq_some.mpr ?_
    simp only [lookup?, local?, show f.locals[q]? = some (.array id) from hf]
  | none =>
    obtain ⟨v, hv⟩ := hf
    simp only [arrayOf?, lookup?, local?, hv]

/-- In the call and beyond it the frame and the globals say what the names stand for. -/
theorem shares_of_frames {caller s : Scope} {x q : String} {a : Option Nat} (above : List Frame)
    {f : Frame} (hframes : s.frames = above ++ f :: caller.frames) (hf : Stands q a f)
    (hg : Names caller x a s.globals) : Shares caller.depth x q a s := by
  have houter : s.atDepth caller.depth = { s with frames := caller.frames } :=
    atDepth_of_append (above ++ [f]) caller.frames (by rw [hframes, List.append_assoc]; rfl)
  refine ⟨arrayOf?_of_stands above hframes hf, fun hsome => ?_⟩
  rw [houter]
  cases a with
  | some id => exact arrayOf?_eq_some.mpr hg
  | none => cases hsome

/-! ## Behind the call -/

theorem table_release_of_ne {a : Arena} {id x : Nat} (h : x ≠ id) :
    (a.release id).table x = a.table x := by
  simp only [Arena.table, Arena.release, Array.getElem?_modify, if_neg (Ne.symm h)]

theorem table_releaseAll {x : Nat} : ∀ {ids : List Nat} {a : Arena}, x ∉ ids →
    (ids.foldl Arena.release a).table x = a.table x
  | [], _, _ => rfl
  | id :: ids, a, h => by
    obtain ⟨hne, hrest⟩ := not_or.mp (List.mem_cons.not.mp h)
    rw [List.foldl_cons, table_releaseAll hrest, table_release_of_ne hne]

/-- What is anchored below a frame does not belong to the frame. -/
theorem Sound.not_owned {s : Scope} {l : Ledger} (h : Sound s l) {f : Frame} {fs : List Frame}
    (hf : s.frames = f :: fs) {id : Nat} (hid : Anchored s.globals fs id) : id ∉ f.owned := by
  intro howned
  rcases hid with hglobal | hlower
  · refine h.reserved_local id (List.mem_append_left _ ?_) hglobal
    rw [hf]
    exact List.mem_append_left _ howned
  · have hnodup := (List.nodup_append.mp h.reserved_nodup).1
    rw [hf, ownedBy, List.flatMap_cons] at hnodup
    exact (List.nodup_append.mp hnodup).2.2 id howned id hlower rfl

/-- Behind a call the arrays that the caller knows are as the body has left them. -/
theorem Sound.table_popFrame {s : Scope} {l : Ledger} (h : Sound s l) {f : Frame}
    {fs : List Frame} (hf : s.frames = f :: fs) {id : Nat} (hid : Anchored s.globals fs id) :
    s.popFrame.table id = s.table id := by
  rw [Scope.popFrame, hf]
  exact table_releaseAll (h.not_owned hf hid)

theorem Sound.settled_below {s : Scope} {l : Ledger} (h : Sound s l) {f : Frame}
    {fs : List Frame} (hf : s.frames = f :: fs) : ∃ ks, Settled s.globals fs ks := by
  have hset := h.settled
  rw [hf] at hset
  cases hk : l.known with
  | nil => rw [hk] at hset; exact hset.elim
  | cons k ks =>
    rw [hk] at hset
    exact ⟨ks, hset.2⟩

/-- Behind a call the caller's name stands for the array as the body has left it. -/
theorem InCall.popFrame {caller s : Scope} {φ : Frame → Prop} {x : String} {id : Nat} {l : Ledger}
    (h : InCall φ (Names caller x (some id)) caller.frames s) (hs : Sound s l) :
    s.popFrame.arrayOf? x = some id ∧ s.popFrame.table id = s.table id := by
  obtain ⟨⟨f, hframes, -⟩, hg⟩ := h
  obtain ⟨ks, hbelow⟩ := hs.settled_below hframes
  have hseen : ({ s with frames := caller.frames } : Scope).lookup? x = some (.array id) := hg
  refine ⟨arrayOf?_eq_some.mpr ?_, hs.table_popFrame hframes
    (hbelow.lookup (s := { s with frames := caller.frames }) hseen)⟩
  rw [Scope.popFrame, hframes]
  exact hseen

end Scope

/-! ## Calls -/

section

variable {p : Program} {n : Nat}

/-- Where the frame of a call says at first what its parameter stands for, it says so all the time
that the body runs. -/
theorem body_stands {γ : Bindings → Prop} {base : List Frame} {ok : Machine → Prop}
    [DecidablePred ok] {q : String} {a : Option Nat} {body : List Stmt} (hγ : GlobalsStable γ)
    (hok : ∀ (m : Machine) (above : List Frame) (f : Frame), m.scope.frames = above ++ f :: base →
      Stands q a f → γ m.scope.globals → ok m)
    (hspared : a = none → ∀ s ∈ body, s.Spares p q) (alarm : Stop) :
    Throughout (fun m => InCall (Stands q a) γ base m.scope) (Call.sequence (exec p n) body)
      (Call.sequence (execWatched ok alarm p n) body) := by
  have hin : ∀ m : Machine, InCall (Stands q a) γ base m.scope → ok m := by
    rintro m ⟨⟨f, hframes, hf⟩, hg⟩
    exact hok m [] f hframes hf hg
  have hbeyond : ∀ m : Machine, BeyondCall (Stands q a) γ base m.scope → ok m := by
    rintro m ⟨⟨top, above, f, hframes, hf⟩, hg⟩
    exact hok m (top :: above) f hframes hf hg
  cases a with
  | some id =>
    -- The name of an array can be used in every way.
    refine inCall_sequence (N := fun _ => True) (E := fun _ => True) (S := fun _ => True)
      (stands_kept fun h => by cases h) hγ hin hbeyond ?_ ?_ (fun _ _ _ _ _ _ => trivial)
      (fun _ _ _ _ _ _ _ _ _ _ _ => trivial) n fun _ _ => trivial
    · intro e _
      rw [Permit.arrays_true]
      exact e.permitted_all
    · intro s _
      rw [Permit.arrays_true]
      exact s.permitted_all
  | none =>
    exact inCall_sequence (N := (· ≠ q)) (E := Expr.Spares p q) (S := Stmt.Spares p q)
      (stands_kept fun _ _ h => h) hγ hin hbeyond (fun _ h => h.permitted) (fun _ h => h.permitted)
      (fun _ _ _ h => h.arguments.1) (fun _ _ _ _ hf h => h.arguments.2 _ hf) n (hspared rfl)

/-- Where the frame and the globals say at first what the names stand for, they say so all the time
that the body runs. -/
theorem body_shares (caller : Scope) (x : String) {q : String} {a : Option Nat} {body : List Stmt}
    (hspared : a = none → ∀ s ∈ body, s.Spares p q) (alarm : Stop) :
    Throughout (fun m => InCall (Stands q a) (Names caller x a) caller.frames m.scope)
      (Call.sequence (exec p n) body)
      (Call.sequence
        (execWatched (fun m => m.scope.Shares caller.depth x q a) alarm p n) body) :=
  body_stands (names_stable caller x a)
    (fun _ above _ hframes hf hg => shares_of_frames above hframes hf hg) hspared alarm

/-- At the end of the body of a call the arrays are accounted for. -/
theorem sound_behind_body {f : Function} {args : List Expr} {place : Location} {m m₁ : Machine}
    {bindings : List (String × Binding)} {owned : List Nat} (hm : m.Sound)
    (henter : Call.enter (meaning p n) f args place m = .ok (bindings, owned) m₁)
    (body : List Stmt) :
    (after (Call.sequence (exec p n) body) (m₁.enterCall bindings owned)).Sound := by
  obtain ⟨l, hl⟩ := hm
  obtain ⟨hv, hr⟩ := soundFor_evaluation p .exhausted n
  obtain ⟨noted, htold, hbindings⟩ :=
    enter_told (fun e l m hm => (hv e l m hm).2) hl.soundFor henter
  obtain ⟨l₁, hin, -⟩ := htold.pushFrame hbindings
  exact .of_soundFor ((soundFor_respected.sequence fun s _ => hr s) l₁ _ hin).2

end

/-- A call of a function of a program that was read, with the name `x` for its parameter `q`, where
no argument makes `x` a local of the caller that it was not.  Either the parameter stands for no
array, as long as the body runs and whatever it calls, or it stands for one array all the time.
Then `x` stands for that array in the caller, all the time and when the call has returned, and its
elements are then those that the body has left.  A parameter that is passed on is used by a further
call, of which the same is true.

In a function a later argument can make `x` a local although it has just been made an array: with an
assignment, as in `f(x, x = 5)`, or with a read of the main input that passes over an operand `x=5`.
The name then stands for a scalar in the caller, and the parameter for the array.

The body may not have a built-in function fill the parameter in parentheses, unless it is marked
or `x` is an array already. -/
theorem array_passed_by_reference {source : String} {p : Program} {n i : Nat}
    {name q x : String} {f : Function} {args : List Expr} {place place' : Location}
    {m m₁ : Machine} {bindings : List (String × Binding)} {owned : List Nat}
    (hp : parseProgram source = .ok p) (hm : m.Sound) (hf : p.function? name = some f)
    (hq : f.params[i]? = some q) (hx : args[i]? = some (.var x place'))
    (henter : Call.enter (meaning p n) f args place m = .ok (bindings, owned) m₁)
    (hkept : m.scope.local? x = none → m₁.scope.local? x = none)
    (hseen : f.isArrayParam i ∨ m.scope.isArray x ∨ q ∉ f.wrapped) :
    let inside := m₁.enterCall bindings owned
    let body := Call.sequence (meaning p n).run f.body.body
    let d := m₁.scope.depth
    ∃ a : Option Nat, inside.scope.Shares d x q a ∧
      (∀ alarm, Call.sequence
        (meaningWatched (fun m => m.scope.Shares d x q a) alarm p n).run f.body.body inside =
          body inside) ∧
      (after body inside).scope.Shares d x q a ∧
      ∀ id, a = some id →
        let behind := after (eval p (n + 1) (.call name args place)) m
        behind.scope.arrayOf? x = some id ∧
          behind.scope.table id = (after body inside).scope.table id := by
  intro inside body d
  have hresolved := parseProgram_resolved hp
  obtain ⟨b, hb, hcase⟩ := enter_at (hresolved.nodup f (List.mem_of_find?_eq_some hf)) hq hx henter
    hkept
  obtain ⟨a, hstands, hnames, hspared⟩ : ∃ a : Option Nat,
      (∃ f, inside.scope.frames = f :: m₁.scope.frames ∧ Stands q a f) ∧
        Names m₁.scope x a m₁.scope.globals ∧ (a = none → ∀ s ∈ f.body.body, s.Spares p q) := by
    rcases hcase with ⟨id, rfl, hid⟩ | ⟨⟨v, rfl⟩, hmark, hnot⟩
    · exact ⟨some id, ⟨_, rfl, hb⟩, hid, fun h => by cases h⟩
    · refine ⟨none, ⟨_, rfl, v, hb⟩, trivial, fun _ => hresolved.spares hf hq hmark ?_⟩
      rw [hmark, hnot] at hseen
      simpa using hseen
  have hentered : InCall (Stands q a) (Names m₁.scope x a) m₁.scope.frames inside.scope :=
    ⟨hstands, hnames⟩
  have hshares : ∀ {s : Scope}, InCall (Stands q a) (Names m₁.scope x a) m₁.scope.frames s →
      s.Shares d x q a := by
    rintro s ⟨⟨f, hframes, hf⟩, hg⟩
    exact shares_of_frames [] hframes hf hg
  have hrun := fun alarm => body_shares (n := n) m₁.scope x hspared alarm inside hentered
  have hended := (hrun .exhausted).2
  refine ⟨a, hshares hentered, fun alarm => (hrun alarm).1, hshares hended, ?_⟩
  rintro id rfl behind
  obtain ⟨l, hsound⟩ := sound_behind_body hm henter f.body.body
  have hbehind : behind.scope = (after body inside).scope.popFrame := by
    rw [show behind.scope = _ from scope_after_call hf henter, Call.body, after_inFrame]
    rfl
  rw [hbehind]
  exact hended.popFrame hsound

/-- What the call of a function with one parameter binds. -/
theorem enter_one {self : Meaning} {f : Function} {param : String} {isArray : Bool} {arg : Expr}
    {place : Location} {m : Machine} (hdepth : m.callDepth < maxCallDepth)
    (hparams : f.params = [param]) (hmarks : f.arrayParams = [isArray]) :
    Call.enter self f [arg] place m = Call.bindParams self [(param, isArray)] [arg] m := by
  have hzip : (f.params.zipIdx.map fun param => (param.1, f.isArrayParam param.2)) =
      [(param, isArray)] := by
    simp [hparams, hmarks, Function.isArrayParam]
  have hfew : ¬f.params.length < [arg].length := by simp [hparams]
  rw [Call.enter, if_neg hfew, bind_of_ok (get_run m), if_neg (by omega)]
  exact congrArg (fun params => Call.bindParams self params [arg] m) hzip

/-- A name that was never set is passed to a function that sets an element of its parameter:
behind the call it stands for the array with the next number. -/
theorem array_passed_by_reference_unset :
    let m := Machine.initial .empty
    let call : Expr := .call "f" [.var "x" .start] .start
    m.scope.lookup? "x" = none ∧
      ∃ p, parseProgram "function f(a) \x7b a[1] = 2 \x7d" = .ok p ∧
        (after (eval p 9 call) m).scope.arrayOf? "x" = some 2 := by
  intro m call
  have hread : ((parseProgram "function f(a) \x7b a[1] = 2 \x7d").toOption.bind fun p =>
      (p.function? "f").map fun f => (f.params, f.arrayParams)) = some (["a"], [true]) := by
    decide +kernel
  obtain ⟨p, hp, hread⟩ := exists_ok_of_bind hread
  obtain ⟨f, hf, hmarks⟩ := Option.map_eq_some_iff.mp hread
  rw [Prod.mk.injEq] at hmarks
  obtain ⟨hparams, hmarks⟩ := hmarks
  have henter : Call.enter (meaning p 8) f [.var "x" .start] .start m =
      .ok ([("a", .array 2)], []) (after (onScope (arrayId "x")) m) := by
    rw [enter_one (by decide) hparams hmarks]
    rfl
  obtain ⟨a, hshares, -, -, hbehind⟩ := array_passed_by_reference (i := 0) hp
    (Machine.initial_sound .empty) hf (by rw [hparams]; rfl) rfl henter (fun _ => rfl)
    (.inl (by rw [Function.isArrayParam, hmarks]; rfl))
  exact ⟨rfl, p, hp, (hbehind 2 hshares.1.symm).1⟩

/-- The same with a function that has its parameter filled in parentheses: the parameter stands for
an array of two elements when the body ends, and behind the call the name of the caller stands for
no array at all. -/
theorem array_lost_in_parentheses :
    let m := Machine.initial .empty
    let call : Expr := .call "f" [.var "x" .start] .start
    m.scope.lookup? "x" = none ∧
      ∃ p f m₁ bindings owned, parseProgram "function f(a) \x7b split(\"x y\", (a)) \x7d" = .ok p ∧
        p.function? "f" = some f ∧ f.params[0]? = some "a" ∧
        Call.enter (meaning p 8) f [.var "x" .start] .start m = .ok (bindings, owned) m₁ ∧
        (let ended := after (Call.sequence (meaning p 8).run f.body.body)
          (m₁.enterCall bindings owned)
        ∃ id, ended.scope.arrayOf? "a" = some id ∧ (ended.scope.table id).size = 2) ∧
        (after (eval p 9 call) m).scope.arrayOf? "x" = none := by
  intro m call
  have hread : ((parseProgram "function f(a) \x7b split(\"x y\", (a)) \x7d").toOption.bind fun p =>
      (p.function? "f").map fun f =>
        let ended := after (Call.sequence (meaning p 8).run f.body.body)
          (m.enterCall [("a", .scalar .uninit)] [])
        (f.params, f.arrayParams, ended.scope.arrayOf? "a", (ended.scope.table 2).size,
          (after (eval p 9 call) m).scope.arrayOf? "x")) =
      some (["a"], [false], some 2, 2, none) := by decide +kernel
  obtain ⟨p, hp, hread⟩ := exists_ok_of_bind hread
  obtain ⟨f, hf, hrest⟩ := Option.map_eq_some_iff.mp hread
  simp only [Prod.mk.injEq] at hrest
  obtain ⟨hparams, hmarks, harray, hsize, hlost⟩ := hrest
  have henter : Call.enter (meaning p 8) f [.var "x" .start] .start m =
      .ok ([("a", .scalar .uninit)], []) m := by
    rw [enter_one (by decide) hparams hmarks]
    rfl
  exact ⟨rfl, p, f, m, _, _, hp, hf, by rw [hparams]; rfl, henter, ⟨2, harray, hsize⟩, hlost⟩

end Awk
