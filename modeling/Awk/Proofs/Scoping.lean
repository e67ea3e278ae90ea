import Awk.Proofs.Respects

/-!
# The reach of a call

Inside of a call a scalar can only be assigned in the frame of the call.  `Within` is what
is left alone by all that runs at one depth: the frames below, and inside of calls the
globals, except that one without a value may become an array.  All steps keep it, so all
programs do, and a call as a whole leaves even the innermost frame of its caller alone.
-/

namespace Awk
namespace Scope

/-- What of the globals a call leaves alone.  A name that stands for nothing or has no
value may become an array, and nothing else changes. -/
def GlobalsKept (g g' : Bindings) : Prop :=
  ∀ name : String, g'[name]? = g[name]? ∨
    (g[name]? = none ∨ g[name]? = some (.scalar .uninit)) ∧ ∃ id, g'[name]? = some (.array id)

theorem GlobalsKept.refl (g : Bindings) : GlobalsKept g g := fun _ => .inl rfl

theorem GlobalsKept.trans {g₁ g₂ g₃ : Bindings} (h₁ : GlobalsKept g₁ g₂)
    (h₂ : GlobalsKept g₂ g₃) : GlobalsKept g₁ g₃ := by
  intro name
  rcases h₁ name with h₁ | ⟨hunset, id, harray⟩
  · rcases h₂ name with h₂ | ⟨hunset, harray⟩
    · exact .inl (h₂.trans h₁)
    · rw [h₁] at hunset
      exact .inr ⟨hunset, harray⟩
  · rcases h₂ name with h₂ | ⟨hunset', -⟩
    · exact .inr ⟨hunset, id, h₂.trans harray⟩
    · rw [harray] at hunset'
      rcases hunset' with h | h <;> cases h

theorem globalsKept_insert {g : Bindings} {name : String} {id : Nat}
    (h : ∀ b, g[name]? = some b → b = .scalar .uninit) :
    GlobalsKept g (g.insert name (.array id)) := by
  intro other
  rw [Bindings.getElem?_insert]
  split
  · next heq =>
    subst heq
    refine .inr ⟨?_, id, rfl⟩
    cases hb : g[name]? with
    | none => exact .inl rfl
    | some b =>
      rw [h b hb]
      exact .inr rfl
  · exact .inl rfl

/-- What is left alone at one depth of calls. -/
structure Within (s s' : Scope) : Prop where
  depth : s'.frames.length = s.frames.length
  below : s'.frames.tail = s.frames.tail
  globals : s.frames ≠ [] → GlobalsKept s.globals s'.globals

theorem Within.refl (s : Scope) : Within s s := ⟨rfl, rfl, fun _ => .refl s.globals⟩

theorem Within.trans {s₁ s₂ s₃ : Scope} (h₁ : Within s₁ s₂) (h₂ : Within s₂ s₃) :
    Within s₁ s₃ := by
  refine ⟨h₂.depth.trans h₁.depth, h₂.below.trans h₁.below, fun hin => ?_⟩
  have hin₂ : s₂.frames ≠ [] := by
    intro hnil
    have hlen := h₁.depth
    rw [hnil] at hlen
    exact hin (List.eq_nil_of_length_eq_zero hlen.symm)
  exact (h₁.globals hin).trans (h₂.globals hin₂)

theorem SameNames.within {s s' : Scope} (h : SameNames s s') : Within s s' := by
  refine ⟨by rw [h.frames], by rw [h.frames], fun _ => ?_⟩
  rw [h.globals]
  exact .refl s.globals

theorem Resolved.within {name : String} {s s' : Scope} {id : Nat} (h : Resolved name s id s') :
    Within s s' := by
  cases h with
  | found _ => exact .refl s
  | inFrame hf _ _ => exact ⟨by rw [hf]; rfl, by rw [hf]; rfl, fun _ => .refl s.globals⟩
  | asGlobal hnone _ => exact ⟨rfl, rfl, fun _ => globalsKept_insert hnone⟩

/-- Only outside of calls does an assignment reach the globals. -/
theorem bind_within (s : Scope) (name : String) (b : Binding) : Within s (s.bind name b) := by
  unfold bind
  split
  · next hf => exact ⟨rfl, rfl, fun hin => absurd hf hin⟩
  · next f fs hf => exact ⟨by rw [hf]; rfl, by rw [hf]; rfl, fun _ => .refl s.globals⟩

theorem Effect.within {s s' : Scope} (h : Effect s s') : Within s s' := by
  cases h with
  | none hsame => exact hsame.within
  | assigned name v _ => exact bind_within s name _
  | resolved hr => exact hr.within
  | changed f hr => exact hr.within.trans ⟨rfl, rfl, fun _ => .refl _⟩

end Scope

/-! ## Programs -/

open Eval Scope

/-- A computation that stays within its call. -/
def StaysWithin {α : Type} (x : Eval α) : Prop := ∀ m, Within m.scope (after x m).scope

/-- A whole call leaves even the innermost frame of the caller alone. -/
theorem inFrame_keeps {α : Type} {x : Eval α} (hx : StaysWithin x)
    (bindings : List (String × Binding)) (owned : List Nat) (m : Machine) :
    (after (Call.inFrame bindings owned x) m).scope.frames = m.scope.frames ∧
      GlobalsKept m.scope.globals (after (Call.inFrame bindings owned x) m).scope.globals := by
  let inner : Machine := m.enterCall bindings owned
  have hin : inner.scope.frames = _ :: m.scope.frames := rfl
  obtain ⟨hdepth, hbelow, hglobals⟩ := hx inner
  rw [after_inFrame]
  unfold Machine.leaveCall popFrame
  dsimp only
  split
  · next hf =>
    rw [hf, hin] at hdepth
    cases hdepth
  · next f fs hf =>
    rw [hf, hin] at hbelow
    exact ⟨hbelow, hglobals (by rw [hin]; exact List.cons_ne_nil _ _)⟩

theorem staysWithin_respected : RespectsCalls fun _ x _ => StaysWithin x where
  pure a m := .refl m.scope
  bind {α β x y f g} hx hf m := by
    have hm := hx m
    cases hrun : x m with
    | error why m₁ =>
      rw [after_of_error hrun] at hm
      rw [after_bind_of_error hrun]
      exact hm
    | ok a m₁ =>
      rw [after_of_ok hrun] at hm
      rw [after_bind_of_ok hrun]
      exact hm.trans (hf a m₁)
  stop why m := .refl m.scope
  located place hx m := by
    rw [after_located]
    exact hx m
  access a m := by
    rw [after_onScope]
    exact (a.effect m.scope).within
  newArray m := by
    rw [after_onScope]
    exact ⟨rfl, rfl, fun _ => .refl _⟩
  fillArray id values m := by
    rw [after_onScope]
    exact ⟨rfl, rfl, fun _ => .refl _⟩
  sameNames f hf m := (hf m.scope).within
  write text m := by
    rw [(after_write text m).1]
    exact .refl m.scope
  detached x hx m := by
    rw [(hx m).1]
    exact .refl m.scope
  takePending m := .refl m.scope
  leave s m := .refl m.scope
  inFrame bindings owned hx m := by
    obtain ⟨hframes, hglobals⟩ := inFrame_keeps hx bindings owned m
    exact ⟨by rw [hframes], by rw [hframes], fun _ => hglobals⟩

/-- A name bound to a scalar with a value keeps it. -/
theorem Scope.GlobalsKept.scalar {g g' : Bindings} (h : GlobalsKept g g') {name : String}
    {v : Value} (hv : v ≠ .uninit) (hg : g[name]? = some (.scalar v)) :
    g'[name]? = some (.scalar v) := by
  rcases h name with h | ⟨hunset, -⟩
  · rw [h, hg]
  · rw [hg] at hunset
    rcases hunset with hnone | hunset
    · cases hnone
    · cases hunset
      exact absurd rfl hv

/-- A scalar was one before. -/
theorem Scope.GlobalsKept.of_scalar {g g' : Bindings} (h : GlobalsKept g g') {name : String}
    {v : Value} (hg : g'[name]? = some (.scalar v)) : g[name]? = some (.scalar v) := by
  rcases h name with h | ⟨-, id, harray⟩
  · rw [← h, hg]
  · rw [hg] at harray
    cases harray

theorem user_after_enter {self : Meaning} {f : Function} {args : List Expr} {place : Location}
    {m m₁ : Machine} {bindings : List (String × Binding)} {owned : List Nat}
    (henter : Call.enter self f args place m = .ok (bindings, owned) m₁) :
    (after (Call.user self f args place) m).scope =
      (after (Call.body self f bindings owned) m₁).scope := by
  have hrun : after (Call.user self f args place) m =
      after (do Call.conclude (← Call.body self f bindings owned)) m₁ := by
    rw [Call.user, after_bind_of_ok henter]
  rw [hrun]
  cases hbody : Call.body self f bindings owned m₁ with
  | error why m₂ => rw [after_bind_of_error hbody, after_of_error hbody]
  | ok flow m₂ =>
    rw [after_bind_of_ok hbody, after_of_ok hbody]
    cases flow <;> rfl

theorem scope_after_call {p : Program} {n : Nat} {name : String} {f : Function} {args : List Expr}
    {place : Location} {m m₁ : Machine} {bindings : List (String × Binding)} {owned : List Nat}
    (hf : p.function? name = some f)
    (henter : Call.enter (meaning p n) f args place m = .ok (bindings, owned) m₁) :
    (after (eval p (n + 1) (.call name args place)) m).scope =
      (after (Call.body (meaning p n) f bindings owned) m₁).scope := by
  rw [eval, after_located, ← user_after_enter henter]
  show (after (Call.named (meaning p n) p name args place) m).scope = _
  rw [Call.named, hf]

/-- From the moment its parameters are bound to the moment it has returned, with a value or
with an error, a call of a function leaves alone the locals of every caller and the value
of every global scalar that has one.  No global scalar is new, and the names whose
global binding is another one are those that had no value and have become arrays. -/
theorem call_keeps_callers_and_globals {p : Program} {n : Nat} {name : String} {f : Function}
    {args : List Expr} {place : Location} {m m₁ : Machine}
    {bindings : List (String × Binding)} {owned : List Nat}
    (hf : p.function? name = some f)
    (henter : Call.enter (meaning p n) f args place m = .ok (bindings, owned) m₁) :
    let m₂ := after (eval p (n + 1) (.call name args place)) m
    m₂.scope.frames = m₁.scope.frames ∧
    (∀ (x : String) v, v ≠ .uninit → m₁.scope.globals[x]? = some (.scalar v) →
      m₂.scope.globals[x]? = some (.scalar v)) ∧
    (∀ (x : String) v, m₂.scope.globals[x]? = some (.scalar v) →
      m₁.scope.globals[x]? = some (.scalar v)) ∧
    (∀ x : String, m₂.scope.globals[x]? ≠ m₁.scope.globals[x]? →
      (m₁.scope.globals[x]? = none ∨ m₁.scope.globals[x]? = some (.scalar .uninit)) ∧
        ∃ id, m₂.scope.globals[x]? = some (.array id)) := by
  have hscope : (after (eval p (n + 1) (.call name args place)) m).scope =
      (after (Call.body (meaning p n) f bindings owned) m₁).scope := by
    rw [eval, after_located, ← user_after_enter henter]
    show (after (Call.named (meaning p n) p name args place) m).scope = _
    rw [Call.named, hf]
  have hbody : StaysWithin (Call.sequence (meaning p n).run f.body.body) :=
    staysWithin_respected.block p n f.body.body
  obtain ⟨hframes, hglobals⟩ := inFrame_keeps hbody bindings owned m₁
  dsimp only
  rw [hscope]
  refine ⟨hframes, fun x v hv hx => hglobals.scalar hv hx, fun x v hx => hglobals.of_scalar hx,
    fun x hx => ?_⟩
  rcases hglobals x with heq | hnew
  · exact absurd heq hx
  · exact hnew

/-- A function that assigns `g`, makes `a` an array and then fails: the global `g` keeps
its value. -/
theorem call_keeps_callers_and_globals_failing :
    let f : Function :=
      { name := "f", params := ["x"], arrayParams := [false]
        body :=
          { body :=
              [.expr (.assign none (.var "g" .start) (.string "inner" .start) .start),
                .delete "a" [] .start,
                .expr (.call "missing" [] .start)]
            place := .start }
        place := .start }
    let p : Program := { rules := [], functions := [f] }
    let m := after (onScope (setVar "g" (.str "outer"))) (Machine.initial .empty)
    Call.enter (meaning p 4) f [] .start m = .ok ([("x", .scalar .uninit)], []) m ∧
      (after (eval p (4 + 1) (.call "f" [] .start)) m).scope.globals["g"]? =
        some (.scalar (.str "outer")) := by
  intro f p m
  have hglobal : m.scope.globals["g"]? = some (.scalar (.str "outer")) := rfl
  have hdepth : m.callDepth = 0 := rfl
  have hf : p.function? "f" = some f := rfl
  have henter : Call.enter (meaning p 4) f [] .start m =
      .ok ([("x", .scalar .uninit)], []) m := by
    rw [Call.enter, if_neg (by decide), bind_of_ok (get_run m), if_neg (by rw [hdepth]; decide)]
    rfl
  have hkept := (call_keeps_callers_and_globals hf henter).2.1
  exact ⟨henter, hkept "g" (.str "outer") (fun h => by cases h) hglobal⟩

end Awk
