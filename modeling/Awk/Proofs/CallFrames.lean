import Awk.Proofs.Scoping
import Awk.Proofs.Watch

/-!
# The frame of a call while its body runs

What a body does to the frame of its call it does by its own accesses, one at a time; the calls
that it makes never reach the frame, because they have frames of their own above it.  So a
property of the frame holds all the time that the body runs, at every depth of calls, if the
accesses keep it that stand in the body itself.
-/

namespace Awk

namespace Scope

/-! ## The innermost frame -/

/-- The name that an access takes for that of an array. -/
def Access.array? {α : Type} : Access α → Option String
  | getVar _ | setVar _ _ => none
  | arrayId array | getElement array _ | setElement array _ _ | deleteElement array _
  | clearArray array | arrayKeys array | hasElement array _ | arraySize array => some array

end Scope

/-- The accesses that take for arrays only some of the names. -/
def Permit.arrays (N : String → Prop) : Permit := fun _ a => ∀ name ∈ a.array?, N name

theorem Permit.arrays_true : Permit.arrays (fun _ => True) = .all :=
  funext fun _ => funext fun _ => propext ⟨fun _ => trivial, fun _ _ _ => trivial⟩

namespace Scope

/-- How a frame changes: a name that stands for no array is assigned, or one of some names that
was never set becomes an array of the frame. -/
inductive FrameChange (N : String → Prop) (f : Frame) : Frame → Prop where
  | none : FrameChange N f f
  | assigned (name : String) (v : Value) : (∀ id, f.locals[name]? ≠ some (.array id)) →
      FrameChange N f { f with locals := f.locals.insert name (.scalar v) }
  | made {name : String} (id : Nat) : N name → f.locals[name]? = some (.scalar .uninit) →
      FrameChange N f
        { locals := f.locals.insert name (.array id), owned := f.owned ++ [id] }

/-- An assignment binds its name or leaves all names alone. -/
theorem setVar_names (name : String) (v : Value) (s : Scope) :
    SameNames s (after (setVar name v) s) ∨
      (∀ id, s.assigned? name ≠ some (.array id)) ∧
        after (setVar name v) s = s.bind name (.scalar v) := by
  unfold setVar
  split
  · next special _ => exact .inl (setSpecial_sameNames special v s)
  · unfold after
    split
    · next h =>
      dsimp only at h
      split at h
      · cases h
      · next hna =>
        cases h
        exact .inr ⟨hna, rfl⟩
    · next h =>
      dsimp only at h
      split at h
      · cases h
        exact .inl (.refl s)
      · cases h

section

variable {N : String → Prop} {s : Scope} {f : Frame} {fs : List Frame} (hf : s.frames = f :: fs)

include hf

theorem arrayId_frame {name : String} (hname : N name) :
    ∃ f', (after (arrayId name) s).frames = f' :: fs ∧ FrameChange N f f' := by
  cases hrun : arrayId name s with
  | error fault s₁ =>
    rw [after_of_error hrun, arrayId_error hrun]
    exact ⟨f, hf, .none⟩
  | ok id s₁ =>
    rw [after_of_ok hrun]
    cases arrayId_resolved hrun with
    | found _ => exact ⟨f, hf, .none⟩
    | inFrame hf' hunset _ =>
      obtain ⟨rfl, rfl⟩ := List.cons.inj (hf.symm.trans hf')
      exact ⟨_, rfl, .made id hname hunset⟩
    | asGlobal _ _ => exact ⟨f, hf, .none⟩

/-- An operation that first asks for an array and leaves the frames alone then. -/
theorem arrayId_bind_frame {α : Type} {name : String} {k : Nat → Op α} (hname : N name)
    (hk : ∀ id s₁, (after (k id) s₁).frames = s₁.frames) :
    ∃ f', (after (arrayId name >>= k) s).frames = f' :: fs ∧ FrameChange N f f' := by
  have hframe := arrayId_frame hf hname
  cases hrun : arrayId name s with
  | error fault s₁ =>
    rw [after_of_error hrun] at hframe
    rw [after_bind_of_error hrun]
    exact hframe
  | ok id s₁ =>
    rw [after_of_ok hrun] at hframe
    rw [after_bind_of_ok hrun, hk]
    exact hframe

theorem setVar_frame (name : String) (v : Value) :
    ∃ f', (after (setVar name v) s).frames = f' :: fs ∧ FrameChange N f f' := by
  rcases setVar_names name v s with hsame | ⟨hna, heq⟩
  · exact ⟨f, hsame.frames.trans hf, .none⟩
  · refine ⟨{ f with locals := f.locals.insert name (.scalar v) }, ?_, .assigned name v ?_⟩
    · rw [heq, bind, hf]
    · rw [assigned?, hf] at hna
      exact hna

theorem access_frame {α : Type} (a : Access α) (ha : Permit.arrays N a) :
    ∃ f', (after a.op s).frames = f' :: fs ∧ FrameChange N f f' := by
  cases a with
  | getVar name =>
    rw [Access.op, getVar_after]
    exact ⟨f, hf, .none⟩
  | setVar name v => exact setVar_frame hf name v
  | arrayId name => exact arrayId_frame hf (ha name rfl)
  | getElement array key =>
    refine arrayId_bind_frame hf (ha array rfl) fun id s₁ => ?_
    rw [after_bind_of_ok (get_run s₁)]
    cases (s₁.table id)[key]? <;> rfl
  | setElement array key v => exact arrayId_bind_frame hf (ha array rfl) fun _ _ => rfl
  | deleteElement array key => exact arrayId_bind_frame hf (ha array rfl) fun _ _ => rfl
  | clearArray array => exact arrayId_bind_frame hf (ha array rfl) fun _ _ => rfl
  | arrayKeys array => exact arrayId_bind_frame hf (ha array rfl) fun _ _ => rfl
  | hasElement array key => exact arrayId_bind_frame hf (ha array rfl) fun _ _ => rfl
  | arraySize array => exact arrayId_bind_frame hf (ha array rfl) fun _ _ => rfl

end

/-! ## A call and the calls beyond it -/

/-- The scope in the body of a call: its frame has one property, and the globals another. -/
def InCall (φ : Frame → Prop) (γ : Bindings → Prop) (base : List Frame) (s : Scope) : Prop :=
  (∃ f, s.frames = f :: base ∧ φ f) ∧ γ s.globals

/-- The scope in a call that the body of another has made, directly or not. -/
def BeyondCall (φ : Frame → Prop) (γ : Bindings → Prop) (base : List Frame) (s : Scope) : Prop :=
  (∃ top above f, s.frames = top :: (above ++ f :: base) ∧ φ f) ∧ γ s.globals

/-- A property of globals that no call takes from them. -/
def GlobalsStable (γ : Bindings → Prop) : Prop := ∀ g g', GlobalsKept g g' → γ g → γ g'

section

variable {φ : Frame → Prop} {γ : Bindings → Prop} {base : List Frame}

theorem InCall.pushFrame {s : Scope} (h : InCall φ γ base s) (bindings : List (String × Binding))
    (owned : List Nat) : BeyondCall φ γ base (s.pushFrame bindings owned) := by
  obtain ⟨⟨f, hframes, hf⟩, hg⟩ := h
  obtain ⟨top, htop⟩ : ∃ top, (s.pushFrame bindings owned).frames = top :: s.frames := ⟨_, rfl⟩
  rw [hframes] at htop
  exact ⟨⟨top, [], f, htop, hf⟩, hg⟩

theorem BeyondCall.pushFrame {s : Scope} (h : BeyondCall φ γ base s)
    (bindings : List (String × Binding)) (owned : List Nat) :
    BeyondCall φ γ base (s.pushFrame bindings owned) := by
  obtain ⟨⟨top, above, f, hframes, hf⟩, hg⟩ := h
  obtain ⟨top', htop⟩ : ∃ top, (s.pushFrame bindings owned).frames = top :: s.frames := ⟨_, rfl⟩
  rw [hframes] at htop
  exact ⟨⟨top', top :: above, f, htop, hf⟩, hg⟩

theorem within_arrayId_modify {s s₁ : Scope} {name : String} {id : Nat}
    (hid : arrayId name s = .ok id s₁) (f : Table → Table) :
    Within s { s₁ with arena := s₁.arena.modify id f } :=
  (arrayId_resolved hid).within.trans ⟨rfl, rfl, fun _ => .refl _⟩

/-- What depends on the frames below the innermost one and on the globals only. -/
theorem stable_of_within {ψ : Scope → Prop} (h : ∀ s s', Within s s' → ψ s → ψ s') :
    Stable .all ψ where
  sameNames hsame := h _ _ hsame.within
  access a _ := h _ _ (a.effect _).within
  setVar name v := h _ _ (setVar_effect name v _).within
  refill t _ hid := h _ _ (within_arrayId_modify hid fun _ => t)
  newArray := h _ _ ⟨rfl, rfl, fun _ => .refl _⟩

theorem beyondCall_stable (hγ : GlobalsStable γ) : Stable .all (BeyondCall φ γ base) := by
  refine stable_of_within ?_
  rintro s s' ⟨hdepth, hbelow, hglobals⟩ ⟨⟨top, above, f, hframes, hf⟩, hg⟩
  refine ⟨?_, hγ _ _ (hglobals (by rw [hframes]; exact List.cons_ne_nil _ _)) hg⟩
  rw [hframes, List.tail_cons] at hbelow
  rw [hframes] at hdepth
  cases hframes' : s'.frames with
  | nil => rw [hframes'] at hdepth; cases hdepth
  | cons top' rest =>
    rw [hframes', List.tail_cons] at hbelow
    exact ⟨top', above, f, by rw [hbelow], hf⟩

theorem inCall_stable {N : String → Prop} (hφ : ∀ f f', FrameChange N f f' → φ f → φ f')
    (hγ : GlobalsStable γ) : Stable (Permit.arrays N) (InCall φ γ base) := by
  have hglobals : ∀ {s s' : Scope}, InCall φ γ base s → Within s s' → γ s'.globals := by
    rintro s s' ⟨⟨f, hframes, -⟩, hg⟩ hwithin
    exact hγ _ _ (hwithin.globals (by rw [hframes]; exact List.cons_ne_nil _ _)) hg
  have hsame : ∀ {s s' : Scope}, InCall φ γ base s → Within s s' → s'.frames = s.frames →
      InCall φ γ base s' := by
    intro s s' h hwithin heq
    refine ⟨?_, hglobals h hwithin⟩
    rw [heq]
    exact h.1
  have hchange : ∀ {s s' : Scope}, InCall φ γ base s → Within s s' →
      (∀ f, s.frames = f :: base → ∃ f', s'.frames = f' :: base ∧ FrameChange N f f') →
      InCall φ γ base s' := by
    intro s s' h hwithin hframe
    refine ⟨?_, hglobals h hwithin⟩
    obtain ⟨⟨f, hframes, hf⟩, -⟩ := h
    obtain ⟨f', hframes', hstep⟩ := hframe f hframes
    exact ⟨f', hframes', hφ f f' hstep hf⟩
  exact
    { sameNames := fun hs h => hsame h hs.within hs.frames
      access := fun a ha h => hchange h (a.effect _).within fun f hf => access_frame hf a ha
      setVar := fun name v h =>
        hchange h (setVar_effect name v _).within fun f hf => setVar_frame hf name v
      refill := fun {s s₁ name id} t hname hid h => by
        refine hchange h (within_arrayId_modify hid fun _ => t) fun f hf => ?_
        have hframe := arrayId_frame hf (hname name rfl)
        rw [after_of_ok hid] at hframe
        exact hframe
      newArray := fun h => hsame h ⟨rfl, rfl, fun _ => .refl _⟩ rfl }

end

end Scope

/-! ## Bodies -/

open Eval Scope

section

variable {φ : Frame → Prop} {γ : Bindings → Prop} {base : List Frame} {p : Program}
  {ok : Machine → Prop} [DecidablePred ok] {alarm : Stop}

/-- A call leaves the frames of its callers alone. -/
theorem keeps_inFrame {ψ inside : Scope → Prop} {α : Type} {x y : Eval α}
    (hwithin : StaysWithin x) (hx : Throughout (fun m => inside m.scope) x y)
    {bindings : List (String × Binding)} {owned : List Nat}
    (henter : ∀ s, ψ s → inside (s.pushFrame bindings owned))
    (hψ : ∀ s s', s'.frames = s.frames → GlobalsKept s.globals s'.globals → ψ s → ψ s') :
    Throughout (fun m => ψ m.scope) (Call.inFrame bindings owned x)
      (Call.inFrame bindings owned y) := by
  intro m hm
  refine (hx _ (henter m.scope hm)).inFrame fun _ => ?_
  obtain ⟨hframes, hglobals⟩ := inFrame_keeps hwithin bindings owned m
  rw [after_inFrame] at hframes hglobals
  exact hψ _ _ hframes hglobals hm

/-- All that the calls do which a body makes leaves the frame of the body alone. -/
theorem beyondCall_evaluation (hγ : GlobalsStable γ)
    (hok : ∀ m : Machine, BeyondCall φ γ base m.scope → ok m) (n : Nat) :
    (∀ e, Throughout (fun m => BeyondCall φ γ base m.scope) (eval p n e)
      (evalWatched ok alarm p n e)) ∧
    ∀ s, Throughout (fun m => BeyondCall φ γ base m.scope) (exec p n s)
      (execWatched ok alarm p n s) := by
  have hstable : Stable .all (BeyondCall φ γ base) := beyondCall_stable hγ
  have h := hstable.respected
  have hall : (∀ e, True → Throughout (fun m => BeyondCall φ γ base m.scope) (eval p n e)
        (evalWatched ok alarm p n e)) ∧
      ∀ s, True → Throughout (fun m => BeyondCall φ γ base m.scope) (exec p n s)
        (execWatched ok alarm p n s) := by
    refine h.evaluationWatched (fun e _ => e.permitted_all) (fun s _ => s.permitted_all)
      (fun _ _ _ _ _ _ => trivial) (fun hx => hx.watched hok alarm) ?_ n
    intro n hv hr name f args place _ _
    have henter : Throughout (fun m => BeyondCall φ γ base m.scope)
        (Call.enter (meaning p n) f args place)
        (Call.enter (meaningWatched ok alarm p n) f args place) :=
      h.enter hv hstable.throughout_newArray f place (fun _ _ => trivial)
        fun _ _ _ _ _ => trivial
    have hbody : Throughout (fun m => BeyondCall φ γ base m.scope)
        (Call.sequence (exec p n) f.body.body)
        (Call.sequence (execWatched ok alarm p n) f.body.body) :=
      h.sequence fun s _ => hr s trivial
    refine henter.bind fun bound => .bind ?_ throughout_conclude
    refine keeps_inFrame (staysWithin_respected.block p n f.body.body) hbody
      (fun s hs => hs.pushFrame _ _) ?_
    rintro s s' hframes hglobals ⟨hf, hg⟩
    rw [← hframes] at hf
    exact ⟨hf, hγ _ _ hglobals hg⟩
  exact ⟨fun e => hall.1 e trivial, fun s => hall.2 s trivial⟩

/-- A body keeps a property of its frame if its own accesses do.  The terms that stand in it are
those of `E` and `S`; they take only the names of `N` for arrays, and pass no others on to
parameters for arrays. -/
theorem inCall_evaluation {N : String → Prop} {E : Expr → Prop} {S : Stmt → Prop}
    (hφ : ∀ f f', FrameChange N f f' → φ f → φ f') (hγ : GlobalsStable γ)
    (hin : ∀ m : Machine, InCall φ γ base m.scope → ok m)
    (hbeyond : ∀ m : Machine, BeyondCall φ γ base m.scope → ok m)
    (hE : ∀ e, E e → e.Permitted (Permit.arrays N) E)
    (hS : ∀ s, S s → s.Permitted (Permit.arrays N) E S)
    (hargs : ∀ name args place, E (.call name args place) → ∀ e ∈ args, E e)
    (harrays : ∀ name f args place, p.function? name = some f → E (.call name args place) →
      ∀ i x place', f.isArrayParam i → args[i]? = some (.var x place') → N x)
    (n : Nat) :
    (∀ e, E e → Throughout (fun m => InCall φ γ base m.scope) (eval p n e)
      (evalWatched ok alarm p n e)) ∧
    ∀ s, S s → Throughout (fun m => InCall φ γ base m.scope) (exec p n s)
      (execWatched ok alarm p n s) := by
  have hstable : Stable (Permit.arrays N) (InCall φ γ base) := inCall_stable hφ hγ
  have h := hstable.respected
  refine h.evaluationWatched hE hS hargs (fun hx => hx.watched hin alarm) ?_ n
  intro n hv _ name f args place hf hcall
  have henter : Throughout (fun m => InCall φ γ base m.scope)
      (Call.enter (meaning p n) f args place)
      (Call.enter (meaningWatched ok alarm p n) f args place) := by
    refine h.enter hv hstable.throughout_newArray f place (hargs name args place hcall) ?_
    intro i x place' hmark harg y hy
    cases hy
    exact harrays name f args place hf hcall i x place' hmark harg
  have hbody : Throughout (fun m => BeyondCall φ γ base m.scope)
      (Call.sequence (exec p n) f.body.body)
      (Call.sequence (execWatched ok alarm p n) f.body.body) :=
    (beyondCall_stable hγ).respected.sequence fun s _ => (beyondCall_evaluation hγ hbeyond n).2 s
  refine henter.bind fun bound => .bind ?_ throughout_conclude
  refine keeps_inFrame (staysWithin_respected.block p n f.body.body) hbody
    (fun s hs => hs.pushFrame _ _) ?_
  rintro s s' hframes hglobals ⟨hf, hg⟩
  rw [← hframes] at hf
  exact ⟨hf, hγ _ _ hglobals hg⟩

theorem inCall_sequence {N : String → Prop} {E : Expr → Prop} {S : Stmt → Prop}
    (hφ : ∀ f f', FrameChange N f f' → φ f → φ f') (hγ : GlobalsStable γ)
    (hin : ∀ m : Machine, InCall φ γ base m.scope → ok m)
    (hbeyond : ∀ m : Machine, BeyondCall φ γ base m.scope → ok m)
    (hE : ∀ e, E e → e.Permitted (Permit.arrays N) E)
    (hS : ∀ s, S s → s.Permitted (Permit.arrays N) E S)
    (hargs : ∀ name args place, E (.call name args place) → ∀ e ∈ args, E e)
    (harrays : ∀ name f args place, p.function? name = some f → E (.call name args place) →
      ∀ i x place', f.isArrayParam i → args[i]? = some (.var x place') → N x)
    (n : Nat) {body : List Stmt} (hbody : ∀ s ∈ body, S s) :
    Throughout (fun m => InCall φ γ base m.scope) (Call.sequence (exec p n) body)
      (Call.sequence (execWatched ok alarm p n) body) :=
  (inCall_stable hφ hγ).respected.sequence fun s hs =>
    (inCall_evaluation hφ hγ hin hbeyond hE hS hargs harrays n).2 s (hbody s hs)

end
end Awk
