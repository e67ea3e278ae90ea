import Awk.Proofs.ArrayNumbers
import Awk.Proofs.CallDepth
import Mathlib.Data.List.Perm.Subperm

/-!
# The numbers of arrays in a run

`Scope.Sound` is kept by every step that its holder may take.  Here it is kept by evaluation: a
program takes no other steps.  What has to be followed is the ledger, from the moment a parameter
is bound to an array to the moment the frame of the call is there, and over the arguments that are
evaluated between.  Evaluation only adds to what is known of the present call, so that all it was
told stays in use.
-/

namespace Awk

namespace Scope

/-- A ledger of the same callers that knows no less. -/
structure Ledger.Extends (l l' : Ledger) : Prop where
  fresh : l.fresh.Subperm l'.fresh
  here : l.here ⊆ l'.here
  callers : l'.known.tail = l.known.tail

namespace Ledger

theorem Extends.refl (l : Ledger) : l.Extends l := ⟨List.Subperm.refl _, List.Subset.refl _, rfl⟩

theorem Extends.trans {l₁ l₂ l₃ : Ledger} (h₁ : l₁.Extends l₂) (h₂ : l₂.Extends l₃) :
    l₁.Extends l₃ :=
  ⟨h₁.fresh.trans h₂.fresh, List.Subset.trans h₁.here h₂.here, h₂.callers.trans h₁.callers⟩

/-- The ledger with more numbers that names were resolved to and more of new arrays. -/
def told (l : Ledger) (noted made : List Nat) : Ledger :=
  { fresh := made ++ l.fresh, known := (noted ++ l.here) :: l.known.tail }

theorem extends_told (l : Ledger) (noted made : List Nat) : l.Extends (l.told noted made) :=
  ⟨(List.sublist_append_right made l.fresh).subperm, List.subset_append_right noted l.here, rfl⟩

theorem told_nil_extends (l : Ledger) : (l.told [] []).Extends l :=
  ⟨List.Subperm.refl _, List.Subset.refl _, rfl⟩

theorem told_extends_note (l : Ledger) (id : Nat) : (l.told [id] []).Extends (l.note id) :=
  ⟨List.Subperm.refl _, List.Subset.refl _, rfl⟩

theorem told_mono {l l' : Ledger} (h : l.Extends l') (noted made : List Nat) :
    (l.told noted made).Extends (l'.told noted made) :=
  ⟨(List.subperm_append_left made).mpr h.fresh,
    List.append_subset.mpr ⟨List.subset_append_left _ _,
      List.Subset.trans h.here (List.subset_append_right _ _)⟩, h.callers⟩

theorem told_append_extends (l : Ledger) (noted₁ noted₂ made₁ made₂ : List Nat) :
    (l.told (noted₁ ++ noted₂) (made₁ ++ made₂)).Extends
      ((l.told noted₁ made₁).told noted₂ made₂) := by
  refine ⟨?_, ?_, rfl⟩
  · show (made₁ ++ made₂ ++ l.fresh).Subperm (made₂ ++ (made₁ ++ l.fresh))
    rw [← List.append_assoc]
    exact (List.perm_append_comm.append_right l.fresh).subperm
  · intro id hid
    simp only [told, here, List.headD_cons, List.mem_append] at hid ⊢
    rcases hid with (hid | hid) | hid
    · exact .inr (.inl hid)
    · exact .inl hid
    · exact .inr (.inr hid)

end Ledger

/-- The scope is sound with a ledger that knows no less than the given one. -/
def SoundFor (l : Ledger) (s : Scope) : Prop := ∃ l', l.Extends l' ∧ Sound s l'

theorem Sound.soundFor {s : Scope} {l : Ledger} (h : Sound s l) : SoundFor l s := ⟨l, .refl l, h⟩

theorem SoundFor.mono {s : Scope} {l l' : Ledger} (hl : l.Extends l') (h : SoundFor l' s) :
    SoundFor l s := by
  obtain ⟨l'', hl', hs⟩ := h
  exact ⟨l'', hl.trans hl', hs⟩

theorem SoundFor.note {s s₁ : Scope} {l : Ledger} {name : String} {id : Nat} (h : SoundFor l s)
    (hid : arrayId name s = .ok id s₁) : SoundFor (l.told [id] []) s₁ := by
  obtain ⟨l', hl, hs⟩ := h
  exact ⟨l'.note id, (Ledger.told_mono hl [id] []).trans (l'.told_extends_note id), hs.note hid⟩

theorem SoundFor.newArray {s s₁ : Scope} {l : Ledger} {id : Nat} (h : SoundFor l s)
    (hid : Scope.newArray s = .ok id s₁) : SoundFor (l.told [] [id]) s₁ := by
  obtain ⟨l', hl, hs⟩ := h
  exact ⟨{ l' with fresh := id :: l'.fresh },
    ⟨(List.subperm_cons id).mpr hl.fresh, hl.here, hl.callers⟩, hs.newArray hid⟩

theorem soundFor_stable (l : Ledger) : Stable .all (SoundFor l) where
  sameNames hsame h := by
    obtain ⟨l, hl, hs⟩ := h
    exact ⟨l, hl, hs.sameNames hsame⟩
  access a _ h := by
    obtain ⟨l, hl, hs⟩ := h
    exact ⟨l, hl, hs.access a⟩
  setVar name v h := by
    obtain ⟨l, hl, hs⟩ := h
    exact ⟨l, hl, hs.access (.setVar name v)⟩
  refill t _ hid h := by
    obtain ⟨l, hl, hs⟩ := h.note hid
    have hin : _ ∈ l.here := hl.here (List.mem_append_left _ (List.mem_singleton_self _))
    exact ⟨l, (Ledger.extends_told _ _ _).trans hl, hs.modifyTable (hs.told_live (.inl hin)) _⟩
  newArray h := (h.newArray rfl).mono (Ledger.extends_told _ _ _)

/-- Inside of a call the scope is sound, and what is sound there is sound again behind the
call. -/
theorem SoundFor.pushFrame {s : Scope} {l : Ledger} {noted owned : List Nat}
    {bindings : List (String × Binding)} (h : SoundFor (l.told noted owned) s)
    (hbindings : ∀ name id, (name, .array id) ∈ bindings → id ∈ noted ∨ id ∈ owned) :
    ∃ l₁, SoundFor l₁ (s.pushFrame bindings owned) ∧
      ∀ s₂, SoundFor l₁ s₂ → SoundFor l s₂.popFrame := by
  obtain ⟨l', ⟨hfresh, hhere, hcallers⟩, hs⟩ := h
  have hfreshNodup : l'.fresh.Nodup := (List.nodup_append.mp hs.reserved_nodup).2.1
  obtain ⟨howned, hold, hapart⟩ : owned.Nodup ∧ l.fresh.Nodup ∧
      ∀ a ∈ owned, ∀ b ∈ l.fresh, a ≠ b := by
    obtain ⟨k, hperm, hsub⟩ := hfresh
    exact List.nodup_append.mp (hperm.nodup_iff.mp (hsub.nodup hfreshNodup))
  have hpush : Sound (s.pushFrame bindings owned) (l'.enter owned) := by
    refine hs.push (fun name id hb => ?_) howned fun id hid => ?_
    · exact (hbindings name id hb).imp (fun hid => hhere (List.mem_append_left _ hid)) fun h => h
    · exact hfresh.subset (List.mem_append_left _ hid)
  obtain ⟨k, ks, hks, -⟩ := hs.settled.here
  refine ⟨l'.enter owned, hpush.soundFor, fun s₂ hs₂ => ?_⟩
  obtain ⟨l₂, ⟨hfresh₂, -, hcallers₂⟩, hsound⟩ := hs₂
  obtain ⟨k₂, hk₂⟩ : ∃ k₂, l₂.known = k₂ :: k :: ks := by
    have htail : l₂.known.tail = k :: ks := hcallers₂.trans hks
    cases hknown : l₂.known with
    | nil => rw [hknown] at htail; cases htail
    | cons k₂ rest =>
      rw [hknown] at htail
      exact ⟨k₂, by rw [← htail, List.tail_cons]⟩
  have hleave : l₂.leave = { l₂ with known := l'.known } := by
    unfold Ledger.leave
    rw [hk₂, hks]
  refine ⟨l₂.leave, ?_, hsound.pop⟩
  rw [hleave]
  refine ⟨?_, fun id hid => hhere (List.mem_append_right _ hid), hcallers⟩
  -- What was new before the call is not owned by it.
  have hkept : l.fresh ⊆ (l'.enter owned).fresh := by
    intro id hid
    refine List.mem_filter.mpr ⟨hfresh.subset (List.mem_append_right _ hid), ?_⟩
    simpa using fun hmem => hapart id hmem id hid rfl
  exact (hold.subperm hkept).trans hfresh₂

end Scope

open Eval Scope

/-! ## Calls -/

theorem bindParams_of_enter {self : Meaning} {f : Function} {args : List Expr} {place : Location}
    {m m₁ : Machine} {bound : List (String × Binding) × List Nat}
    (h : Call.enter self f args place m = .ok bound m₁) :
    Call.bindParams self (f.params.zipIdx.map fun (param, i) => (param, f.isArrayParam i)) args m =
      .ok bound m₁ := by
  unfold Call.enter at h
  split at h
  · cases h
  · rw [bind_of_ok (get_run m)] at h
    split at h
    · cases h
    · exact h

section

variable {self : Meaning}
  (hv : ∀ e l m, SoundFor l m.scope → SoundFor l (after (self.value e) m).scope)

include hv

/-- A parameter that is bound to an array is bound to one that its holder was told. -/
theorem bindParam_told {isArray : Bool} {arg : Option Expr} {m m₁ : Machine} {b : Binding}
    {made : List Nat} {l : Ledger} (h : SoundFor l m.scope)
    (hrun : Call.bindParam self isArray arg m = .ok (b, made) m₁) :
    ∃ noted, SoundFor (l.told noted made) m₁.scope ∧
      ∀ id, b = .array id → id ∈ noted ∨ id ∈ made := by
  have hscalar : ∀ e : Expr, (do return (Binding.scalar (← self.value e), ([] : List Nat))) m =
      .ok (b, made) m₁ → ∃ noted, SoundFor (l.told noted made) m₁.scope ∧
        ∀ id, b = .array id → id ∈ noted ∨ id ∈ made := by
    intro e hrun
    obtain ⟨v, m₂, hvalue, hpure⟩ := bind_ok_inv hrun
    cases hpure
    have hafter := hv e l m h
    rw [after_of_ok hvalue] at hafter
    exact ⟨[], hafter.mono l.told_nil_extends, fun id hid => by cases hid⟩
  have hfresh : Call.bindParam.fresh m = .ok (b, made) m₁ →
      ∃ noted, SoundFor (l.told noted made) m₁.scope ∧
        ∀ id, b = .array id → id ∈ noted ∨ id ∈ made := by
    intro hrun
    obtain ⟨id, m₂, hnew, hpure⟩ := bind_ok_inv hrun
    cases hpure
    cases hnew
    exact ⟨[], h.newArray rfl, fun id hid => by cases hid; exact .inr (List.mem_singleton_self _)⟩
  unfold Call.bindParam at hrun
  split at hrun
  · next name place =>
    rw [bind_of_ok (show scope m = .ok m.scope m from rfl)] at hrun
    split at hrun
    · obtain ⟨id, m₂, hid, hpure⟩ := bind_ok_inv hrun
      cases hpure
      have hnote : SoundFor (l.told [id] []) m₁.scope := by
        unfold onScope at hid
        split at hid
        · next hid' =>
          cases hid
          exact h.note hid'
        · cases hid
      exact ⟨[id], hnote, fun x hx => by cases hx; exact .inl (List.mem_singleton_self _)⟩
    · exact hscalar _ hrun
  · split at hrun
    · exact hfresh hrun
    · exact hscalar _ hrun
  · split at hrun
    · exact hfresh hrun
    · cases hrun
      exact ⟨[], h.mono l.told_nil_extends, fun id hid => by cases hid⟩

theorem bindParams_told {params : List (String × Bool)} : ∀ {args : List Expr} {m m₁ : Machine}
    {bindings : List (String × Binding)} {owned : List Nat} {l : Ledger}, SoundFor l m.scope →
    Call.bindParams self params args m = .ok (bindings, owned) m₁ →
    ∃ noted, SoundFor (l.told noted owned) m₁.scope ∧
      ∀ name id, (name, .array id) ∈ bindings → id ∈ noted ∨ id ∈ owned := by
  induction params with
  | nil =>
    intro args m m₁ bindings owned l h hrun
    cases hrun
    exact ⟨[], h.mono l.told_nil_extends, fun name id hid => by cases hid⟩
  | cons param params ih =>
    obtain ⟨param, isArray⟩ := param
    intro args m m₁ bindings owned l h hrun
    obtain ⟨⟨b, made⟩, m₂, hparam, hrun⟩ := bind_ok_inv hrun
    obtain ⟨⟨bindings', owned'⟩, m₃, hparams, hpure⟩ := bind_ok_inv hrun
    cases hpure
    obtain ⟨noted₁, hsound₁, hb⟩ := bindParam_told hv h hparam
    obtain ⟨noted₂, hsound₂, hbs⟩ := ih hsound₁ hparams
    refine ⟨noted₁ ++ noted₂, hsound₂.mono (l.told_append_extends _ _ _ _), fun name id hid => ?_⟩
    rcases List.mem_cons.mp hid with heq | hid
    · exact (hb id (Prod.mk.inj heq).2.symm).imp (List.mem_append_left _) (List.mem_append_left _)
    · exact (hbs name id hid).imp (List.mem_append_right _) (List.mem_append_right _)

theorem enter_told {f : Function} {args : List Expr} {place : Location} {m m₁ : Machine}
    {bindings : List (String × Binding)} {owned : List Nat} {l : Ledger} (h : SoundFor l m.scope)
    (hrun : Call.enter self f args place m = .ok (bindings, owned) m₁) :
    ∃ noted, SoundFor (l.told noted owned) m₁.scope ∧
      ∀ name id, (name, .array id) ∈ bindings → id ∈ noted ∨ id ∈ owned :=
  bindParams_told hv h (bindParams_of_enter hrun)

end

/-! ## Evaluation -/

/-- Some ledger accounts for the arrays of the machine. -/
def Machine.Sound (m : Machine) : Prop := ∃ l, Scope.Sound m.scope l

noncomputable instance : DecidablePred Machine.Sound := Classical.decPred _

theorem Machine.Sound.of_soundFor {m : Machine} {l : Ledger} (h : SoundFor l m.scope) :
    m.Sound := by
  obtain ⟨l', -, hs⟩ := h
  exact ⟨l', hs⟩

theorem Machine.initial_sound (world : World) : (Machine.initial world).Sound :=
  ⟨.start, Scope.initial_sound world.environment⟩

theorem soundFor_respected :
    RespectsStatements .all fun _ x y => ∀ l, Throughout (fun m => SoundFor l m.scope) x y :=
  .together fun l => (soundFor_stable l).respected

theorem soundFor_user {p : Program} {n : Nat} {self : Meaning}
    (hv : ∀ e l, Throughout (fun m => SoundFor l m.scope) (eval p n e) (self.value e))
    (hr : ∀ s l, Throughout (fun m => SoundFor l m.scope) (exec p n s) (self.run s)) (f : Function)
    (args : List Expr) (place : Location) (l : Ledger) :
    Throughout (fun m => SoundFor l m.scope) (Call.user (meaning p n) f args place)
      (Call.user self f args place) := by
  have h := soundFor_respected
  have henter : ∀ l, Throughout (fun m => SoundFor l m.scope)
      (Call.enter (meaning p n) f args place) (Call.enter self f args place) :=
    h.enter (E := fun _ => True) (fun e _ => hv e)
      (fun l => (soundFor_stable l).throughout_newArray) f place (fun _ _ => trivial)
      fun _ _ _ _ _ => trivial
  have hbody : ∀ l, Throughout (fun m => SoundFor l m.scope) (Call.sequence (exec p n) f.body.body)
      (Call.sequence self.run f.body.body) := h.sequence fun s _ => hr s
  intro m hm
  refine (henter l m hm).bind fun bound m₁ hrun _ => ?_
  obtain ⟨noted, htold, hbindings⟩ := enter_told (fun e l m hm => (hv e l m hm).2) hm hrun
  obtain ⟨l₁, hin, hout⟩ := htold.pushFrame hbindings
  have hframe : Keeps (fun m => SoundFor l m.scope) (Call.body (meaning p n) f bound.1 bound.2)
      (Call.body self f bound.1 bound.2) m₁ := (hbody l₁ _ hin).inFrame fun hafter => hout _ hafter
  exact hframe.bind fun flow m₂ _ hm₂ => throughout_conclude flow m₂ hm₂

/-- Evaluation adds to what is known of the arrays of the present call, and keeps all of it in
use. -/
theorem soundFor_evaluation (p : Program) (alarm : Stop) (n : Nat) :
    (∀ e l, Throughout (fun m => SoundFor l m.scope) (eval p n e)
      (evalWatched Machine.Sound alarm p n e)) ∧
    ∀ s l, Throughout (fun m => SoundFor l m.scope) (exec p n s)
      (execWatched Machine.Sound alarm p n s) := by
  have hall : (∀ e, True → ∀ l, Throughout (fun m => SoundFor l m.scope) (eval p n e)
        (evalWatched Machine.Sound alarm p n e)) ∧
      ∀ s, True → ∀ l, Throughout (fun m => SoundFor l m.scope) (exec p n s)
        (execWatched Machine.Sound alarm p n s) :=
    soundFor_respected.evaluationWatched (fun e _ => e.permitted_all)
      (fun s _ => s.permitted_all) (fun _ _ _ _ _ _ => trivial)
      (fun hx l => (hx l).watched (fun _ => .of_soundFor) alarm)
      (fun n hv hr _ f args place _ _ => soundFor_user (fun e => hv e trivial)
        (fun s => hr s trivial) f args place) n
  exact ⟨fun e => hall.1 e trivial, fun s => hall.2 s trivial⟩

/-- Wherever evaluation starts with arrays that are accounted for, they are so before and behind
every expression and every statement that is evaluated, in the bodies of functions as well. -/
theorem sound_throughout (p : Program) (alarm : Stop) (n : Nat) :
    (∀ e, Throughout Machine.Sound (eval p n e) (evalWatched Machine.Sound alarm p n e)) ∧
      ∀ s, Throughout Machine.Sound (exec p n s) (execWatched Machine.Sound alarm p n s) := by
  obtain ⟨hv, hr⟩ := soundFor_evaluation p alarm n
  refine ⟨fun e m hm => ?_, fun s m hm => ?_⟩
  · obtain ⟨l, hs⟩ := hm
    obtain ⟨heq, hafter⟩ := hv e l m hs.soundFor
    exact ⟨heq, .of_soundFor hafter⟩
  · obtain ⟨l, hs⟩ := hm
    obtain ⟨heq, hafter⟩ := hr s l m hs.soundFor
    exact ⟨heq, .of_soundFor hafter⟩

/-! ## Runs -/

theorem after_attempt {α : Type} (x : Eval α) (m : Machine) :
    after (Run.attempt x) m = after x m := by
  simp only [after, Run.attempt]
  rcases x m with ⟨a, m₁⟩ | ⟨_ | _ | _, m₁⟩ <;> rfl

theorem Throughout.attempt {ok : Machine → Prop} {α : Type} {x y : Eval α}
    (hx : Throughout ok x y) : Throughout ok (Run.attempt x) (Run.attempt y) := by
  intro m hm
  obtain ⟨heq, hafter⟩ := hx m hm
  refine ⟨by rw [Run.attempt, Run.attempt, heq], ?_⟩
  rw [after_attempt]
  exact hafter

namespace Scope.Stable

variable {φ : Scope → Prop} (h : Stable .all φ) (hpop : ∀ s, φ s → φ s.popFrame)
  {self self' : Meaning} (hv : ∀ e, Throughout (fun m => φ m.scope) (self.value e) (self'.value e))
  (hr : ∀ s, Throughout (fun m => φ m.scope) (self.run s) (self'.run s))

include hpop

theorem throughout_reset : Throughout (fun m => φ m.scope) Run.reset Run.reset := by
  have hall : ∀ (frames : List Frame) s, φ s → φ (frames.foldl (fun s _ => s.popFrame) s) := by
    intro frames
    induction frames with
    | nil => exact fun s hs => hs
    | cons _ frames ih => exact fun s hs => ih _ (hpop s hs)
  exact .same fun m hm => hall m.scope.frames m.scope hm

include h

theorem throughout_handle (e : Error) :
    Throughout (fun m => φ m.scope) (Run.handle e) (Run.handle e) := by
  refine (throughout_reset hpop).bind fun _ => h.respected.get.bind fun m => ?_
  cases m.policy with
  | abort => exact h.respected.stop _
  | skipRule => exact throughout_of_scope fun _ => rfl

include hv hr

omit hpop hv in
theorem throughout_act (r : Rule) :
    Throughout (fun m => φ m.scope) (Run.act self r) (Run.act self' r) := by
  unfold Run.act
  cases r.action with
  | none => exact h.respected.printRecord.bind fun _ => h.respected.pure _
  | some block => exact h.respected.sequence fun s _ => hr s

omit hpop in
theorem throughout_dispatch (i : Nat) (r : Rule) :
    Throughout (fun m => φ m.scope) (Run.dispatch self i r) (Run.dispatch self' i r) := by
  refine (h.respected.selectsAny hv i r.pattern).bind fun selected => h.respected.unlessPending ?_
  cases selected with
  | true => exact h.throughout_act hr r
  | false => exact h.respected.pure _

omit hv in
theorem throughout_beginRules (rules : List Rule) :
    Throughout (fun m => φ m.scope) (Run.beginRules self rules) (Run.beginRules self' rules) := by
  induction rules with
  | nil => exact h.respected.pure _
  | cons r rest ih =>
    refine (h.throughout_act hr r).attempt.bind fun flow => ?_
    split
    · exact .bind (throughout_of_scope fun _ => rfl) fun _ => h.respected.pure _
    · exact ih
    · exact (h.throughout_handle hpop _).bind fun _ => ih

omit hv in
theorem throughout_endRules (rules : List Rule) :
    Throughout (fun m => φ m.scope) (Run.endRules self rules) (Run.endRules self' rules) := by
  induction rules with
  | nil => exact h.respected.pure _
  | cons r rest ih =>
    refine (h.throughout_act hr r).attempt.bind fun flow => ?_
    split
    · exact throughout_of_scope fun _ => rfl
    · exact ih
    · exact (throughout_reset hpop).bind fun _ => h.respected.stop _

theorem throughout_processRecord (rules : List (Rule × Nat)) :
    Throughout (fun m => φ m.scope) (Run.processRecord self rules)
      (Run.processRecord self' rules) := by
  induction rules with
  | nil => exact h.respected.pure _
  | cons rule rest ih =>
    obtain ⟨r, i⟩ := rule
    refine (h.throughout_dispatch hv hr i r).attempt.bind fun flow => ?_
    split
    · exact h.respected.pure _
    · exact h.respected.pure _
    · exact ih
    · exact (h.throughout_handle hpop _).bind fun _ => ih

theorem throughout_mainRules (rules : List (Rule × Nat)) (turns : Nat) :
    Throughout (fun m => φ m.scope) (Run.mainRules self rules turns)
      (Run.mainRules self' rules turns) := by
  have hq := h.respected
  induction turns with
  | zero => exact hq.stop _
  | succ turns ih =>
    refine .bind (throughout_of_scope fun _ => rfl) fun cancelled => ?_
    split
    · exact throughout_of_scope fun _ => rfl
    · refine hq.nextRecord.bind fun record => ?_
      cases record with
      | none => exact hq.pure _
      | some record =>
        refine hq.countRecord.bind fun _ =>
          (hq.sameNames _ (setRecord_sameNames record)).bind fun _ =>
            (h.throughout_processRecord hpop hv hr rules).bind fun signal => ?_
        split
        · exact throughout_of_scope fun _ => rfl
        · exact .bind (throughout_of_scope fun _ => rfl) fun _ => ih
        · exact ih

/-- A property that steps and the end of calls keep holds throughout a run. -/
theorem throughout_phases (p : Program) (turns : Nat) (sources : List Source) :
    Throughout (fun m => φ m.scope) (Run.phases self p turns sources)
      (Run.phases self' p turns sources) := by
  have hq := h.respected
  have hbegan : Throughout (fun m => φ m.scope) (Run.beforeEnd self p turns)
      (Run.beforeEnd self' p turns) := by
    refine (h.throughout_beginRules hpop hr _).bind fun exited => ?_
    split
    · exact h.throughout_mainRules hpop hv hr _ turns
    · exact hq.pure _
  have hended := h.throughout_endRules hpop hr (p.rules.filter (·.isEnd))
  refine .bind (throughout_of_scope fun _ => rfl) fun _ => ?_
  refine hbegan.attempt.bind fun began => hended.attempt.bind fun ended => ?_
  refine .bind (throughout_of_scope fun _ => rfl) fun _ => hq.flush.attempt.bind fun flushed => ?_
  split
  · exact hq.stop _
  · exact hq.stop _
  · exact hq.stop _
  · exact hq.get.bind fun _ => hq.pure _

end Scope.Stable

/-- That some ledger accounts for the arrays is kept by all steps at one depth of calls. -/
theorem sound_stable : Scope.Stable .all fun s => ∃ l, Scope.Sound s l where
  sameNames hsame h := by
    obtain ⟨l, hs⟩ := h
    exact ⟨l, hs.sameNames hsame⟩
  access a _ h := by
    obtain ⟨l, hs⟩ := h
    exact ⟨l, hs.access a⟩
  setVar name v h := by
    obtain ⟨l, hs⟩ := h
    exact ⟨l, hs.access (.setVar name v)⟩
  refill t hall hid h := by
    obtain ⟨l, hs⟩ := h
    obtain ⟨l', -, hs'⟩ := (soundFor_stable l).refill t hall hid hs.soundFor
    exact ⟨l', hs'⟩
  newArray h := by
    obtain ⟨l, hs⟩ := h
    exact ⟨_, hs.newArray rfl⟩

theorem Setting.apply_sound (s : Setting) : Throughout Machine.Sound s.apply s.apply := by
  have hq := sound_stable.respected
  cases s with
  | fieldSeparator fs => exact hq.access (.setVar "FS" (.ofText fs)) trivial
  | args as =>
    refine .same fun m hm => ?_
    obtain ⟨l, hs⟩ := hm
    exact ⟨l, hs.setArgs as⟩
  | assign text => exact hq.assign text
  | preset name value =>
    show Throughout Machine.Sound (onScope (Scope.preset name value))
      (onScope (Scope.preset name value))
    unfold Scope.preset
    split
    · exact hq.access (.setVar name (.infer value)) trivial
    · exact hq.stop _
  | _ => exact .same fun _ hm => hm

/-- In a session the arrays are accounted for between runs, and throughout every run. -/
theorem Session.Reached.sound {p : Program} {m : Machine} (h : Session.Reached p m) :
    m.Sound ∧ ∀ n alarm sources,
      Run.phases (meaningWatched Machine.Sound alarm p n) p n sources m =
        Run.program p n sources m := by
  have hrun : ∀ n alarm sources, Throughout Machine.Sound (Run.program p n sources)
      (Run.phases (meaningWatched Machine.Sound alarm p n) p n sources) := by
    intro n alarm sources
    have hv : ∀ e, Throughout Machine.Sound ((meaning p n).value e)
        ((meaningWatched Machine.Sound alarm p n).value e) := (sound_throughout p alarm n).1
    have hr : ∀ s, Throughout Machine.Sound ((meaning p n).run s)
        ((meaningWatched Machine.Sound alarm p n).run s) := (sound_throughout p alarm n).2
    exact sound_stable.throughout_phases (fun s ⟨l, hs⟩ => ⟨_, hs.pop⟩) hv hr p n sources
  have hsound : m.Sound := by
    induction h with
    | start world => exact Machine.initial_sound world
    | setting s _ hleaves ih =>
      rw [← after_of_leaves hleaves]
      exact (s.apply_sound _ ih).2
    | run sources sink _ hleaves ih =>
      have hsink := (Throughout.same (fun m hm => hm) : Throughout Machine.Sound
        (modify fun m : Machine => { m with sink }) _).bind fun _ =>
          hrun Session.ample .exhausted sources
      rw [← after_of_leaves hleaves]
      exact (hsink _ ih).2
  exact ⟨hsound, fun n alarm sources => (hrun n alarm sources m hsound).1⟩

end Awk
