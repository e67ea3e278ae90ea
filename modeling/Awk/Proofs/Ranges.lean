import Awk.Proofs.DeadBranches
import Awk.Proofs.Report

/-!
# Ranges

A range has two states, and each record that its rule is applied to takes it from one to the other:
`Run.picks` is that machine by itself, and the intervals that it selects are read off the records
alone.  In a session the state of a range is kept by everything but its own rule, so that what the
rule selects is what the machine picks, from all the records that the rule is applied to, in one run
or in several.
-/

namespace Awk

open Eval

namespace Run

/-! ## Two states -/

section

variable {α : Type} (begins ends : α → Bool)

/-- What a range selects: everything while it is active, and what begins it. -/
def picks : Bool → List α → List Bool
  | _, [] => []
  | active, x :: rest => (active || begins x) :: picks ((active || begins x) && !ends x) rest

/-- Whether a range is active at the end. -/
def activeBehind : Bool → List α → Bool
  | active, [] => active
  | active, x :: rest => activeBehind ((active || begins x) && !ends x) rest

/-- Nothing ends the range from one position on, up to another. -/
def Unended (xs : List α) (j k : Nat) : Prop :=
  ∀ l z, j ≤ l → l < k → xs[l]? = some z → ends z = false

variable {begins ends} {x : α} {xs ys : List α} {active : Bool} {j k : Nat}

theorem picks_append : picks begins ends active (xs ++ ys) =
    picks begins ends active xs ++ picks begins ends (activeBehind begins ends active xs) ys := by
  induction xs generalizing active with
  | nil => rfl
  | cons x xs ih => rw [List.cons_append, picks, picks, activeBehind, ih, List.cons_append]

/-- The records count only for what the two tests say of them. -/
theorem picks_congr
    (h : (xs.map fun x => (begins x, ends x)) = ys.map fun y => (begins y, ends y)) :
    picks begins ends active xs = picks begins ends active ys := by
  induction xs generalizing ys active with
  | nil =>
    cases ys with
    | nil => rfl
    | cons => cases h
  | cons x xs ih =>
    cases ys with
    | nil => cases h
    | cons y ys =>
      simp only [List.map_cons, List.cons.injEq, Prod.mk.injEq] at h
      obtain ⟨⟨hbegins, hends⟩, hrest⟩ := h
      rw [picks, picks, hbegins, hends, ih hrest]

theorem unended_succ : Unended ends (x :: xs) (j + 1) (k + 1) ↔ Unended ends xs j k := by
  constructor
  · intro h l z hj hk hz
    exact h (l + 1) z (by omega) (by omega) hz
  · intro h l z hj hk hz
    cases l with
    | zero => omega
    | succ l => exact h l z (by omega) (by omega) hz

theorem unended_zero :
    Unended ends (x :: xs) 0 (k + 1) ↔ ends x = false ∧ Unended ends xs 0 k := by
  constructor
  · intro h
    refine ⟨h 0 x (Nat.le_refl 0) (Nat.succ_pos k) rfl, fun l z _ hk hz => ?_⟩
    exact h (l + 1) z (Nat.zero_le _) (by omega) hz
  · rintro ⟨hx, h⟩ l z - hk hz
    cases l with
    | zero =>
      cases hz
      exact hx
    | succ l => exact h l z (Nat.zero_le _) (by omega) hz

/-- What began the range came first or later. -/
theorem exists_begins_cons :
    (∃ j ≤ k + 1, ∃ y, (x :: xs)[j]? = some y ∧ begins y ∧ Unended ends (x :: xs) j (k + 1)) ↔
      (begins x ∧ Unended ends (x :: xs) 0 (k + 1)) ∨
        ∃ j ≤ k, ∃ y, xs[j]? = some y ∧ begins y ∧ Unended ends xs j k := by
  constructor
  · rintro ⟨j, hj, y, hy, hbegins, hunended⟩
    cases j with
    | zero =>
      cases hy
      exact .inl ⟨hbegins, hunended⟩
    | succ j => exact .inr ⟨j, by omega, y, hy, hbegins, unended_succ.mp hunended⟩
  · rintro (⟨hbegins, hunended⟩ | ⟨j, hj, y, hy, hbegins, hunended⟩)
    · exact ⟨0, Nat.zero_le _, x, rfl, hbegins, hunended⟩
    · exact ⟨j + 1, by omega, y, hy, hbegins, unended_succ.mpr hunended⟩

/-- A record is selected if the range was active all the time, or since some record began it. -/
theorem picks_iff (begins ends : α → Bool) (active : Bool) (hk : k < xs.length) :
    (picks begins ends active xs)[k]? = some true ↔
      (active ∧ Unended ends xs 0 k) ∨
        ∃ j ≤ k, ∃ y, xs[j]? = some y ∧ begins y ∧ Unended ends xs j k := by
  induction xs generalizing active k with
  | nil => cases hk
  | cons x xs ih =>
    cases k with
    | zero =>
      have hempty : ∀ j, Unended ends (x :: xs) j 0 := fun j l z _ hl _ => by omega
      simp [picks, hempty]
    | succ k =>
      have hrest : k < xs.length := by simpa using hk
      rw [picks, List.getElem?_cons_succ, ih _ hrest, exists_begins_cons, unended_zero,
        Bool.and_eq_true, Bool.or_eq_true, Bool.not_eq_true', ← or_assoc, ← or_and_right, and_assoc]

end

/-! ## Tests -/

/-- Whether a computation gives the answer yes. -/
def affirms (x : Eval Bool) (m : Machine) : Bool :=
  match x m with
  | .ok b _ => b
  | .error _ _ => false

theorem affirms_of_ok {x : Eval Bool} {m m₁ : Machine} {b : Bool} (h : x m = .ok b m₁) :
    affirms x m = b := by
  rw [affirms, h]

/-- The record passes the test. -/
def holds (self : Meaning) (t : Test) : Machine → Bool := affirms (passes self t)

/-- The rule selects the record. -/
def selected (self : Meaning) (i : Nat) (r : Rule) : Machine → Bool :=
  affirms (selects self i r.pattern)

/-- Neither test fails, and the first one makes no difference to the second. -/
structure Conclusive (terms : Meaning) (first last : Test) (m : Machine) : Prop where
  begins : ∃ m₁, passes terms first m = .ok (holds terms first m) m₁
  ends : ∃ m₁, passes terms last m = .ok (holds terms last m) m₁
  apart : ∃ m₁, passes terms last (after (passes terms first) m) = .ok (holds terms last m) m₁

/-- Tests without effects. -/
theorem Conclusive.of_unchanged {self : Meaning} {first last : Test} {m : Machine} {b b' : Bool}
    (hfirst : passes self first m = .ok b m) (hlast : passes self last m = .ok b' m) :
    Conclusive self first last m := by
  have hb : holds self first m = b := affirms_of_ok hfirst
  have hb' : holds self last m = b' := affirms_of_ok hlast
  refine ⟨⟨m, hb ▸ hfirst⟩, ⟨m, hb' ▸ hlast⟩, m, ?_⟩
  rw [after_of_ok hfirst, hb', hlast]

/-! ## What keeps the state of a range -/

/-- The state of a range, if there is one. -/
def RangeIs (i : Nat) (o : Option Bool) (m : Machine) : Prop := m.activeRanges[i]? = o

theorem range_of_unreported {α : Type} {x : Eval α} (hx : Unreported x) (i : Nat)
    (o : Option Bool) : Throughout (RangeIs i o) x x := by
  refine .same fun m hm => ?_
  rw [RangeIs, hx.activeRanges m]
  exact hm

theorem range_respected (i : Nat) (o : Option Bool) : RespectsSteps .all fun _ x y =>
    Throughout (RangeIs i o) x y where
  pure _ := .same fun _ hm => hm
  bind hx hf := hx.bind hf
  stop _ := .same fun _ hm => hm
  located place hx := hx.located place
  access a _ := range_of_unreported (.onScope a.op) i o
  refill name values result _ := range_of_unreported (.refill name values result) i o
  write text := .same fun m hm => by
    unfold after Eval.write
    cases m.sink.accepts text <;> exact hm
  record f _ := .same fun _ hm => hm
  nextCounted := range_of_unreported .nextCounted i o
  aside _ hx := .same fun m hm => by
    obtain ⟨world, random, seed, opened, hkept, -⟩ := hx.kept m
    rw [hkept]
    exact hm
  takePending := .same fun _ hm => hm
  newArray := range_of_unreported (.onScope _) i o
  leave _ := .same fun _ hm => hm
  inFrame bindings owned hx m hm :=
    (hx (m.enterCall bindings owned) hm).inFrame fun hafter => hafter
  attempt hx := hx.attempt
  isCancelled := .same fun _ hm => hm
  closeInputs := .same fun _ hm => hm

section

variable {p : Program} {fuel i : Nat} {o : Option Bool}

theorem terms_range (p : Program) (fuel i : Nat) (o : Option Bool) :
    (∀ e, True → Throughout (RangeIs i o) ((meaning p fuel).value e) ((meaning p fuel).value e)) ∧
      ∀ s, True → Throughout (RangeIs i o) ((meaning p fuel).run s) ((meaning p fuel).run s) := by
  obtain ⟨hv, hr⟩ := (range_respected i o).toRespectsProgram.evaluation p fuel
  exact ⟨fun e _ => hv e, fun s _ => hr s⟩

theorem passes_range (t : Test) :
    Throughout (RangeIs i o) (passes (meaning p fuel) t) (passes (meaning p fuel) t) := by
  exact (range_respected i o).passes (terms_range p fuel i o).1 fun _ _ => trivial

theorem act_range (r : Rule) :
    Throughout (RangeIs i o) (act (meaning p fuel) r) (act (meaning p fuel) r) := by
  exact (range_respected i o).act (terms_range p fuel i o).2 fun _ _ _ _ => trivial

theorem setActive_range {j : Nat} (hne : j ≠ i) (b : Bool) :
    Throughout (RangeIs i o) (setActive j b) (setActive j b) := by
  refine .same fun m hm => ?_
  show (m.activeRanges.setIfInBounds j b)[i]? = o
  rw [Array.getElem?_setIfInBounds_ne hne]
  exact hm

/-- Another rule keeps the state of the range, whatever its pattern. -/
theorem dispatch_range {j : Nat} (hne : j ≠ i) (r : Rule) (m : Machine) :
    (after (dispatch (meaning p fuel) j r) m).activeRanges[i]? = m.activeRanges[i]? := by
  obtain ⟨hv, hr⟩ := terms_range p fuel i m.activeRanges[i]?
  have hkept := (range_respected i m.activeRanges[i]?).dispatch hv hr (setActive_range hne) (r := r)
    (fun _ _ _ _ => trivial) fun _ _ _ _ => trivial
  exact (hkept m rfl).2

/-- So does a step that does not apply the rule of the range. -/
theorem perform_range {φ : Phase} (hφ : φ.index? ≠ some i) (m : Machine) :
    (after (φ.perform (meaning p fuel)) m).activeRanges[i]? = m.activeRanges[i]? := by
  obtain ⟨hv, hr⟩ := terms_range p fuel i m.activeRanges[i]?
  have hother : ∀ j ∈ φ.index?, j ≠ i := fun j hj heq => hφ (heq ▸ hj)
  have hkept := Phase.respected (range_respected i m.activeRanges[i]?) hv hr
    (fun j hj => setActive_range (hother j hj)) (fun _ _ _ _ _ _ => trivial)
    fun _ _ _ _ _ _ => trivial
  exact (hkept m rfl).2

/-! ## What the rule of a range does -/

variable {first last : Test} {m : Machine} {active : Bool}

theorem setActive_own_range (b : Bool) (m : Machine) :
    (m.activeRanges.setIfInBounds i b)[i]? = m.activeRanges[i]?.map fun _ => b := by
  by_cases hi : i < m.activeRanges.size
  · rw [Array.getElem?_setIfInBounds_self_of_lt hi, Array.getElem?_eq_getElem hi, Option.map_some]
  · rw [Array.getElem?_eq_none (by simpa using hi), Array.getElem?_eq_none (by simpa using hi),
      Option.map_none]

/-- A record is selected while the range is active, and so is one that begins it; behind it the
range is active unless the record ends it. -/
theorem selects_range (h : Conclusive (meaning p fuel) first last m) :
    ∃ m₁, selects (meaning p fuel) i (some (.range first last)) m =
        .ok (isActive m i || holds (meaning p fuel) first m) m₁ ∧
      m₁.activeRanges[i]? = m.activeRanges[i]?.map fun _ =>
        (isActive m i || holds (meaning p fuel) first m) && !holds (meaning p fuel) last m := by
  obtain ⟨m₁, hbegins⟩ := h.begins
  obtain ⟨m₂, hends⟩ := h.ends
  obtain ⟨m₃, hapart⟩ := h.apart
  rw [after_of_ok hbegins] at hapart
  have hm₁ : RangeIs i m.activeRanges[i]? m₁ := by
    rw [← after_of_ok hbegins]
    exact (passes_range first m rfl).2
  have hm₂ : RangeIs i m.activeRanges[i]? m₂ := by
    rw [← after_of_ok hends]
    exact (passes_range last m rfl).2
  have hm₃ : RangeIs i m.activeRanges[i]? m₃ := by
    rw [← after_of_ok hapart]
    exact (passes_range last m₁ hm₁).2
  have hset : ∀ {m' : Machine} (b : Bool), RangeIs i m.activeRanges[i]? m' →
      (m'.activeRanges.setIfInBounds i b)[i]? = m.activeRanges[i]?.map fun _ => b := by
    intro m' b hm'
    rw [setActive_own_range, hm']
  -- Where nothing is noted of the range, it has been in that state before.
  have hkept : m.activeRanges[i]?.map (fun _ => isActive m i) = m.activeRanges[i]? := by
    rw [isActive]
    cases m.activeRanges[i]? <;> rfl
  rw [selects, bind_of_ok (get_run m)]
  cases hactive : isActive m i with
  | true =>
    rw [hactive] at hkept
    rw [if_pos rfl, bind_of_ok hends]
    cases holds (meaning p fuel) last m with
    | true => exact ⟨_, rfl, hset false hm₂⟩
    | false => exact ⟨m₂, rfl, hm₂.trans hkept.symm⟩
  | false =>
    rw [hactive] at hkept
    rw [if_neg Bool.false_ne_true, bind_of_ok hbegins]
    cases holds (meaning p fuel) first m with
    | true =>
      rw [if_pos rfl, bind_of_ok hapart]
      exact ⟨_, rfl, hset _ hm₃⟩
    | false => exact ⟨m₁, rfl, hm₁.trans hkept.symm⟩

variable {r : Rule}

/-- The rule acts on what it selects, unless its tests leave a signal behind. -/
theorem dispatch_acts (hpattern : r.pattern = some (.range first last))
    (h : Conclusive (meaning p fuel) first last m)
    (hpending : (after (selects (meaning p fuel) i r.pattern) m).pending = none) :
    dispatch (meaning p fuel) i r m =
      (if selected (meaning p fuel) i r m then act (meaning p fuel) r else return .normal)
        (after (selects (meaning p fuel) i r.pattern) m) := by
  obtain ⟨m₁, hselects, -⟩ := selects_range (i := i) h
  rw [← hpattern] at hselects
  rw [after_of_ok hselects] at hpending ⊢
  have hnone : takePending m₁ = .ok none m₁ := by
    rw [takePending, hpending]
    exact congrArg (EStateM.Result.ok none) (by rw [← hpending])
  rw [dispatch, bind_of_ok hselects, bind_of_ok hnone, selected, affirms_of_ok hselects]

/-- Nothing of what comes behind the tests changes the state of the range. -/
theorem dispatch_own_range (hpattern : r.pattern = some (.range first last))
    (hm : RangeIs i (some active) m) (h : Conclusive (meaning p fuel) first last m) :
    selected (meaning p fuel) i r m = (active || holds (meaning p fuel) first m) ∧
      RangeIs i (some ((active || holds (meaning p fuel) first m) &&
        !holds (meaning p fuel) last m)) (after (dispatch (meaning p fuel) i r) m) := by
  have hactive : isActive m i = active := by rw [isActive, hm, Option.getD_some]
  obtain ⟨m₁, hselects, hm₁⟩ := selects_range (i := i) h
  rw [hm, hactive, Option.map_some] at hm₁
  rw [← hpattern, hactive] at hselects
  refine ⟨affirms_of_ok hselects, ?_⟩
  have hrest : ∀ (o : Option Bool) (b : Bool), Throughout (RangeIs i o)
      (if b then act (meaning p fuel) r else pure .normal)
      (if b then act (meaning p fuel) r else pure .normal) := by
    intro o b
    cases b with
    | true => exact act_range r
    | false => exact (range_respected i o).pure _
  rw [dispatch, after_bind_of_ok hselects]
  exact ((range_respected i _).unlessPending (hrest _ _) m₁ hm₁).2

/-! ## Steps and runs -/

@[simp] theorem Phase.settle_activeRanges (φ : Phase) (event : Event) (m : Machine) :
    (φ.settle event m).activeRanges = m.activeRanges := by
  fun_cases settle φ event m <;> rfl

theorem after_perform_applies (self : Meaning) (r : Rule) (i : Nat) (rest : List (Rule × Nat))
    (turns : Nat) (m : Machine) :
    after ((Phase.applies ((r, i) :: rest) turns).perform self) m =
      after (dispatch self i r) m := by
  rw [← after_attempt (dispatch self i r), Phase.perform]
  cases hrun : attempt (dispatch self i r) m with
  | ok o m₁ =>
    rw [after_bind_of_ok hrun, after_of_ok hrun]
    rfl
  | error why m₁ => rw [after_bind_of_error hrun, after_of_error hrun]

/-- A rule that is offered a record stands at its position in the program. -/
theorem Phase.Offers.rule {rest : List (Rule × Nat)} {turns : Nat}
    (h : (Phase.applies ((r, i) :: rest) turns).Offers p) : p.rules[i]? = some r := by
  have hmem := List.mem_of_mem_filter (h (r, i) (List.mem_cons_self ..))
  exact List.mem_zipIdx_iff_getElem?.mp hmem

section

variable {φ φ₁ : Phase} {m₁ : Machine} {event : Event}
  (h : advance (meaning p fuel) p fuel φ m = .ok (event, φ₁) m₁)

include h

/-- A step that does not apply the rule of the range. -/
theorem advance_range (hφ : φ.index? ≠ some i) (hm : RangeIs i o m) : RangeIs i o m₁ := by
  obtain ⟨m₀, hperform, -, rfl⟩ := advance_ok_iff.mp h
  have hkept : (after (φ.perform (meaning p fuel)) m).activeRanges[i]? = m.activeRanges[i]? :=
    perform_range hφ m
  rw [after_of_ok hperform] at hkept
  rw [RangeIs, Phase.settle_activeRanges, hkept]
  exact hm

/-- A step that does. -/
theorem advance_own_range (hrule : p.rules[i]? = some r)
    (hpattern : r.pattern = some (.range first last)) (hoffers : φ.Offers p)
    (hφ : φ.index? = some i) (hm : RangeIs i (some active) m)
    (htests : Conclusive (meaning p fuel) first last m) :
    selected (meaning p fuel) i r m = (active || holds (meaning p fuel) first m) ∧
      RangeIs i (some ((active || holds (meaning p fuel) first m) &&
        !holds (meaning p fuel) last m)) m₁ := by
  obtain ⟨m₀, hperform, -, rfl⟩ := advance_ok_iff.mp h
  obtain ⟨r', rest, turns, rfl⟩ : ∃ r' rest turns, φ = .applies ((r', i) :: rest) turns := by
    cases φ with
    | applies rules turns =>
      cases rules with
      | nil => cases hφ
      | cons rule rest =>
        cases hφ
        exact ⟨rule.1, rest, turns, rfl⟩
    | _ => cases hφ
  cases hrule.symm.trans hoffers.rule
  obtain ⟨hselected, hrange⟩ := dispatch_own_range hpattern hm htests
  rw [← after_perform_applies _ _ _ rest turns, after_of_ok hperform] at hrange
  refine ⟨hselected, ?_⟩
  rw [RangeIs, Phase.settle_activeRanges]
  exact hrange

end

/-- The machines that a rule is applied to a record in. -/
def applied (i : Nat) (moments : List Moment) : List Machine :=
  (moments.filter (·.phase.index? == some i)).map (·.machine)

theorem applied_append (i : Nat) (before later : List Moment) :
    applied i (before ++ later) = applied i before ++ applied i later := by
  rw [applied, List.filter_append, List.map_append, applied, applied]

theorem applied_cons_own {x : Moment} (h : x.phase.index? = some i) (moments : List Moment) :
    applied i (x :: moments) = x.machine :: applied i moments := by
  simp [applied, h]

theorem applied_cons_other {x : Moment} (h : x.phase.index? ≠ some i) (moments : List Moment) :
    applied i (x :: moments) = applied i moments := by
  simp [applied, h]

section

variable (hrule : p.rules[i]? = some r) (hpattern : r.pattern = some (.range first last))

include hrule hpattern

/-- Along a path a range picks among the records that its rule is applied to. -/
theorem Path.picks {φ φ' : Phase} {m' : Machine} {moments : List Moment}
    (h : Path (meaning p fuel) p fuel φ m moments φ' m') (hoffers : φ.Offers p)
    (hm : RangeIs i (some active) m)
    (htests : ∀ x ∈ applied i moments, Conclusive (meaning p fuel) first last x) :
    (applied i moments).map (selected (meaning p fuel) i r) =
        picks (holds (meaning p fuel) first) (holds (meaning p fuel) last) active
          (applied i moments) ∧
      RangeIs i (some (activeBehind (holds (meaning p fuel) first) (holds (meaning p fuel) last)
        active (applied i moments))) m' := by
  induction h generalizing active with
  | nil => exact ⟨rfl, hm⟩
  | @cons φ φ₁ _ m m₁ _ event moments hstep _ ih =>
    have hnext : φ₁.Offers p := by
      obtain ⟨m₀, -, rfl, -⟩ := advance_ok_iff.mp hstep
      exact Phase.next_offers hoffers
    by_cases hφ : φ.index? = some i
    · rw [applied_cons_own hφ] at htests ⊢
      obtain ⟨htest, htests⟩ := List.forall_mem_cons.mp htests
      obtain ⟨hselected, hm₁⟩ := advance_own_range hstep hrule hpattern hoffers hφ hm htest
      obtain ⟨hpicks, hm'⟩ := ih hnext hm₁ htests
      rw [List.map_cons, Run.picks, activeBehind, hselected, hpicks]
      exact ⟨rfl, hm'⟩
    · rw [applied_cons_other hφ] at htests ⊢
      exact ih hnext (advance_range hstep hφ hm) htests

end

end

end Run

/-! ## Sessions -/

/-- What happens in a session: settings and runs, each of them to its end or up to some point. -/
inductive Session.Course (p : Program) (fuel : Nat) :
    Machine → List Run.Moment → Machine → Prop where
  | done (m : Machine) : Course p fuel m [] m
  | setting {m m' : Machine} {moments : List Run.Moment} (s : Setting) :
      Course p fuel (after s.apply m) moments m' → Course p fuel m moments m'
  | run {m m₁ m' : Machine} {φ : Run.Phase} {moments later : List Run.Moment} (sink : Sink)
      (sources : List Source) :
      Run.Path (meaning p fuel) p fuel (.begins p.beginRules) { m with sink, sources }
        moments φ m₁ →
      Course p fuel m₁ later m' → Course p fuel m (moments ++ later) m'

theorem Setting.apply_activeRanges (s : Setting) (m : Machine) :
    (after s.apply m).activeRanges = m.activeRanges := by
  cases s with
  | fieldSeparator | assign | preset => exact (Unreported.onScope _).activeRanges m
  | _ => rfl

namespace Session.Course

open Run

variable {p : Program} {fuel i : Nat} {m m₁ m' : Machine} {moments later : List Moment}

theorem append (h : Course p fuel m moments m₁) (h' : Course p fuel m₁ later m') :
    Course p fuel m (moments ++ later) m' := by
  induction h with
  | done => exact h'
  | setting s _ ih => exact .setting s (ih h')
  | run sink sources hpath _ ih =>
    rw [List.append_assoc]
    exact .run sink sources hpath (ih h')

/-- A run that comes to its end, with an error or a status. -/
theorem of_run (m : Machine) (sink : Sink) (sources : List Source)
    (h : (EStateM.run' (attempt (Run.program p fuel sources)) { m with sink }).isSome) :
    ∃ moments, Course p fuel m moments (after (Run.program p fuel sources) { m with sink }) := by
  rw [← after_attempt]
  unfold EStateM.run' EStateM.run at h
  cases hrun : attempt (Run.program p fuel sources) { m with sink } with
  | error why m₁ =>
    rw [hrun] at h
    cases h
  | ok o m₁ =>
    obtain ⟨before, later, ⟨⟨mid, hbefore, hlater⟩, -, -⟩, -⟩ :=
      (attempt_phases_iff (impartial_meaning p fuel)).mp hrun
    rw [after_of_ok hrun]
    exact ⟨_, .run sink sources (hbefore.append hlater) (.done m₁)⟩

variable {r : Rule} {first last : Test} {active : Bool}

/-- Throughout a session a range picks among the records that its rule is applied to. -/
theorem picks (h : Course p fuel m moments m') (hrule : p.rules[i]? = some r)
    (hpattern : r.pattern = some (.range first last)) (hm : RangeIs i (some active) m)
    (htests : ∀ x ∈ applied i moments, Conclusive (meaning p fuel) first last x) :
    (applied i moments).map (selected (meaning p fuel) i r) =
      Run.picks (holds (meaning p fuel) first) (holds (meaning p fuel) last) active
        (applied i moments) := by
  induction h generalizing active with
  | done => rfl
  | @setting m _ _ s _ ih =>
    refine ih ?_ htests
    rw [RangeIs, s.apply_activeRanges]
    exact hm
  | @run m _ _ _ moments later sink sources hpath _ ih =>
    rw [applied_append] at htests ⊢
    obtain ⟨htests, hlater⟩ := List.forall_mem_append.mp htests
    have hstart : (Phase.begins p.beginRules).Offers p := True.intro
    obtain ⟨hpicks, hm₁⟩ := hpath.picks hrule hpattern hstart hm htests
    rw [List.map_append, picks_append, hpicks, ih hm₁ hlater]

end Session.Course

open Run

/-- A rule selects the records of intervals: each from a record that passes the first test up to the
next one, that record included, that passes the second.  Selected records are those that the rule
acts on, as long as its tests leave no signal behind.  No other rule changes the state of the range,
and however the records are divided over runs, only what the tests say of them counts. -/
theorem ranges_select_intervals {p : Program} {fuel i : Nat} {r : Rule} {first last : Test}
    {m m' : Machine} {moments : List Run.Moment} (hrule : p.rules[i]? = some r)
    (hpattern : r.pattern = some (.range first last)) (hm : m.activeRanges[i]? = some false)
    (h : Session.Course p fuel m moments m')
    (htests : ∀ x ∈ applied i moments, Conclusive (meaning p fuel) first last x) :
    (∀ (k : Nat) x, (applied i moments)[k]? = some x →
      (selected (meaning p fuel) i r x ↔
        ∃ j ≤ k, ∃ y, (applied i moments)[j]? = some y ∧ holds (meaning p fuel) first y ∧
          ∀ l z, j ≤ l → l < k → (applied i moments)[l]? = some z →
            holds (meaning p fuel) last z = false)) ∧
    (∀ x ∈ applied i moments, (after (selects (meaning p fuel) i r.pattern) x).pending = none →
      dispatch (meaning p fuel) i r x =
        (if selected (meaning p fuel) i r x then act (meaning p fuel) r else return .normal)
          (after (selects (meaning p fuel) i r.pattern) x)) ∧
    (∀ j r' m₁, j ≠ i →
      (after (dispatch (meaning p fuel) j r') m₁).activeRanges[i]? = m₁.activeRanges[i]?) ∧
    ∀ m₁ m₁' moments', m₁.activeRanges[i]? = some false →
      Session.Course p fuel m₁ moments' m₁' →
      (∀ x ∈ applied i moments', Conclusive (meaning p fuel) first last x) →
      ((applied i moments').map fun x =>
          (holds (meaning p fuel) first x, holds (meaning p fuel) last x)) =
        ((applied i moments).map fun x =>
          (holds (meaning p fuel) first x, holds (meaning p fuel) last x)) →
      (applied i moments').map (selected (meaning p fuel) i r) =
        (applied i moments).map (selected (meaning p fuel) i r) := by
  have hpicks := h.picks hrule hpattern hm htests
  refine ⟨fun k x hx => ?_, fun x hx => dispatch_acts hpattern (htests x hx),
    fun j r' m₁ hne => dispatch_range hne r' m₁, fun m₁ m₁' moments' hm₁ h' htests' hsame => ?_⟩
  · have hk : k < (applied i moments).length := (List.getElem?_eq_some_iff.mp hx).1
    have hselected : (picks (holds (meaning p fuel) first) (holds (meaning p fuel) last) false
        (applied i moments))[k]? = some (selected (meaning p fuel) i r x) := by
      rw [← hpicks, List.getElem?_map, hx, Option.map_some]
    have hiff := picks_iff (holds (meaning p fuel) first) (holds (meaning p fuel) last) false hk
    rw [hselected, Option.some.injEq] at hiff
    rw [hiff, or_iff_right (fun h => Bool.false_ne_true h.1)]
    rfl
  · rw [h'.picks hrule hpattern hm₁ htests', hpicks]
    exact picks_congr hsame

/-- To look for a regular expression has no effect. -/
theorem passes_regex (self : Meaning) (pattern : String)
    (h : ∀ caseless, (Regex.compile (Regex.escapeStray pattern) caseless).isOk) (m : Machine) :
    ∃ b, passes self (.regex pattern) m = .ok b m := by
  have hcompiled := h m.scope.ignoresCase
  cases hre : Regex.compile (Regex.escapeStray pattern) m.scope.ignoresCase with
  | error fault =>
    rw [hre] at hcompiled
    cases hcompiled
  | ok re =>
    have hscope : Eval.scope m = .ok m.scope m := rfl
    have hregex : regexOf pattern m = .ok re m := by
      rw [regexOf, bind_of_ok hscope, hre]
      rfl
    refine ⟨re.matchesText m.scope.record.text, ?_⟩
    rw [passes, bind_of_ok hregex, bind_of_ok hscope]
    rfl

/-- `/a/, /c/` and `/b/, /a/` on six records in two runs: the first range goes on in the second run
and begins again there. -/
theorem ranges_select_intervals_overlapping :
    let r : Rule := ⟨some (.range (.regex "a") (.regex "c")), none, .start⟩
    let other : Rule := ⟨some (.range (.regex "b") (.regex "a")), none, .start⟩
    let p : Program := { rules := [r, other], functions := [] }
    let m := Session.start p .empty
    let m₁ := after (Run.program p 9 [.stream "x" (.ofBytes [97, 10, 98, 10])]) m
    let m₂ := after (Run.program p 9 [.stream "y" (.ofBytes [120, 10, 99, 10, 121, 10, 97, 10])])
      { m₁ with sink := .unlimited }
    m₁.sink.text = "a\nb\nb\n" ∧ m₂.sink.text = "x\nx\nc\nc\ny\na\na\n" ∧
      ∃ moments, Session.Course p 9 m moments m₂ ∧
        ∀ (k : Nat) x, (applied 0 moments)[k]? = some x → (selected (meaning p 9) 0 r x ↔
          ∃ j ≤ k, ∃ y, (applied 0 moments)[j]? = some y ∧ holds (meaning p 9) (.regex "a") y ∧
            ∀ l z, j ≤ l → l < k → (applied 0 moments)[l]? = some z →
              holds (meaning p 9) (.regex "c") z = false) := by
  intro r other p m m₁ m₂
  obtain ⟨moments₁, hcourse₁⟩ : ∃ moments, Session.Course p 9 m moments m₁ :=
    Session.Course.of_run m m.sink _ (by decide +kernel)
  obtain ⟨moments₂, hcourse₂⟩ : ∃ moments, Session.Course p 9 m₁ moments m₂ :=
    Session.Course.of_run m₁ .unlimited _ (by decide +kernel)
  have hcourse := hcourse₁.append hcourse₂
  have htests : ∀ x, Conclusive (meaning p 9) (.regex "a") (.regex "c") x := by
    intro x
    obtain ⟨b, hb⟩ := passes_regex (meaning p 9) "a" (by decide +kernel) x
    obtain ⟨b', hb'⟩ := passes_regex (meaning p 9) "c" (by decide +kernel) x
    exact .of_unchanged hb hb'
  refine ⟨by decide +kernel, by decide +kernel, _, hcourse, ?_⟩
  exact (ranges_select_intervals (i := 0) (r := r) rfl rfl rfl hcourse fun x _ => htests x).1

end Awk
