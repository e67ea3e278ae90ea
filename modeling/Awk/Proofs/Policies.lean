import Awk.Proofs.Cancellation
import Awk.Proofs.Report

/-!
# Policies on errors

Whatever ends the phases before the `END` rules, a run goes through those once.  What the policies
differ in is what becomes of a rule that fails before: under `abort` its error ends these phases and
is the result, under `skipRule` it is noted and the run goes on behind the rule.  One step is looked
at on its own (`Phase.next`, `Phase.settle`), and `error_policies` says of the moments of a whole
run what follows from that by induction over its path.
-/

namespace Awk
namespace Run

open Eval

namespace Event

/-- The error with which a rule failed. -/
def failed? : Event → Option Error
  | rule (.error e) => some e
  | _ => none

/-- The error with which a rule failed, or the reading of a record. -/
def error? : Event → Option Error
  | rule (.error e) | read (.error e) => some e
  | _ => none

/-- The status that a run takes over. -/
def status? : Event → Option Int
  | rule (.ok (.signal (.exit code))) => some code
  | cancelled => some cancelledCode
  | _ => none

def hasRecord : Event → Bool
  | read (.ok (some _)) => true
  | _ => false

/-- What ends the phases before the `END` rules though no rule fails. -/
def concludes (p : Program) : Event → Bool
  | rule (.ok (.signal (.exit _))) | read (.ok none) | read (.error _) | cancelled => true
  | noneLeft => p.onlyBegin
  | _ => false

end Event

/-- The moment of a run under another policy. -/
def Moment.withPolicy (policy : Policy) (x : Moment) : Moment :=
  { x with machine := x.machine.withPolicy policy }

/-- The last status that was taken over, or else the one from before. -/
def status (code : Int) (moments : List Moment) : Int :=
  (moments.filterMap (·.event.status?)).getLast?.getD code

theorem status_cons (code : Int) (x : Moment) (moments : List Moment) :
    status code (x :: moments) = status (x.event.status?.getD code) moments := by
  unfold status
  rw [List.filterMap_cons]
  cases x.event.status? with
  | none => rfl
  | some code' => simp only [List.getLast?_cons, Option.getD_some]

/-- How many records of the main input the driver has read. -/
def records (moments : List Moment) : Nat := moments.countP (·.event.hasRecord)

/-! ## One step -/

namespace Phase

variable {p : Program} {fuel : Nat} {φ : Phase} {event : Event} {e : Error}

/-- The phase behind the first rule. -/
def behind : Phase → Phase
  | begins rules => begins rules.tail
  | applies rules turns => applies rules.tail turns
  | ends rules => ends rules.tail
  | φ => φ

/-- The error that is noted. -/
def noted? (policy : Policy) (φ : Phase) (event : Event) : Option Error :=
  if !φ.isEnding && policy = .skipRule then event.failed? else none

theorem settle_exitCode (φ : Phase) (event : Event) (m : Machine) :
    (φ.settle event m).exitCode = event.status?.getD m.exitCode := by
  rcases event with (e | _ | _ | _ | (_ | _ | code) | v) | _ | (e | _ | record) | _ | _ <;>
    cases φ <;> rfl

theorem settle_skipped (φ : Phase) (event : Event) (m : Machine) :
    (φ.settle event m).skipped = (φ.noted? m.policy event).toList ++ m.skipped := by
  cases hevent : event.failed? with
  | none =>
    have hnoted : φ.noted? m.policy event = none := by simp [noted?, hevent]
    rw [hnoted]
    rcases event with (e | _ | _ | _ | (_ | _ | code) | v) | _ | (e | _ | record) | _ | _
    case rule.error => cases hevent
    all_goals cases φ <;> rfl
  | some e =>
    obtain rfl : event = .rule (.error e) := by
      unfold Event.failed? at hevent
      split at hevent <;> cases hevent
      rfl
    rw [settle_error, noted?]
    split <;> rfl

/-- The policy matters only to a rule that fails before the `END` rules. -/
theorem next_policy (hallows : φ.allows event) (hevent : φ.isEnding = false → event.failed? = none)
    (policy policy' : Policy) : φ.next p fuel policy event = φ.next p fuel policy' event := by
  revert hallows
  fun_cases allows φ event
  case case1 | case2 =>
    rename_i outcome
    cases outcome with
    | error e => cases hevent rfl
    | ok flow => rcases flow with _ | _ | _ | (_ | _ | code) | v <;> exact fun _ => rfl
  case case7 =>
    rename_i outcome
    rcases outcome with e | _ | record <;> exact fun _ => rfl
  case case10 =>
    intro hallows
    cases hallows
  all_goals exact fun _ => rfl

theorem settle_withPolicy (hevent : φ.isEnding = false → event.failed? = none) (policy : Policy)
    (m : Machine) :
    φ.settle event (m.withPolicy policy) = (φ.settle event m).withPolicy policy := by
  rcases event with (e | _ | _ | _ | (_ | _ | code) | v) | _ | (e | _ | record) | _ | _
  case rule.error =>
    cases hφ : φ.isEnding with
    | false => cases hevent hφ
    | true =>
      rw [settle_error, settle_error, hφ]
      rfl
  all_goals cases φ <;> rfl

theorem fatal?_policy (hevent : φ.isEnding = false → event.failed? = none)
    (policy policy' : Policy) : φ.fatal? policy event = φ.fatal? policy' event := by
  rcases event with (e | flow) | _ | (e | record) | _ | (e | _)
  case rule.error =>
    cases hφ : φ.isEnding with
    | false => cases hevent hφ
    | true => simp [fatal?, hφ]
  all_goals rfl

theorem next_of_error (hφ : φ.isEnding = false) (hallows : φ.allows event)
    (he : event.error? = some e) : φ.next p fuel .abort event = .ends p.endRules := by
  revert hallows
  fun_cases allows φ event
  case case1 | case2 =>
    rename_i outcome
    cases outcome with
    | error e => exact fun _ => rfl
    | ok flow => cases he
  case case7 =>
    rename_i outcome
    cases outcome with
    | error e => exact fun _ => rfl
    | ok record => cases he
  case case3 | case6 | case9 => cases hφ
  case case4 | case5 | case8 => cases he
  case case10 =>
    intro hallows
    cases hallows

theorem next_of_failed (hφ : φ.isEnding = false) (hallows : φ.allows event)
    (he : event.failed? = some e) : φ.next p fuel .skipRule event = φ.behind := by
  revert hallows
  fun_cases allows φ event
  case case1 | case2 =>
    rename_i outcome
    cases outcome with
    | error e => exact fun _ => rfl
    | ok flow => cases he
  case case3 | case6 | case9 => cases hφ
  case case4 | case5 | case7 | case8 => cases he
  case case10 =>
    intro hallows
    cases hallows

theorem concludes_of_next (hφ : φ.isEnding = false) (hallows : φ.allows event)
    (hnext : (φ.next p fuel .skipRule event).isEnding) : event.concludes p := by
  revert hallows
  fun_cases allows φ event
  case case1 | case2 =>
    rename_i outcome
    rcases outcome with e | _ | _ | _ | (_ | _ | code) | v <;>
      first | exact fun _ => rfl | cases hnext
  case case4 =>
    cases honly : p.onlyBegin with
    | true => exact fun _ => honly
    | false => simp [next, honly, isEnding] at hnext
  case case7 =>
    rename_i outcome
    rcases outcome with e | _ | record <;> first | exact fun _ => rfl | cases hnext
  case case5 => cases hnext
  case case8 => exact fun _ => rfl
  case case3 | case6 | case9 => cases hφ
  case case10 =>
    intro hallows
    cases hallows

theorem fatal?_of_abort (hφ : φ.isEnding = false) (hallows : φ.allows event) :
    φ.fatal? .abort event = event.error? := by
  revert hallows
  fun_cases allows φ event
  case case1 | case2 | case7 =>
    rename_i outcome
    cases outcome <;> exact fun _ => rfl
  case case3 | case6 | case9 => cases hφ
  case case10 =>
    intro hallows
    cases hallows
  all_goals exact fun _ => rfl

/-- A run that goes on behind a look has read a record. -/
theorem asks_iff {policy : Policy} (hallows : φ.allows event)
    (hnext : (φ.next p fuel policy event).isEnding = false) : φ.asks ↔ event.hasRecord := by
  revert hallows
  fun_cases allows φ event
  case case7 =>
    rename_i outcome
    rcases outcome with e | _ | record
    · cases hnext
    · cases hnext
    · exact fun _ => Iff.rfl
  case case8 => cases hnext
  case case10 =>
    intro hallows
    cases hallows
  all_goals exact fun _ => Iff.rfl

/-- Before the `END` rules no rule ends a run under `skipRule`. -/
theorem read_of_fatal? (hφ : φ.isEnding = false) (hallows : φ.allows event)
    (he : φ.fatal? .skipRule event = some e) : event = .read (.error e) := by
  revert hallows
  fun_cases allows φ event
  case case1 | case2 =>
    rename_i outcome
    cases outcome <;> cases he
  case case7 =>
    rename_i outcome
    cases outcome with
    | error e' =>
      cases he
      exact fun _ => rfl
    | ok record => cases he
  case case3 | case6 | case9 => cases hφ
  case case4 | case5 | case8 => cases he
  case case10 =>
    intro hallows
    cases hallows

theorem rule_or_flushed_of_fatal? {policy : Policy} (hφ : φ.isEnding) (hallows : φ.allows event)
    (he : φ.fatal? policy event = some e) :
    event = .rule (.error e) ∨ event = .flushed (.error e) := by
  revert hallows
  fun_cases allows φ event
  case case3 =>
    rename_i outcome
    cases outcome with
    | error e' =>
      cases he
      exact fun _ => .inl rfl
    | ok flow => cases he
  case case9 =>
    rename_i outcome
    cases outcome with
    | error e' =>
      cases he
      exact fun _ => .inr rfl
    | ok flow => cases he
  case case6 => cases he
  case case10 =>
    intro hallows
    cases hallows
  all_goals cases hφ

end Phase

/-- What one step does to what a run reports. -/
theorem advance_report {p : Program} {fuel : Nat} {φ φ₁ : Phase} {m m₁ : Machine} {event : Event}
    (h : advance (meaning p fuel) p fuel φ m = .ok (event, φ₁) m₁) :
    φ.allows event ∧ φ₁ = φ.next p fuel m.policy event ∧
      m₁.exitCode = event.status?.getD m.exitCode ∧
      m₁.skipped = (φ.noted? m.policy event).toList ++ m.skipped := by
  obtain ⟨m₀, hperform, rfl, rfl⟩ := advance_ok_iff.mp h
  obtain ⟨-, hcode, hskipped⟩ := perform_reports p fuel φ m
  rw [after_of_ok hperform] at hcode hskipped
  rw [(impartial_meaning p fuel).policy hperform, Phase.settle_exitCode, Phase.settle_skipped,
    (impartial_meaning p fuel).policy hperform, hcode, hskipped]
  exact ⟨Phase.perform_allows hperform, rfl, rfl, rfl⟩

/-! ## Paths -/

namespace Path

section

variable {self : Meaning} {p : Program} {fuel : Nat} {φ φ' : Phase} {m m' : Machine}

theorem inv_cons {x : Moment} {moments : List Moment}
    (h : Path self p fuel φ m (x :: moments) φ' m') :
    x.phase = φ ∧ x.machine = m ∧ ∃ φ₁ m₁,
      advance self p fuel φ m = .ok (x.event, φ₁) m₁ ∧ Path self p fuel φ₁ m₁ moments φ' m' := by
  cases h with
  | cons hstep hrest => exact ⟨rfl, rfl, _, _, hstep, hrest⟩

theorem split {first second : List Moment} (h : Path self p fuel φ m (first ++ second) φ' m') :
    ∃ ψ n, Path self p fuel φ m first ψ n ∧ Path self p fuel ψ n second φ' m' := by
  induction first generalizing φ m with
  | nil => exact ⟨φ, m, .nil _ _, h⟩
  | cons x rest ih =>
    cases h with
    | cons hstep hrest =>
      obtain ⟨ψ, n, hfirst, hsecond⟩ := ih hrest
      exact ⟨ψ, n, .cons hstep hfirst, hsecond⟩

/-- A run that is over makes no step. -/
theorem eq_nil_of_finished {moments : List Moment}
    (h : Path self p fuel .finished m moments φ' m') :
    moments = [] ∧ φ' = .finished ∧ m' = m := by
  cases h with
  | nil => exact ⟨rfl, rfl, rfl⟩
  | cons hstep _ =>
    obtain ⟨_, hperform, -⟩ := advance_ok_iff.mp hstep
    cases hperform

theorem unique {first second : List Moment} {m₁ m₂ : Machine}
    (h : Path self p fuel φ m first .finished m₁) (h' : Path self p fuel φ m second .finished m₂) :
    first = second ∧ m₁ = m₂ := by
  generalize hψ : Phase.finished = ψ at h
  induction h generalizing second with
  | nil φ m =>
    subst hψ
    obtain ⟨rfl, -, rfl⟩ := h'.eq_nil_of_finished
    exact ⟨rfl, rfl⟩
  | cons hstep hrest ih =>
    subst hψ
    cases h' with
    | nil => cases (Path.cons hstep hrest).eq_nil_of_finished.1
    | cons hstep' hrest' =>
      cases hstep.symm.trans hstep'
      obtain ⟨rfl, rfl⟩ := ih hrest' rfl
      exact ⟨rfl, rfl⟩

theorem rank_le {moments : List Moment} (h : Path self p fuel φ m moments φ' m') :
    ∀ x ∈ moments, x.phase.rank fuel ≤ φ.rank fuel := by
  induction h with
  | nil => exact List.forall_mem_nil _
  | @cons φ φ₁ _ m _ _ event _ hstep hrest ih =>
    refine List.forall_mem_cons.mpr ⟨le_refl _, fun x hx => (ih x hx).trans ?_⟩
    obtain ⟨_, -, rfl, -⟩ := advance_ok_iff.mp hstep
    refine (Phase.rank_next fun hfinished => ?_).le
    subst hfinished
    cases (Path.cons hstep hrest).eq_nil_of_finished.1

/-- A path in which no rule fails before the `END` rules is one under every policy. -/
theorem withPolicy {moments : List Moment} (hself : Impartial self)
    (h : Path self p fuel φ m moments φ' m')
    (hmoments : ∀ x ∈ moments, x.phase.isEnding = false → x.event.failed? = none)
    (policy : Policy) :
    Path self p fuel φ (m.withPolicy policy) (moments.map (Moment.withPolicy policy)) φ'
      (m'.withPolicy policy) := by
  induction h with
  | nil => exact .nil _ _
  | @cons φ _ _ m _ _ event _ hstep _ ih =>
    obtain ⟨hfirst, hrest⟩ := List.forall_mem_cons.mp hmoments
    obtain ⟨m₀, hperform, rfl, rfl⟩ := advance_ok_iff.mp hstep
    have hrun := hself φ policy m
    rw [hperform] at hrun
    refine .cons (advance_ok_iff.mpr ⟨m₀.withPolicy policy, hrun, ?_, ?_⟩) (ih hrest)
    · exact Phase.next_policy (Phase.perform_allows hperform) hfirst _ _
    · exact (Phase.settle_withPolicy hfirst policy m₀).symm

end

section

variable {p : Program} {fuel : Nat} {φ φ' : Phase} {m m' : Machine} {moments : List Moment}

theorem allows (h : Path (meaning p fuel) p fuel φ m moments φ' m') :
    ∀ x ∈ moments, x.phase.allows x.event := by
  induction h with
  | nil => exact List.forall_mem_nil _
  | cons hstep _ ih => exact List.forall_mem_cons.mpr ⟨(advance_report hstep).1, ih⟩

theorem status_eq (h : Path (meaning p fuel) p fuel φ m moments φ' m') :
    m'.exitCode = status m.exitCode moments := by
  induction h with
  | nil => rfl
  | cons hstep _ ih =>
    obtain ⟨-, -, hcode, -⟩ := advance_report hstep
    rw [ih, hcode, status_cons]

theorem diagnostics_eq (h : Path (meaning p fuel) p fuel φ m moments φ' m') :
    m'.diagnostics =
      m.diagnostics ++ moments.filterMap fun x => x.phase.noted? m.policy x.event := by
  induction h with
  | nil => exact (List.append_nil _).symm
  | @cons φ _ _ m m₁ _ event _ hstep _ ih =>
    obtain ⟨-, -, -, hskipped⟩ := advance_report hstep
    have hpolicy := advance_policy (impartial_meaning p fuel) hstep
    have hfirst : m₁.diagnostics = m.diagnostics ++ (φ.noted? m.policy event).toList := by
      unfold Machine.diagnostics
      rw [hskipped]
      cases φ.noted? m.policy event <;> simp
    rw [ih, hpolicy, hfirst, List.filterMap_cons]
    cases φ.noted? m.policy event <;> simp

/-- The step of a moment within a path. -/
theorem step {earlier later : List Moment} {x : Moment}
    (h : Path (meaning p fuel) p fuel φ m (earlier ++ x :: later) φ' m') :
    x.phase.allows x.event ∧ x.machine.exitCode = status m.exitCode earlier ∧
      ∃ m₁, Path (meaning p fuel) p fuel (x.phase.next p fuel m.policy x.event) m₁ later φ' m' := by
  obtain ⟨ψ, n, hearlier, hlater⟩ := h.split
  obtain ⟨rfl, rfl, φ₁, m₁, hstep, hrest⟩ := hlater.inv_cons
  obtain ⟨hallows, rfl, -, -⟩ := advance_report hstep
  rw [hearlier.policy (impartial_meaning p fuel)] at hrest
  exact ⟨hallows, hearlier.status_eq, m₁, hrest⟩

end

end Path

/-! ## Histories -/

namespace History

variable {p : Program} {fuel : Nat} {m m' : Machine} {before after : List Moment}
  (h : History (meaning p fuel) p fuel m before after m')

include h

theorem whole :
    Path (meaning p fuel) p fuel (.begins p.beginRules) m (before ++ after) .finished m' := by
  obtain ⟨mid, hbefore, hafter⟩ := h.path
  exact hbefore.append hafter

theorem unique {before' after' : List Moment} {m₁ : Machine}
    (h' : History (meaning p fuel) p fuel m before' after' m₁) :
    before' = before ∧ after' = after ∧ m₁ = m' := by
  obtain ⟨hmoments, hm⟩ := h'.whole.unique h.whole
  have hfirst : ∀ {before after : List Moment}, (∀ x ∈ before, x.phase.isEnding = false) →
      (∀ x ∈ after, x.phase.isEnding = true) →
      (before ++ after).filter (fun x => !x.phase.isEnding) = before := by
    intro before after hbefore hafter
    have hnone : after.filter (fun x => !x.phase.isEnding) = [] :=
      List.filter_eq_nil_iff.mpr fun x hx => by simp [hafter x hx]
    have hall : before.filter (fun x => !x.phase.isEnding) = before :=
      List.filter_eq_self.mpr fun x hx => by simp [hbefore x hx]
    rw [List.filter_append, hnone, hall, List.append_nil]
  have hbefore : before' = before := by
    rw [← hfirst h'.before h'.after, ← hfirst h.before h.after, hmoments]
  subst hbefore
  exact ⟨rfl, List.append_cancel_left hmoments, hm⟩

/-- The `END` rules are turned to once. -/
theorem ends_once : ∃ x rest, after = x :: rest ∧ x.phase = .ends p.endRules ∧
    ∀ y ∈ rest, y.phase ≠ .ends p.endRules := by
  obtain ⟨mid, -, hafter⟩ := h.path
  cases hafter with
  | @cons _ _ _ _ _ _ event rest hstep hrest =>
    refine ⟨_, rest, rfl, rfl, fun y hy hphase => ?_⟩
    obtain ⟨_, -, rfl, -⟩ := advance_ok_iff.mp hstep
    have hle := hrest.rank_le y hy
    rw [hphase] at hle
    exact (Phase.rank_next (φ := .ends p.endRules) nofun).not_ge hle

/-- Before the `END` rules, what a moment leads to. -/
theorem step_before {earlier later : List Moment} {x : Moment}
    (hx : before = earlier ++ x :: later) :
    x.phase.isEnding = false ∧ x.phase.allows x.event ∧ ∃ m₁ mid,
      Path (meaning p fuel) p fuel (x.phase.next p fuel m.policy x.event) m₁ later
        (.ends p.endRules) mid := by
  obtain ⟨mid, hbefore, -⟩ := h.path
  subst hx
  obtain ⟨hallows, -, m₁, hrest⟩ := hbefore.step
  exact ⟨h.before x (by simp), hallows, m₁, mid, hrest⟩

/-- If no rule fails before the `END` rules, the policy is all the same. -/
theorem withPolicy (hbefore : ∀ x ∈ before, x.event.failed? = none) (policy : Policy) :
    History (meaning p fuel) p fuel (m.withPolicy policy) (before.map (Moment.withPolicy policy))
      (after.map (Moment.withPolicy policy)) (m'.withPolicy policy) := by
  obtain ⟨mid, hpath, hpath'⟩ := h.path
  have hself := impartial_meaning p fuel
  refine ⟨⟨mid.withPolicy policy, ?_, ?_⟩, ?_, ?_⟩
  · exact hpath.withPolicy hself (fun x hx _ => hbefore x hx) policy
  · refine hpath'.withPolicy hself (fun x hx hφ => ?_) policy
    rw [h.after x hx] at hφ
    cases hφ
  · exact List.forall_mem_map.mpr h.before
  · exact List.forall_mem_map.mpr h.after

theorem result_withPolicy (hbefore : ∀ x ∈ before, x.event.failed? = none) (policy : Policy) :
    result policy ((before ++ after).map (Moment.withPolicy policy)) (m'.withPolicy policy) =
      result m.policy (before ++ after) m' := by
  have hfatal : ∀ x ∈ before ++ after,
      x.phase.fatal? policy x.event = x.phase.fatal? m.policy x.event := by
    intro x hx
    refine Phase.fatal?_policy (fun hφ => ?_) policy m.policy
    rcases List.mem_append.mp hx with hx | hx
    · exact hbefore x hx
    · rw [h.after x hx] at hφ
      cases hφ
  have hfailure : ∀ moments : List Moment,
      (∀ x ∈ moments, x.phase.fatal? policy x.event = x.phase.fatal? m.policy x.event) →
      failure? policy (moments.map (Moment.withPolicy policy)) = failure? m.policy moments := by
    intro moments hmoments
    induction moments with
    | nil => rfl
    | cons x rest ih =>
      obtain ⟨hx, hrest⟩ := List.forall_mem_cons.mp hmoments
      have ih := ih hrest
      unfold failure? at ih ⊢
      rw [List.map_cons, List.findSome?_cons, List.findSome?_cons, ih, ← hx]
      rfl
  unfold result
  rw [hfailure _ hfatal]
  rfl

/-- Under `abort` nothing happens before the `END` rules once something has failed. -/
theorem eq_nil_of_error (hpolicy : m.policy = .abort) {earlier later : List Moment} {x : Moment}
    {e : Error} (hx : before = earlier ++ x :: later) (he : x.event.error? = some e) :
    later = [] := by
  obtain ⟨hφ, hallows, m₁, mid, hrest⟩ := h.step_before hx
  rw [hpolicy, Phase.next_of_error hφ hallows he] at hrest
  cases later with
  | nil => rfl
  | cons y rest =>
    have hy : y.phase.isEnding = false := h.before y (by simp [hx])
    rw [hrest.inv_cons.1] at hy
    cases hy

theorem result_of_error (hpolicy : m.policy = .abort) {earlier later : List Moment} {x : Moment}
    {e : Error} (hx : before = earlier ++ x :: later) (he : x.event.error? = some e) :
    (∀ y ∈ earlier, y.event.error? = none) ∧ result m.policy (before ++ after) m' = .error e := by
  have hearlier : ∀ y ∈ earlier, y.event.error? = none := by
    intro y hy
    obtain ⟨first, second, rfl⟩ := List.append_of_mem hy
    cases hfailed : y.event.error? with
    | none => rfl
    | some e' =>
      have hlast := h.eq_nil_of_error hpolicy (hx.trans (List.append_assoc ..)) hfailed
      simp at hlast
  have hfatal : ∀ y ∈ before, y.phase.fatal? .abort y.event = y.event.error? := fun y hy =>
    Phase.fatal?_of_abort (h.before y hy) (h.whole.allows y (List.mem_append_left _ hy))
  refine ⟨hearlier, ?_⟩
  have hfailure : failure? m.policy (before ++ after) = some e := by
    unfold failure?
    have hnone : List.findSome? (fun x => x.phase.fatal? .abort x.event) earlier = none := by
      refine List.findSome?_eq_none_iff.mpr fun y hy => ?_
      rw [hfatal y (by simp [hx, hy]), hearlier y hy]
    have hfirst : x.phase.fatal? .abort x.event = some e := by rw [hfatal x (by simp [hx]), he]
    rw [hpolicy, hx, List.append_assoc, List.findSome?_append, hnone, List.cons_append,
      List.findSome?_cons, hfirst]
    rfl
  unfold result
  rw [hfailure]

/-- Under `skipRule` the errors of the rules that fail before the `END` rules are noted in order. -/
theorem diagnostics_eq (hpolicy : m.policy = .skipRule) :
    m'.diagnostics = m.diagnostics ++ before.filterMap (·.event.failed?) := by
  rw [h.whole.diagnostics_eq, hpolicy, List.filterMap_append]
  have hbefore : before.filterMap (fun x => x.phase.noted? .skipRule x.event) =
      before.filterMap (·.event.failed?) := by
    refine List.filterMap_congr fun x hx => ?_
    simp [Phase.noted?, h.before x hx]
  have hafter : after.filterMap (fun x => x.phase.noted? .skipRule x.event) = [] := by
    refine List.filterMap_eq_nil_iff.mpr fun x hx => ?_
    simp [Phase.noted?, h.after x hx]
  rw [hbefore, hafter, List.append_nil]

/-- Under `skipRule` a run goes on behind a rule that fails before the `END` rules. -/
theorem goes_on (hpolicy : m.policy = .skipRule) {earlier later : List Moment} {x : Moment}
    (hx : before = earlier ++ x :: later) (hfailed : x.event.failed?.isSome) :
    ∃ y rest, later = y :: rest ∧ y.phase = x.phase.behind := by
  obtain ⟨hφ, hallows, m₁, mid, hrest⟩ := h.step_before hx
  obtain ⟨e, he⟩ := Option.isSome_iff_exists.mp hfailed
  rw [hpolicy, Phase.next_of_failed hφ hallows he] at hrest
  cases later with
  | nil =>
    exfalso
    generalize hbehind : x.phase.behind = ψ at hrest
    cases hrest
    cases hphase : x.phase <;> rw [hphase] at hbehind hφ <;> first | cases hbehind | cases hφ
  | cons y rest => exact ⟨y, rest, rfl, hrest.inv_cons.1⟩

/-- Under `skipRule` no failure of a rule ends the phases before the `END` rules. -/
theorem concluded (hpolicy : m.policy = .skipRule) :
    ∃ earlier x, before = earlier ++ [x] ∧ x.event.concludes p := by
  obtain ⟨mid, hbefore, -⟩ := h.path
  rcases List.eq_nil_or_concat before with rfl | ⟨earlier, x, hx⟩
  · cases hbefore
  · rw [List.concat_eq_append] at hx
    obtain ⟨hφ, hallows, m₁, mid', hrest⟩ := h.step_before hx
    have hnext : (x.phase.next p fuel .skipRule x.event).isEnding := by
      rw [hpolicy] at hrest
      generalize x.phase.next p fuel .skipRule x.event = ψ at hrest ⊢
      cases hrest
      rfl
    exact ⟨earlier, x, hx, Phase.concludes_of_next hφ hallows hnext⟩

/-- Under `skipRule` no rule that fails before the `END` rules makes an error of the result. -/
theorem error_of_result (hpolicy : m.policy = .skipRule) {e : Error}
    (he : result m.policy (before ++ after) m' = .error e) :
    (∃ x ∈ before, x.event = .read (.error e)) ∨
      ∃ x ∈ after, x.event = .rule (.error e) ∨ x.event = .flushed (.error e) := by
  unfold result at he
  rw [hpolicy] at he
  split at he <;> cases he
  next hfailure =>
  obtain ⟨x, hx, hfatal⟩ := List.exists_of_findSome?_eq_some hfailure
  have hallows := h.whole.allows x hx
  rcases List.mem_append.mp hx with hx | hx
  · exact .inl ⟨x, hx, Phase.read_of_fatal? (h.before x hx) hallows hfatal⟩
  · exact .inr ⟨x, hx, Phase.rule_or_flushed_of_fatal? (h.after x hx) hallows hfatal⟩

/-- Each look before another moment has found a record. -/
theorem looks_eq_records {earlier later : List Moment} {x : Moment}
    (hx : before = earlier ++ x :: later) : looks earlier = records earlier := by
  refine List.countP_congr fun y hy => ?_
  obtain ⟨first, second, rfl⟩ := List.append_of_mem hy
  have hy' : before = first ++ y :: (second ++ x :: later) := by simp [hx]
  obtain ⟨hφ, hallows, m₁, mid, hrest⟩ := h.step_before hy'
  have hnext : (y.phase.next p fuel m.policy y.event).isEnding = false := by
    cases hbehind : second ++ x :: later with
    | nil => simp at hbehind
    | cons z rest =>
      rw [hbehind] at hrest
      rw [← hrest.inv_cons.1]
      exact h.before z (by simp [hy', hbehind])
  exact Phase.asks_iff hallows hnext

/-- A run is cancelled where it looks behind as many records as there are answers before. -/
theorem cancelled_iff {earlier later : List Moment} {x : Moment}
    (hx : before = earlier ++ x :: later) (hasks : x.phase.asks) :
    x.event = .cancelled ↔ m.world.cancelled (records earlier) = true := by
  obtain ⟨mid, hbefore, -⟩ := h.path
  rw [hx] at hbefore
  obtain ⟨ψ, n, hearlier, hlater⟩ := hbefore.split
  obtain ⟨rfl, rfl, φ₁, m₁, hstep, -⟩ := hlater.inv_cons
  obtain ⟨m₀, hperform, -, -⟩ := advance_ok_iff.mp hstep
  rw [Phase.cancelled_iff hasks hperform, Answers.now, hearlier.cancelled_eq,
    h.looks_eq_records hx]
  dsimp only
  rw [Nat.zero_add]

end History

end Run

/-- A run that comes to an end, with a status or an error, has one history, and in this

* the `END` rules are turned to once;
* if no rule fails before, the run under another policy differs in the policy alone;
* under `abort` the first rule or reading that fails before is the last thing to happen before, and
  its error is the result;
* under `skipRule` the error of every rule that fails before is noted, in order, and the run goes on
  behind the rule; something else ends what is before, and the result is an error only if reading,
  an `END` rule or the last flush fails;
* a status that is the result is the last one taken over, from `exit` or on cancellation, or else
  the one from before; `exit` without a status means `exit` with the status taken over last;
* before every record the run asks whether it has been cancelled, and takes the answer that comes
  behind as many others as there have been records. -/
theorem error_policies {p : Program} {fuel : Nat} {sources : List Source} {m m' : Machine}
    {r : Except Error Int} (h : Run.attempt (Run.program p fuel sources) m = .ok r m') :
    ∃ before after, Run.History (meaning p fuel) p fuel { m with sources } before after m' ∧
      (∀ before' after' m₁,
        Run.History (meaning p fuel) p fuel { m with sources } before' after' m₁ →
          before' = before ∧ after' = after ∧ m₁ = m') ∧
      (∃ x rest, after = x :: rest ∧ x.phase = .ends p.endRules ∧
        ∀ y ∈ rest, y.phase ≠ .ends p.endRules) ∧
      r = Run.result m.policy (before ++ after) m' ∧
      ((∀ x ∈ before, x.event.failed? = none) → ∀ policy,
        Run.attempt (Run.program p fuel sources) (m.withPolicy policy) =
          .ok r (m'.withPolicy policy)) ∧
      (m.policy = .abort → ∀ earlier x later e, before = earlier ++ x :: later →
        x.event.error? = some e →
          later = [] ∧ (∀ y ∈ earlier, y.event.error? = none) ∧ r = .error e) ∧
      (m.policy = .skipRule →
        m'.diagnostics = m.diagnostics ++ before.filterMap (·.event.failed?) ∧
        (∀ earlier x later, before = earlier ++ x :: later → x.event.failed?.isSome →
          ∃ y rest, later = y :: rest ∧ y.phase = x.phase.behind) ∧
        (∃ earlier x, before = earlier ++ [x] ∧ x.event.concludes p) ∧
        ∀ e, r = .error e → (∃ x ∈ before, x.event = .read (.error e)) ∨
          ∃ x ∈ after, x.event = .rule (.error e) ∨ x.event = .flushed (.error e)) ∧
      (∀ code, r = .ok code → code = Run.status m.exitCode (before ++ after)) ∧
      (∀ earlier x later, before ++ after = earlier ++ x :: later →
        x.machine.exitCode = Run.status m.exitCode earlier ∧
        x.phase.perform (meaning p fuel) x.machine =
          x.phase.perform (meaningAfter (Run.status m.exitCode earlier) p fuel) x.machine) ∧
      ∀ earlier x later, before = earlier ++ x :: later → x.phase.asks →
        (x.event = .cancelled ↔ m.world.cancelled (Run.records earlier) = true) := by
  obtain ⟨before, after, hist, rfl⟩ :=
    (Run.attempt_phases_iff (impartial_meaning p fuel)).mp h
  refine ⟨before, after, hist, fun _ _ _ => hist.unique, hist.ends_once, rfl, ?_, ?_, ?_, ?_, ?_,
    fun _ _ _ => hist.cancelled_iff⟩
  · intro hbefore policy
    refine (Run.attempt_phases_iff (impartial_meaning p fuel)).mpr
      ⟨_, _, hist.withPolicy hbefore policy, ?_⟩
    rw [← List.map_append]
    exact (hist.result_withPolicy hbefore policy).symm
  · intro hpolicy earlier x later e hx he
    obtain ⟨hearlier, hresult⟩ := hist.result_of_error hpolicy hx he
    exact ⟨hist.eq_nil_of_error hpolicy hx he, hearlier, hresult⟩
  · intro hpolicy
    exact ⟨hist.diagnostics_eq hpolicy, fun _ _ _ => hist.goes_on hpolicy,
      hist.concluded hpolicy, fun _ => hist.error_of_result hpolicy⟩
  · intro code hcode
    unfold Run.result at hcode
    split at hcode <;> cases hcode
    exact hist.whole.status_eq
  · intro earlier x later hx
    have hpath := hist.whole
    rw [hx] at hpath
    have hstatus : x.machine.exitCode = Run.status m.exitCode earlier := hpath.step.2.1
    rw [← hstatus]
    exact ⟨rfl, (perform_reports p fuel x.phase x.machine).1.symm⟩

/-- `{ length(x, y) } END { exit }` on two records: the first action fails for both, and `exit`
finds the status from before. -/
theorem error_policies_skipRule :
    let wrong : Stmt := .expr (.builtin .length [.var "x" .start, .var "y" .start] .start)
    let p : Program :=
      { rules := [⟨none, some ⟨[wrong], .start⟩, .start⟩,
          ⟨some .end_, some ⟨[.exit none .start], .start⟩, .start⟩]
        functions := [] }
    let sources : List Source := [.stream "a" (.ofBytes [49, 10, 50, 10])]
    let m := { Session.start p .empty with policy := .skipRule, exitCode := 7 }
    ∃ m' before after, Run.attempt (Run.program p 9 sources) m = .ok (.ok 7) m' ∧
      Run.History (meaning p 9) p 9 { m with sources } before after m' ∧
      m'.diagnostics = before.filterMap (·.event.failed?) ∧ m'.diagnostics.length = 2 ∧
      Run.status 7 (before ++ after) = 7 := by
  intro wrong p sources m
  have hcode : (EStateM.run' (Run.attempt (Run.program p 9 sources)) m).map Except.toOption =
      some (some 7) := by decide +kernel
  have hlength : (after (Run.attempt (Run.program p 9 sources)) m).diagnostics.length = 2 := by
    decide +kernel
  unfold EStateM.run' EStateM.run at hcode
  cases hend : Run.attempt (Run.program p 9 sources) m with
  | error why m' =>
    rw [hend] at hcode
    cases hcode
  | ok outcome m' =>
    rw [hend] at hcode
    rw [after_of_ok hend] at hlength
    cases outcome with
    | error e => cases hcode
    | ok code =>
      cases hcode
      obtain ⟨before, after, hist, -, -, -, -, -, hskip, hstatus, -⟩ := error_policies hend
      exact ⟨m', before, after, rfl, hist, (hskip rfl).1, hlength, (hstatus 7 rfl).symm⟩

/-- A run that is cancelled behind its first record goes on to its `END` rule. -/
example :
    let p : Program :=
      { rules := [⟨none, none, .start⟩,
          ⟨some .end_, some ⟨[.print [.string "end" .start] .start], .start⟩, .start⟩]
        functions := [] }
    let m := Session.start p { World.empty with cancelled := fun n => n == 1 }
    let m' := after (Run.program p 9 [.stream "a" (.ofBytes [49, 10, 50, 10])]) m
    m'.sink.text = "1\nend\n" ∧ m'.exitCode = 2 := by
  decide +kernel

end Awk
