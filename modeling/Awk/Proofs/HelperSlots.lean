import Awk.Host.Slots

/-!
# How many helpers there are

The counter is the number of calls that hold a slot: those that were admitted and whose helper has
not ended, and those that were refused and have not taken their count back.  Every event keeps this,
in whatever order the events of several calls come, so the bound holds though each caller counts
itself before it looks (`helpers_bounded`).  Calls are numbered as their callers enter, and the
counter alone decides which of them are admitted (`entered_call`).
-/

namespace Awk
namespace Host

/-- The helper is at work, or has not given its slot back. -/
def Helper.isUnfinished : Helper → Bool
  | running | answered _ => true
  | absent | ended _ => false

/-- What the helper has sent. -/
def Helper.sent? : Helper → Option String
  | absent | running => none
  | answered text => some text
  | ended text => text

namespace SlotCall

/-- The call was admitted, and its helper has not ended. -/
def isUnfinished (call : SlotCall) : Bool :=
  match call.caller with
  | .admitted => true
  | _ => call.helper.isUnfinished

/-- The call was refused, and its count is still there. -/
def isRefused (call : SlotCall) : Bool :=
  match call.caller with
  | .refused => true
  | _ => false

/-- The caller found room when it looked: the helper is to come, is there or has been there. -/
def wasAdmitted (call : SlotCall) : Bool :=
  match call.caller with
  | .admitted => true
  | _ => call.helper != .absent

/-- The caller has returned, and there is no helper any more. -/
def IsOver (call : SlotCall) : Prop :=
  (∃ text, call.caller = .returned text) ∧ call.helper.isUnfinished = false

/-- What caller and helper know of each other. -/
structure Coherent (fallback : String) (f : HostFunction) (call : SlotCall) : Prop where
  unstarted : call.caller = .admitted ∨ call.caller = .refused → call.helper = .absent
  sent : ∀ text, call.helper.sent? = some text → text = f call.args
  returned : ∀ text, call.caller = .returned text → text = f call.args ∨ text = fallback

/-- What can happen to a call, and whether that takes its count back. -/
inductive Moves (fallback : String) (f : HostFunction) : SlotCall → Bool → SlotCall → Prop where
  | leave {args : List String} {helper : Helper} :
      Moves fallback f ⟨args, .refused, helper⟩ true ⟨args, .returned fallback, helper⟩
  | start {args : List String} {helper : Helper} :
      Moves fallback f ⟨args, .admitted, helper⟩ false ⟨args, .waiting, .running⟩
  | send {args : List String} {caller : Caller} :
      Moves fallback f ⟨args, caller, .running⟩ false ⟨args, caller, .answered (f args)⟩
  | finish {args : List String} {caller : Caller} {text : String} :
      Moves fallback f ⟨args, caller, .answered text⟩ true ⟨args, caller, .ended (some text)⟩
  | crash {args : List String} {caller : Caller} :
      Moves fallback f ⟨args, caller, .running⟩ true ⟨args, caller, .ended none⟩
  | receive {args : List String} {helper : Helper} {text : String} : helper.sent? = some text →
      Moves fallback f ⟨args, .waiting, helper⟩ false ⟨args, .returned text, helper⟩
  | giveUp {args : List String} {helper : Helper} :
      Moves fallback f ⟨args, .waiting, helper⟩ false ⟨args, .returned fallback, helper⟩

end SlotCall

/-- Whether an event takes back the count of call `i`. -/
def SlotEvent.releases (i : Nat) : SlotEvent → Bool
  | leave j | finish j | crash j => j == i
  | _ => false

def SlotEvent.isEnter : SlotEvent → Bool
  | enter _ => true
  | _ => false

/-- The events by which the caller of call `i` goes on. -/
def SlotEvent.ofCaller (i : Nat) : List SlotEvent := [.leave i, .start i, .receive i, .giveUp i]

variable {most : Nat} {fallback : String} {f : HostFunction} {s s' : Slots} {e : SlotEvent}
  {es : List SlotEvent} {call call' : SlotCall} {released : Bool} {i : Nat} {change : Int}

/-! ## One event -/

namespace SlotCall

theorem Coherent.entered (args : List String) {caller : Caller}
    (h : ∀ text, caller ≠ .returned text) : Coherent fallback f ⟨args, caller, .absent⟩ :=
  ⟨fun _ => rfl, nofun, fun text htext => absurd htext (h text)⟩

/-- A call that has a helper was admitted, and its caller waits or has returned. -/
theorem Coherent.of_helper (hc : call.Coherent fallback f) (h : call.helper ≠ .absent) :
    call.isUnfinished = call.helper.isUnfinished ∧ call.isRefused = false := by
  obtain ⟨args, caller, helper⟩ := call
  cases caller with
  | admitted => exact absurd (hc.unstarted (.inl rfl)) h
  | refused => exact absurd (hc.unstarted (.inr rfl)) h
  | waiting => exact ⟨rfl, rfl⟩
  | returned => exact ⟨rfl, rfl⟩

theorem Moves.coherent (hc : call.Coherent fallback f) (h : Moves fallback f call released call') :
    call'.Coherent fallback f := by
  obtain ⟨hunstarted, hsent, hreturned⟩ := hc
  cases h with
  | leave => exact ⟨nofun, hsent, fun _ htext => .inr (Caller.returned.inj htext).symm⟩
  | start => exact ⟨nofun, nofun, nofun⟩
  | send =>
    exact ⟨fun h => absurd (hunstarted h) Helper.noConfusion,
      fun _ htext => (Option.some.inj htext).symm, hreturned⟩
  | finish => exact ⟨fun h => absurd (hunstarted h) Helper.noConfusion, hsent, hreturned⟩
  | crash => exact ⟨fun h => absurd (hunstarted h) Helper.noConfusion, nofun, hreturned⟩
  | receive htext =>
    exact ⟨nofun, hsent, fun _ h => .inl (hsent _ (Caller.returned.inj h ▸ htext))⟩
  | giveUp => exact ⟨nofun, hsent, fun _ htext => .inr (Caller.returned.inj htext).symm⟩

/-- What takes a count back takes it from a call that has one, and then this has none. -/
theorem Moves.counted (hc : call.Coherent fallback f) (h : Moves fallback f call released call') :
    call'.isUnfinished.toNat + call'.isRefused.toNat + released.toNat =
      call.isUnfinished.toNat + call.isRefused.toNat := by
  have hc' := h.coherent hc
  cases h with
  | leave =>
    obtain rfl := hc.unstarted (.inr rfl)
    rfl
  | start | receive | giveUp => rfl
  | send | finish | crash =>
    obtain ⟨hunfinished, hrefused⟩ := hc.of_helper Helper.noConfusion
    obtain ⟨hunfinished', hrefused'⟩ := hc'.of_helper Helper.noConfusion
    rw [hunfinished, hrefused, hunfinished', hrefused']
    rfl

/-- Only by entering does a call get a helper to come. -/
theorem Moves.unfinished_le (hc : call.Coherent fallback f)
    (h : Moves fallback f call released call') :
    call'.isUnfinished.toNat ≤ call.isUnfinished.toNat := by
  have hcounted := h.counted hc
  have hc' := h.coherent hc
  cases h with
  | leave =>
    obtain rfl := hc.unstarted (.inr rfl)
    exact Nat.le_refl _
  | start | receive | giveUp => exact Nat.le_refl _
  | send | finish | crash =>
    obtain ⟨-, hrefused⟩ := hc.of_helper Helper.noConfusion
    obtain ⟨-, hrefused'⟩ := hc'.of_helper Helper.noConfusion
    rw [hrefused, hrefused'] at hcounted
    omega

/-- A call keeps its arguments, and what its caller found. -/
theorem Moves.kept (h : Moves fallback f call released call') :
    call'.args = call.args ∧ call'.wasAdmitted = call.wasAdmitted := by
  cases h with
  | leave | start | receive | giveUp => exact ⟨rfl, rfl⟩
  | send | finish | crash =>
    refine ⟨rfl, ?_⟩
    unfold wasAdmitted
    dsimp only
    split <;> rfl

theorem IsOver.isUnfinished (h : call.IsOver) : call.isUnfinished = false := by
  obtain ⟨args, caller, helper⟩ := call
  obtain ⟨⟨text, rfl⟩, hhelper⟩ := h
  exact hhelper

theorem IsOver.isRefused (h : call.IsOver) : call.isRefused = false := by
  obtain ⟨args, caller, helper⟩ := call
  obtain ⟨⟨text, rfl⟩, -⟩ := h
  rfl

/-- No call is counted twice. -/
theorem Coherent.or_toNat (hc : call.Coherent fallback f) :
    (call.isUnfinished || call.isRefused).toNat =
      call.isUnfinished.toNat + call.isRefused.toNat := by
  obtain ⟨args, caller, helper⟩ := call
  cases caller with
  | refused =>
    obtain rfl := hc.unstarted (.inr rfl)
    rfl
  | _ => simp [isRefused]

end SlotCall

namespace Slots

theorem update_eq_some {g : SlotCall → Option SlotCall}
    (h : s.update i change g = some s') :
    ∃ call call', s.calls[i]? = some call ∧ g call = some call' ∧
      s' = { counter := s.counter + change, calls := s.calls.set i call' } := by
  unfold update at h
  split at h
  · cases h
  · next call hcall =>
    obtain ⟨call', hcall', hs'⟩ := Option.map_eq_some_iff.mp h
    exact ⟨call, call', hcall, hcall', hs'.symm⟩

/-- What a changed call comes to, once it is known how each call that fits moves. -/
theorem moved_of_update {g : SlotCall → Option SlotCall} (released : Bool)
    (h : s.update i (-(released.toNat : Int)) g = some s')
    (hreleases : ∀ j, e.releases j = (released && i == j))
    (hmoves : ∀ call call', g call = some call' → call.Moves fallback f released call') :
    ∃ i call call', s.calls[i]? = some call ∧ call.Moves fallback f (e.releases i) call' ∧
      (∀ j, j ≠ i → e.releases j = false) ∧
      s' = { counter := s.counter - (e.releases i).toNat, calls := s.calls.set i call' } := by
  obtain ⟨call, call', hcall, hmove, rfl⟩ := update_eq_some h
  have hself : e.releases i = released := by rw [hreleases, BEq.rfl, Bool.and_true]
  have hother : ∀ j, j ≠ i → e.releases j = false := fun j hne => by
    rw [hreleases, beq_false_of_ne hne.symm, Bool.and_false]
  rw [← Int.sub_eq_add_neg]
  exact ⟨i, call, call', hcall, hself ▸ hmoves call call' hmove, hother, by rw [hself]⟩

/-- An event is that a call enters, or it is about one call, of which it may take the count back. -/
theorem step_cases (h : s.step most fallback f e = some s') :
    (∃ args, e = .enter args ∧ s' =
      { counter := s.counter + 1
        calls := s.calls ++ [⟨args, if s.counter < most then .admitted else .refused, .absent⟩] }) ∨
    ∃ i call call', s.calls[i]? = some call ∧ call.Moves fallback f (e.releases i) call' ∧
      (∀ j, j ≠ i → e.releases j = false) ∧
      s' = { counter := s.counter - (e.releases i).toNat, calls := s.calls.set i call' } := by
  cases e with
  | enter args => exact .inl ⟨args, rfl, (Option.some.inj h).symm⟩
  | leave i =>
    refine .inr (moved_of_update true h (fun _ => rfl) ?_)
    rintro ⟨args, caller, helper⟩ call' hcall
    cases caller <;> cases hcall
    exact .leave
  | start i =>
    refine .inr (moved_of_update false h (fun _ => rfl) ?_)
    rintro ⟨args, caller, helper⟩ call' hcall
    cases caller <;> cases hcall
    exact .start
  | send i =>
    refine .inr (moved_of_update false h (fun _ => rfl) ?_)
    rintro ⟨args, caller, helper⟩ call' hcall
    cases helper <;> cases hcall
    exact .send
  | finish i =>
    refine .inr (moved_of_update true h (fun _ => rfl) ?_)
    rintro ⟨args, caller, helper⟩ call' hcall
    cases helper <;> cases hcall
    exact .finish
  | crash i =>
    refine .inr (moved_of_update true h (fun _ => rfl) ?_)
    rintro ⟨args, caller, helper⟩ call' hcall
    cases helper <;> cases hcall
    exact .crash
  | receive i =>
    refine .inr (moved_of_update false h (fun _ => rfl) ?_)
    rintro ⟨args, caller, helper⟩ call' hcall
    split at hcall
    case h_3 => cases hcall
    -- the answer is there before the helper has ended and afterwards
    all_goals
      rename_i text hcaller hhelper
      cases hcall
      cases hcaller
      cases hhelper
      exact .receive rfl
  | giveUp i =>
    refine .inr (moved_of_update false h (fun _ => rfl) ?_)
    rintro ⟨args, caller, helper⟩ call' hcall
    cases caller <;> cases hcall
    exact .giveUp

/-! ## All events of a run -/

/-- What holds of the slots at any time. -/
structure Sound (most : Nat) (fallback : String) (f : HostFunction) (s : Slots) : Prop where
  coherent : ∀ call ∈ s.calls, call.Coherent fallback f
  counted : s.counter =
    s.calls.countP SlotCall.isUnfinished + s.calls.countP SlotCall.isRefused
  bounded : s.calls.countP SlotCall.isUnfinished ≤ most

theorem countP_set {calls : List SlotCall} (h : calls[i]? = some call) (p : SlotCall → Bool)
    (call' : SlotCall) :
    (calls.set i call').countP p + (p call).toNat = calls.countP p + (p call').toNat := by
  induction calls generalizing i with
  | nil => cases h
  | cons c calls ih =>
    cases i with
    | zero =>
      cases h
      rw [List.set_cons_zero, List.countP_cons, List.countP_cons]
      cases p call <;> cases p call' <;> simp
    | succ i =>
      have hrest := ih h
      rw [List.set_cons_succ, List.countP_cons, List.countP_cons]
      omega

theorem getElem?_set_call {calls : List SlotCall} (h : calls[i]? = some call) (call' : SlotCall) :
    (calls.set i call')[i]? = some call' := by
  rw [List.getElem?_set_self', h]
  rfl

theorem sound_initial : initial.Sound most fallback f where
  coherent := nofun
  counted := rfl
  bounded := Nat.zero_le most

theorem countP_concat (p : SlotCall → Bool) (calls : List SlotCall) (call : SlotCall) :
    (calls ++ [call]).countP p = calls.countP p + (p call).toNat := by
  rw [List.countP_append, List.countP_singleton]
  cases p call <;> rfl

/-- A caller counts itself, and holds a slot only if the counter was below the bound. -/
theorem Sound.concat (hs : s.Sound most fallback f) (hc : call.Coherent fallback f)
    (hroom : call.isUnfinished = true → s.counter < most)
    (hone : call.isUnfinished.toNat + call.isRefused.toNat = 1) :
    Sound most fallback f { counter := s.counter + 1, calls := s.calls ++ [call] } := by
  obtain ⟨hcoherent, hcounted, hbounded⟩ := hs
  refine ⟨fun call' hmem => ?_, ?_, ?_⟩
  · rcases List.mem_append.mp hmem with hmem | hmem
    · exact hcoherent call' hmem
    · exact List.mem_singleton.mp hmem ▸ hc
  · dsimp only
    rw [countP_concat, countP_concat]
    omega
  · dsimp only
    rw [countP_concat]
    cases hunfinished : call.isUnfinished with
    | false => exact hbounded
    | true =>
      have hless := hroom hunfinished
      rw [Bool.toNat_true]
      omega

theorem Sound.step (hs : s.Sound most fallback f) (h : s.step most fallback f e = some s') :
    s'.Sound most fallback f := by
  rcases step_cases h with ⟨args, -, rfl⟩ | ⟨i, call, call', hcall, hmove, -, rfl⟩
  · by_cases hroom : s.counter < most
    · rw [if_pos hroom]
      exact hs.concat (.entered args nofun) (fun _ => hroom) rfl
    · rw [if_neg hroom]
      exact hs.concat (.entered args nofun) nofun rfl
  · obtain ⟨hcoherent, hcounted, hbounded⟩ := hs
    have hc := hcoherent call (List.mem_of_getElem? hcall)
    have hunfinished := countP_set hcall SlotCall.isUnfinished call'
    have hrefused := countP_set hcall SlotCall.isRefused call'
    have hmoved := hmove.counted hc
    have hle := hmove.unfinished_le hc
    refine ⟨fun call₁ hmem => ?_, ?_, ?_⟩
    · rcases List.mem_or_eq_of_mem_set hmem with hmem | rfl
      · exact hcoherent call₁ hmem
      · exact hmove.coherent hc
    · dsimp only
      omega
    · dsimp only
      omega

theorem run_cons_iff :
    run most fallback f (e :: es) s = some s' ↔
      ∃ s₁, s.step most fallback f e = some s₁ ∧ run most fallback f es s₁ = some s' :=
  Option.bind_eq_some_iff

theorem Sound.run (hs : s.Sound most fallback f) (h : run most fallback f es s = some s') :
    s'.Sound most fallback f := by
  induction es generalizing s with
  | nil => exact Option.some.inj h ▸ hs
  | cons e es ih =>
    obtain ⟨s₁, hstep, hrun⟩ := run_cons_iff.mp h
    exact ih (hs.step hstep) hrun

theorem countP_cons_event (p : SlotEvent → Bool) (e : SlotEvent) (es : List SlotEvent) :
    (e :: es).countP p = es.countP p + (p e).toNat := by
  rw [List.countP_cons]
  cases p e <;> rfl

theorem run_append_iff {es' : List SlotEvent} :
    run most fallback f (es ++ es') s = some s' ↔
      ∃ s₁, run most fallback f es s = some s₁ ∧ run most fallback f es' s₁ = some s' := by
  have hbind : run most fallback f (es ++ es') s =
      (run most fallback f es s).bind (run most fallback f es') := by
    induction es generalizing s with
    | nil => rfl
    | cons e es ih =>
      rw [List.cons_append, run, run, Option.bind_assoc]
      exact congrArg _ (funext fun s => ih)
  rw [hbind, Option.bind_eq_some_iff]

/-! ## Calls are the callers that have entered -/

theorem length_calls_step (h : s.step most fallback f e = some s') :
    s'.calls.length = s.calls.length + e.isEnter.toNat := by
  cases e with
  | enter args =>
    cases h
    exact List.length_append
  | _ =>
    obtain ⟨-, -, -, -, rfl⟩ := update_eq_some h
    exact List.length_set

theorem length_calls (h : run most fallback f es s = some s') :
    s'.calls.length = s.calls.length + es.countP SlotEvent.isEnter := by
  induction es generalizing s with
  | nil =>
    cases h
    rfl
  | cons e es ih =>
    obtain ⟨s₁, hstep, hrun⟩ := run_cons_iff.mp h
    rw [ih hrun, length_calls_step hstep, countP_cons_event]
    omega

theorem kept_step (h : s.step most fallback f e = some s') (hcall : s.calls[i]? = some call) :
    ∃ call', s'.calls[i]? = some call' ∧ call'.args = call.args ∧
      call'.wasAdmitted = call.wasAdmitted := by
  rcases step_cases h with ⟨args, -, rfl⟩ | ⟨j, call₁, call', hcall₁, hmove, -, rfl⟩
  · refine ⟨call, ?_, rfl, rfl⟩
    dsimp only
    rw [List.getElem?_append_left (List.getElem?_eq_some_iff.mp hcall).1, hcall]
  · by_cases hij : j = i
    · subst hij
      obtain rfl := Option.some.inj (hcall.symm.trans hcall₁)
      exact ⟨call', getElem?_set_call hcall call', hmove.kept⟩
    · refine ⟨call, ?_, rfl, rfl⟩
      dsimp only
      rw [List.getElem?_set_ne hij, hcall]

theorem kept_run (h : run most fallback f es s = some s') (hcall : s.calls[i]? = some call) :
    ∃ call', s'.calls[i]? = some call' ∧ call'.args = call.args ∧
      call'.wasAdmitted = call.wasAdmitted := by
  induction es generalizing s call with
  | nil =>
    cases h
    exact ⟨call, hcall, rfl, rfl⟩
  | cons e es ih =>
    obtain ⟨s₁, hstep, hrun⟩ := run_cons_iff.mp h
    obtain ⟨call₁, hcall₁, hargs₁, hadmitted₁⟩ := kept_step hstep hcall
    obtain ⟨call', hcall', hargs, hadmitted⟩ := ih hrun hcall₁
    exact ⟨call', hcall', hargs.trans hargs₁, hadmitted.trans hadmitted₁⟩

/-- The caller that enters behind `n` others makes call `n`, with its arguments, and is admitted if
the counter, which it counts itself in, was below the bound until then. -/
theorem entered_call {before behind : List SlotEvent} {args : List String}
    (h : run most fallback f (before ++ .enter args :: behind) initial = some s) :
    ∃ s₀ call, run most fallback f before initial = some s₀ ∧
      s.calls[before.countP SlotEvent.isEnter]? = some call ∧ call.args = args ∧
      (call.wasAdmitted = true ↔ s₀.counter < most) := by
  obtain ⟨s₀, hbefore, hrest⟩ := run_append_iff.mp h
  obtain ⟨s₁, henter, hbehind⟩ := run_cons_iff.mp hrest
  have hindex : before.countP SlotEvent.isEnter = s₀.calls.length := by
    rw [length_calls hbefore]
    exact (Nat.zero_add _).symm
  have hmade : s₁.calls[s₀.calls.length]? =
      some ⟨args, if s₀.counter < most then .admitted else .refused, .absent⟩ := by
    cases henter
    exact List.getElem?_concat_length
  obtain ⟨call, hcall, hargs, hadmitted⟩ := kept_run hbehind hmade
  refine ⟨s₀, call, hbefore, hindex ▸ hcall, hargs, ?_⟩
  rw [hadmitted]
  by_cases hroom : s₀.counter < most
  · simp [SlotCall.wasAdmitted, hroom]
  · simp [SlotCall.wasAdmitted, hroom]

/-! ## Counts are taken back once -/

/-- Whether the count of call `i` is still to be taken back.  It is for a call that is to come. -/
def isOpen (s : Slots) (i : Nat) : Bool :=
  match s.calls[i]? with
  | some call => call.isUnfinished || call.isRefused
  | none => true

theorem isOpen_of_call (h : s.calls[i]? = some call) :
    s.isOpen i = (call.isUnfinished || call.isRefused) := by
  rw [isOpen, h]

/-- A call that comes has a count that is to be taken back. -/
theorem isOpen_concat {counter : Int} (hone : (call.isUnfinished || call.isRefused) = true)
    (i : Nat) : isOpen { counter, calls := s.calls ++ [call] } i = s.isOpen i := by
  unfold isOpen
  rcases Nat.lt_trichotomy i s.calls.length with hless | rfl | hless
  · rw [List.getElem?_append_left hless]
  · rw [List.getElem?_concat_length, List.getElem?_eq_none (Nat.le_refl _)]
    exact hone
  · rw [List.getElem?_eq_none (by simp; omega), List.getElem?_eq_none (Nat.le_of_lt hless)]

theorem Sound.isOpen_step (hs : s.Sound most fallback f) (h : s.step most fallback f e = some s')
    (i : Nat) : (s'.isOpen i).toNat + (e.releases i).toNat = (s.isOpen i).toNat := by
  rcases step_cases h with ⟨args, rfl, rfl⟩ | ⟨j, call, call', hcall, hmove, hother, rfl⟩
  · rw [isOpen_concat]
    · rfl
    · by_cases hroom : s.counter < most
      · rw [if_pos hroom]
        rfl
      · rw [if_neg hroom]
        rfl
  · by_cases hij : i = j
    · subst hij
      have hc := hs.coherent call (List.mem_of_getElem? hcall)
      have hset := getElem?_set_call hcall call'
      rw [isOpen_of_call hcall, isOpen_of_call hset, hc.or_toNat, (hmove.coherent hc).or_toNat]
      exact hmove.counted hc
    · rw [hother i hij, isOpen, List.getElem?_set_ne (Ne.symm hij)]
      rfl

/-- The count of a call is taken back once, if it was there at the beginning and is not at the end,
and never otherwise. -/
theorem Sound.released_once (hs : s.Sound most fallback f)
    (h : Slots.run most fallback f es s = some s') (i : Nat) :
    (s'.isOpen i).toNat + es.countP (·.releases i) = (s.isOpen i).toNat := by
  induction es generalizing s with
  | nil =>
    rw [Option.some.inj h]
    rfl
  | cons e es ih =>
    obtain ⟨s₁, hstep, hrun⟩ := run_cons_iff.mp h
    have hone := hs.isOpen_step hstep i
    have hmore := ih (hs.step hstep) hrun
    rw [countP_cons_event]
    omega

/-! ## Callers return -/

theorem update_of_call {g : SlotCall → Option SlotCall} (hcall : s.calls[i]? = some call)
    (hmove : g call = some call') :
    s.update i change g =
      some { counter := s.counter + change, calls := s.calls.set i call' } := by
  rw [update, hcall]
  dsimp only
  rw [hmove]
  rfl

section
variable (most : Nat) (fallback : String) (f : HostFunction) {args : List String} {helper : Helper}

theorem step_leave (hcall : s.calls[i]? = some ⟨args, .refused, helper⟩) :
    s.step most fallback f (.leave i) =
      some ⟨s.counter + -1, s.calls.set i ⟨args, .returned fallback, helper⟩⟩ :=
  update_of_call hcall rfl

theorem step_start (hcall : s.calls[i]? = some ⟨args, .admitted, helper⟩) :
    s.step most fallback f (.start i) =
      some ⟨s.counter + 0, s.calls.set i ⟨args, .waiting, .running⟩⟩ :=
  update_of_call hcall rfl

theorem step_giveUp (hcall : s.calls[i]? = some ⟨args, .waiting, helper⟩) :
    s.step most fallback f (.giveUp i) =
      some ⟨s.counter + 0, s.calls.set i ⟨args, .returned fallback, helper⟩⟩ :=
  update_of_call hcall rfl

/-- Whatever the others do, a caller can go on by itself until it has returned. -/
theorem exists_return (hcall : s.calls[i]? = some call) :
    ∃ own s' call' text, (∀ e ∈ own, e ∈ SlotEvent.ofCaller i) ∧
      run most fallback f own s = some s' ∧ s'.calls[i]? = some call' ∧
      call'.caller = .returned text := by
  obtain ⟨args, caller, helper⟩ := call
  cases caller with
  | admitted =>
    have hwaiting := getElem?_set_call hcall ⟨args, .waiting, .running⟩
    exact ⟨[.start i, .giveUp i], _, _, fallback, by simp [SlotEvent.ofCaller],
      run_cons_iff.mpr ⟨_, step_start most fallback f hcall,
        run_cons_iff.mpr ⟨_, step_giveUp most fallback f hwaiting, rfl⟩⟩,
      getElem?_set_call hwaiting _, rfl⟩
  | refused =>
    exact ⟨[.leave i], _, _, fallback, by simp [SlotEvent.ofCaller],
      run_cons_iff.mpr ⟨_, step_leave most fallback f hcall, rfl⟩, getElem?_set_call hcall _, rfl⟩
  | waiting =>
    exact ⟨[.giveUp i], _, _, fallback, by simp [SlotEvent.ofCaller],
      run_cons_iff.mpr ⟨_, step_giveUp most fallback f hcall, rfl⟩, getElem?_set_call hcall _, rfl⟩
  | returned text => exact ⟨[], s, _, text, nofun, rfl, hcall, rfl⟩

end

end Slots

open Slots

/-- After any events of any number of calls, the counter counts the admitted calls whose helper has
not ended and the refused callers that have not left; there are at most `most` of the former.  The
count of a call is taken back once, and that is when the call does not hold it any more.  Every call
can return, and returns the answer of the function or the fallback. -/
theorem helpers_bounded {most : Nat} {fallback : String} {f : HostFunction}
    {es : List SlotEvent} {s : Slots} (h : run most fallback f es initial = some s) :
    s.counter = s.calls.countP SlotCall.isUnfinished + s.calls.countP SlotCall.isRefused ∧
      0 ≤ s.counter ∧ s.calls.countP SlotCall.isUnfinished ≤ most ∧
      (∀ i call, s.calls[i]? = some call →
        es.countP (·.releases i) = if call.isUnfinished || call.isRefused then 0 else 1) ∧
      ((∀ call ∈ s.calls, call.IsOver) → s.counter = 0) ∧
      (∀ call ∈ s.calls, ∀ text, call.caller = .returned text →
        text = f call.args ∨ text = fallback) ∧
      ∀ i < s.calls.length, ∃ own s' call' text, (∀ e ∈ own, e ∈ SlotEvent.ofCaller i) ∧
        run most fallback f own s = some s' ∧ s'.calls[i]? = some call' ∧
        call'.caller = .returned text := by
  have hs₀ : initial.Sound most fallback f := sound_initial
  have hs := hs₀.run h
  refine ⟨hs.counted, ?_, hs.bounded, fun i call hcall => ?_, fun hover => ?_,
    fun call hmem => (hs.coherent call hmem).returned, fun i hi => ?_⟩
  · have hcounted := hs.counted
    omega
  · have honce := hs₀.released_once h i
    rw [isOpen_of_call hcall] at honce
    -- before the first event every call is one that is to come
    have hopen : (initial.isOpen i).toNat = 1 := rfl
    rw [hopen] at honce
    split
    · next hheld =>
      rw [hheld, Bool.toNat_true] at honce
      omega
    · next hgiven =>
      rw [Bool.eq_false_iff.mpr hgiven, Bool.toNat_false] at honce
      omega
  · have hnone : ∀ p : SlotCall → Bool, (∀ call : SlotCall, call.IsOver → p call = false) →
        s.calls.countP p = 0 := fun p hp =>
      List.countP_eq_zero.mpr fun call hmem => Bool.eq_false_iff.mp (hp call (hover call hmem))
    rw [hs.counted, hnone _ fun _ => SlotCall.IsOver.isUnfinished,
      hnone _ fun _ => SlotCall.IsOver.isRefused]
    rfl
  · exact exists_return most fallback f (List.getElem?_eq_getElem hi)

/-- The helper that nobody waits for any more holds the only slot when the other call comes. -/
theorem helpers_bounded_late :
    ∃ s, run 1 "late" (fun args => args.headD "") [.enter ["a"], .start 0, .giveUp 0,
        .enter ["b"], .leave 1, .send 0, .finish 0] initial = some s ∧
      s.counter = 0 ∧
      [SlotEvent.enter ["a"], .start 0, .giveUp 0, .enter ["b"], .leave 1, .send 0,
        .finish 0].countP (·.releases 0) = 1 ∧
      ∀ call ∈ s.calls, call.caller = .returned "late" := by
  have hrun : run 1 "late" (fun args => args.headD "") [.enter ["a"], .start 0, .giveUp 0,
      .enter ["b"], .leave 1, .send 0, .finish 0] initial = some
        { counter := 0
          calls := [⟨["a"], .returned "late", .ended (some "a")⟩,
            ⟨["b"], .returned "late", .absent⟩] } := by
    decide +kernel
  obtain ⟨-, -, -, hreleased, hzero, -, -⟩ := helpers_bounded hrun
  refine ⟨_, hrun, hzero ?_, hreleased 0 _ rfl, by simp⟩
  intro call hmem
  simp only [List.mem_cons, List.not_mem_nil, or_false] at hmem
  rcases hmem with rfl | rfl <;> exact ⟨⟨"late", rfl⟩, rfl⟩

end Host
end Awk
