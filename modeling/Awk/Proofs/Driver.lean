import Awk.Proofs.WholeRuns
import Mathlib.Data.Prod.Lex

/-!
# The driver, step by step

A run goes from phase to phase: it runs a `BEGIN` rule, reads a record, applies a rule to it, runs
an `END` rule.  `Run.advance` makes one such step and tells what has happened in it, `Phase.next`
says on its own where a run goes from there.  A path is a sequence of steps with its moments.  Every
run that ends is one path to the `END` rules and one from them on, and such paths determine its
result.
-/

namespace Awk

namespace Program

def beginRules (p : Program) : List Rule := p.rules.filter (·.isBegin)

def endRules (p : Program) : List Rule := p.rules.filter (·.isEnd)

/-- The rules that are applied to records, with their positions among all. -/
def recordRules (p : Program) : List (Rule × Nat) :=
  p.rules.zipIdx.filter fun (r, _) => !r.isBegin && !r.isEnd

end Program

namespace Run

open Eval

/-- What happens in one step of a run. -/
inductive Event where
  /-- A rule has been run, or applied to the record. -/
  | rule (outcome : Except Error Flow)
  | noneLeft
  | read (outcome : Except Error (Option String))
  | cancelled
  | flushed (outcome : Except Error Unit)

/-- What a run does next, with the rules that are left and the turns of the main loop. -/
inductive Phase where
  | begins (rules : List Rule)
  | reads (turns : Nat)
  | applies (rules : List (Rule × Nat)) (turns : Nat)
  | ends (rules : List Rule)
  | closes
  | finished

namespace Phase

/-- The phases from the `END` rules on. -/
def isEnding : Phase → Bool
  | begins _ | reads _ | applies _ _ => false
  | ends _ | closes | finished => true

def perform (self : Meaning) : Phase → Eval Event
  | begins [] | applies [] _ | ends [] => return .noneLeft
  | begins (r :: _) | ends (r :: _) => return .rule (← attempt (act self r))
  | applies ((r, i) :: _) _ => return .rule (← attempt (dispatch self i r))
  | reads 0 | finished => throw .exhausted
  | reads (_ + 1) => do
    if ← isCancelled then return .cancelled else return .read (← attempt nextCounted)
  | closes => do
    closeInputs
    return .flushed (← attempt flush)

/-- The rules that are left. -/
def rules : Phase → List Rule
  | begins rules | ends rules => rules
  | applies rules _ => rules.map (·.1)
  | reads _ | closes | finished => []

/-- The position of the rule that is applied to the record. -/
def index? : Phase → Option Nat
  | applies ((_, i) :: _) _ => some i
  | _ => none

/-- Where a run goes from a phase in which something has happened. -/
def next (p : Program) (fuel : Nat) (policy : Policy) : Phase → Event → Phase
  | begins (_ :: rest), .rule outcome =>
    match outcome, policy with
    | .ok (.signal (.exit _)), _ | .error _, .abort => ends p.endRules
    | _, _ => begins rest
  | begins _, _ => if p.onlyBegin then ends p.endRules else reads fuel
  | reads (turns + 1), .read (.ok (some _)) => applies p.recordRules turns
  | reads _, _ => ends p.endRules
  | applies (_ :: rest) turns, .rule outcome =>
    match outcome, policy with
    | .ok (.signal (.exit _)), _ | .error _, .abort => ends p.endRules
    | .ok (.signal _), _ => reads turns
    | _, _ => applies rest turns
  | applies _ turns, _ => reads turns
  | ends (_ :: rest), .rule outcome =>
    match outcome with
    | .ok (.signal (.exit _)) | .error _ => closes
    | _ => ends rest
  | ends _, _ => closes
  | closes, _ | finished, _ => finished

/-- What the driver does with what has happened.  Before the `END` rules an error is noted unless
the policy is to report it. -/
def settle : Phase → Event → Machine → Machine
  | _, .rule (.ok (.signal (.exit code))), m => { m with exitCode := code }
  | applies _ _, .rule (.ok (.signal .nextFile)), m => { m with current := none }
  | φ, .rule (.error e), m =>
    { m with pending := none, scope := m.scope.popAll, callDepth := 0
             skipped :=
               if !φ.isEnding && m.policy = .skipRule then e :: m.skipped else m.skipped }
  | _, .read (.ok (some record)), m => { m with scope := m.scope.setRecord record }
  | _, .cancelled, m => { m with exitCode := cancelledCode }
  | _, _, m => m

end Phase

/-- One step: what the phase does, and what the driver does with that. -/
def advance (self : Meaning) (p : Program) (fuel : Nat) (φ : Phase) : Eval (Event × Phase) := do
  let event ← φ.perform self
  let next := φ.next p fuel (← get).policy event
  modify (φ.settle event)
  return (event, next)

/-- A step of a run: the phase and the machine before it, and what happened. -/
structure Moment where
  phase : Phase
  machine : Machine
  event : Event

/-- The moments from one phase and machine to others. -/
inductive Path (self : Meaning) (p : Program) (fuel : Nat) :
    Phase → Machine → List Moment → Phase → Machine → Prop where
  | nil (φ : Phase) (m : Machine) : Path self p fuel φ m [] φ m
  | cons {φ φ₁ φ₂ : Phase} {m m₁ m₂ : Machine} {event : Event} {moments : List Moment} :
      advance self p fuel φ m = .ok (event, φ₁) m₁ → Path self p fuel φ₁ m₁ moments φ₂ m₂ →
      Path self p fuel φ m (⟨φ, m, event⟩ :: moments) φ₂ m₂

section

variable {self : Meaning} {p : Program} {fuel : Nat} {φ φ₁ : Phase} {m m₁ : Machine} {event : Event}

/-- A step, taken apart. -/
theorem advance_ok_iff : advance self p fuel φ m = .ok (event, φ₁) m₁ ↔
    ∃ m₀, φ.perform self m = .ok event m₀ ∧ φ₁ = φ.next p fuel m₀.policy event ∧
      m₁ = φ.settle event m₀ := by
  constructor
  · intro h
    obtain ⟨event', m₀, hperform, h⟩ := bind_ok_inv h
    cases h
    exact ⟨m₀, hperform, rfl, rfl⟩
  · rintro ⟨m₀, hperform, rfl, rfl⟩
    rw [advance, bind_of_ok hperform]
    rfl

end

/-- What terms, rules and inputs respect, the steps of a run do. -/
theorem Phase.respected {A : Permit} {Q : ∀ ⦃α : Type⦄, Eval α → Eval α → Prop}
    (h : RespectsSteps A Q) {self self' : Meaning} {E : Expr → Prop} {S : Stmt → Prop}
    (hv : ∀ e, E e → Q (self.value e) (self'.value e))
    (hr : ∀ s, S s → Q (self.run s) (self'.run s)) {φ : Phase}
    (hactive : ∀ i ∈ φ.index?, ∀ b, Q (setActive i b) (setActive i b))
    (hp : ∀ r ∈ φ.rules, ∀ t ∈ r.pattern, ∀ e ∈ t.exprs, E e)
    (hact : ∀ r ∈ φ.rules, ∀ action ∈ r.action, ∀ s ∈ action.body, S s) :
    Q (φ.perform self) (φ.perform self') := by
  have hrule : ∀ r ∈ φ.rules, Q (act self r) (act self' r) := fun r hmem => h.act hr (hact r hmem)
  cases φ with
  | begins rules | ends rules =>
    cases rules with
    | nil => exact h.pure _
    | cons r rest =>
      exact h.bind (h.attempt (hrule r (List.mem_cons_self ..))) fun _ => h.pure _
  | applies rules turns =>
    cases rules with
    | nil => exact h.pure _
    | cons rule rest =>
      have hmem : rule.1 ∈ (Phase.applies (rule :: rest) turns).rules := List.mem_cons_self ..
      have hrange : ∀ b, Q (setActive rule.2 b) (setActive rule.2 b) := hactive rule.2 rfl
      exact h.bind (h.attempt (h.dispatch hv hr hrange (hp rule.1 hmem) (hact rule.1 hmem)))
        fun _ => h.pure _
  | reads turns =>
    cases turns with
    | zero => exact h.stop _
    | succ turns =>
      refine h.bind (h.isCancelled) fun cancelled => ?_
      split
      · exact h.pure _
      · exact h.bind (h.attempt h.nextCounted) fun _ => h.pure _
  | closes => exact h.bind h.closeInputs fun _ => h.bind (h.attempt h.flush) fun _ => h.pure _
  | finished => exact h.stop _

/-! ## What is left of a phase -/

namespace Phase

/-- What the driver still does for a phase: up to the `END` rules, or up to their end. -/
def remaining (self : Meaning) (p : Program) (fuel : Nat) : Phase → Eval Unit
  | begins rules => do
    let exited ← beginRules self rules
    if !exited && !p.onlyBegin then mainRules self p.recordRules fuel
  | reads turns => mainRules self p.recordRules turns
  | applies rules turns => do
    match ← processRecord self rules with
    | some (.exit code) => setExitCode code
    | some .nextFile =>
      modify fun m => { m with current := none }
      mainRules self p.recordRules turns
    | _ => mainRules self p.recordRules turns
  | ends rules => endRules self rules
  | closes | finished => return ()

/-- The error with which an event ends what is left of a phase. -/
def fatal? (policy : Policy) : Phase → Event → Option Error
  | φ, .rule (.error e) => if !φ.isEnding && policy = .skipRule then none else some e
  | _, .read (.error e) => some e
  | _, .flushed (.error e) => some e
  | _, _ => none

/-- The phase is one of those before the `END` rules, or one of them. -/
def within (ending : Bool) : Phase → Bool
  | closes | finished => false
  | φ => φ.isEnding == ending

/-- What is done after something has happened in a phase. -/
def followed (self : Meaning) (p : Program) (fuel : Nat) (φ : Phase) (event : Event) : Eval Unit :=
  fun m =>
    let φ₁ := φ.next p fuel m.policy event
    let m₁ := φ.settle event m
    if φ₁.within φ.isEnding then φ₁.remaining self p fuel m₁
    else
      match φ.fatal? m.policy event with
      | some e => .error (.failed e) m₁
      | none => .ok () m₁

section

variable {self : Meaning} {p : Program} {fuel : Nat} {m : Machine}

theorem settle_error (φ : Phase) (e : Error) (m : Machine) :
    φ.settle (.rule (.error e)) m =
      { m with pending := none, scope := m.scope.popAll, callDepth := 0
               skipped :=
                 if !φ.isEnding && m.policy = .skipRule then e :: m.skipped else m.skipped } := by
  cases φ <;> rfl

theorem handle_run {φ : Phase} (hφ : φ.isEnding = false) (e : Error) (m : Machine) : handle e m =
    match m.policy with
    | .abort => .error (.failed e) (φ.settle (.rule (.error e)) m)
    | .skipRule => .ok () (φ.settle (.rule (.error e)) m) := by
  rw [settle_error, hφ]
  rcases m with ⟨_, _, _, _, _, _, _, _, _, _, _, _, _, _, policy, _, _⟩
  cases policy <;> rfl

/-- A rule that fails before the `END` rules. -/
theorem handle_followed {φ : Phase} (e : Error) (x : Eval Unit) (hφ : φ.isEnding = false)
    (habort : (φ.next p fuel .abort (.rule (.error e))).within false = false)
    (hskip : (φ.next p fuel .skipRule (.rule (.error e))).within false = true ∧
      (φ.next p fuel .skipRule (.rule (.error e))).remaining self p fuel = x) :
    (handle e >>= fun _ => x) = followed self p fuel φ (.rule (.error e)) := by
  funext m
  rw [bind_run, handle_run hφ]
  unfold followed
  cases hm : m.policy with
  | abort => simp [hφ, habort, fatal?]
  | skipRule => simp [hφ, hskip]

theorem remaining_begins (r : Rule) (rest : List Rule) :
    remaining self p fuel (.begins (r :: rest)) =
      perform self (.begins (r :: rest)) >>= followed self p fuel (.begins (r :: rest)) := by
  rw [remaining, beginRules, perform, bind_assoc, bind_assoc]
  congr 1
  funext outcome
  cases outcome with
  | error e =>
    refine (bind_assoc (handle e) _ _).trans ?_
    exact handle_followed e (remaining self p fuel (.begins rest)) rfl rfl ⟨rfl, rfl⟩
  | ok flow => rcases flow with _ | _ | _ | (_ | _ | code) | v <;> rfl

theorem remaining_applies (r : Rule) (i : Nat) (rest : List (Rule × Nat)) (turns : Nat) :
    remaining self p fuel (.applies ((r, i) :: rest) turns) =
      perform self (.applies ((r, i) :: rest) turns) >>=
        followed self p fuel (.applies ((r, i) :: rest) turns) := by
  rw [remaining, processRecord, perform, bind_assoc, bind_assoc]
  congr 1
  funext outcome
  cases outcome with
  | error e =>
    refine (bind_assoc (handle e) _ _).trans ?_
    exact handle_followed e (remaining self p fuel (.applies rest turns)) rfl rfl ⟨rfl, rfl⟩
  | ok flow => rcases flow with _ | _ | _ | (_ | _ | code) | v <;> rfl

theorem remaining_ends (r : Rule) (rest : List Rule) :
    remaining self p fuel (.ends (r :: rest)) =
      perform self (.ends (r :: rest)) >>= followed self p fuel (.ends (r :: rest)) := by
  rw [remaining, endRules, perform, bind_assoc]
  congr 1
  funext outcome
  cases outcome with
  | error e =>
    funext m
    show EStateM.Result.error _ _ = EStateM.Result.error _ _
    rw [settle_error]
    rfl
  | ok flow => rcases flow with _ | _ | _ | (_ | _ | code) | v <;> rfl

theorem remaining_reads (turns : Nat) :
    remaining self p fuel (.reads (turns + 1)) =
      perform self (.reads (turns + 1)) >>= followed self p fuel (.reads (turns + 1)) := by
  rw [remaining, mainRules_turn, perform, bind_assoc]
  congr 1
  funext cancelled m
  cases cancelled with
  | true => rfl
  | false =>
    show (nextCounted >>= _) m = ((attempt nextCounted >>= _) >>= _) m
    rw [bind_assoc, bind_run, bind_run, attempt]
    rcases nextCounted m with ⟨_ | record, m₁⟩ | ⟨e | _ | _ | _, m₁⟩ <;> rfl

/-- What is left of a phase is what happens next and what follows that. -/
theorem remaining_eq {φ : Phase} {ending : Bool} (hφ : φ.within ending) :
    φ.remaining self p fuel = φ.perform self >>= followed self p fuel φ := by
  cases φ with
  | begins rules =>
    cases rules with
    | nil =>
      funext m
      show (if !false && !p.onlyBegin then mainRules self p.recordRules fuel else pure ()) m =
        followed self p fuel (.begins []) .noneLeft m
      cases honly : p.onlyBegin <;> simp [followed, next, honly] <;> rfl
    | cons r rest => exact remaining_begins r rest
  | reads turns =>
    cases turns with
    | zero => rfl
    | succ turns => exact remaining_reads turns
  | applies rules turns =>
    cases rules with
    | nil => rfl
    | cons rule rest => exact remaining_applies rule.1 rule.2 rest turns
  | ends rules =>
    cases rules with
    | nil => rfl
    | cons r rest => exact remaining_ends r rest
  | closes | finished => cases hφ

end

/-- Where a run goes when it leaves the phases before the `END` rules, or those of them. -/
def exit (p : Program) (ending : Bool) : Phase := if ending then closes else ends p.endRules

theorem within_iff {φ : Phase} {ending : Bool} : φ.within ending ↔
    φ.isEnding = ending ∧ φ ≠ .closes ∧ φ ≠ .finished := by
  cases φ <;> simp [within, isEnding]

/-- A run leaves the phases of one kind by one way. -/
theorem next_exit {p : Program} {fuel : Nat} {policy : Policy} {φ : Phase} {event : Event}
    {ending : Bool} (hφ : φ.within ending) :
    (φ.next p fuel policy event).within ending ∨ φ.next p fuel policy event = exit p ending := by
  obtain ⟨rfl, hcloses, hfinished⟩ := within_iff.mp hφ
  fun_cases next p fuel policy φ event
  all_goals first
    | exact .inl rfl
    | exact .inr rfl
    | exact absurd rfl hcloses
    | exact absurd rfl hfinished

/-- How far a phase is from the end of a run: turns of the main loop first, then rules. -/
def rank (fuel : Nat) : Phase → Nat ×ₗ Nat
  | begins rules => toLex (2 * fuel + 3, rules.length)
  | reads turns => toLex (2 * turns + 1, 0)
  | applies rules turns => toLex (2 * turns + 2, rules.length)
  | ends rules => toLex (0, rules.length + 2)
  | closes => toLex (0, 1)
  | finished => toLex (0, 0)

theorem rank_next {p : Program} {fuel : Nat} {policy : Policy} {φ : Phase} {event : Event}
    (hφ : φ ≠ .finished) : (φ.next p fuel policy event).rank fuel < φ.rank fuel := by
  fun_cases next p fuel policy φ event
  all_goals simp_all [rank, Prod.Lex.toLex_lt_toLex]
  omega

/-- No rules come up but those of the program. -/
theorem mem_rules_next {p : Program} {fuel : Nat} {policy : Policy} {φ : Phase} {event : Event}
    (hφ : ∀ r ∈ φ.rules, r ∈ p.rules) : ∀ r ∈ (φ.next p fuel policy event).rules, r ∈ p.rules := by
  have hrecords : ∀ r ∈ p.recordRules.map (·.1), r ∈ p.rules := by
    intro r hr
    obtain ⟨rule, hrule, rfl⟩ := List.mem_map.mp hr
    exact List.fst_mem_of_mem_zipIdx (List.mem_of_mem_filter hrule)
  fun_cases next p fuel policy φ event
  all_goals first
    | exact fun r hr => List.mem_of_mem_filter hr
    | exact hrecords
    | exact fun r hr => hφ r (List.mem_cons_of_mem _ hr)
    | exact fun r hr => absurd hr List.not_mem_nil

@[simp] theorem settle_policy (φ : Phase) (event : Event) (m : Machine) :
    (φ.settle event m).policy = m.policy := by
  fun_cases settle φ event m <;> rfl

end Phase

/-- Rules and inputs are all the same under any policy, and leave it as it is. -/
def Impartial (self : Meaning) : Prop :=
  ∀ φ : Phase, ∀ policy, Commutes (Machine.withPolicy policy) (φ.perform self)

/-- What a computation does not look at, it leaves as it is. -/
theorem Impartial.policy {self : Meaning} (hself : Impartial self) {φ : Phase} {m m₁ : Machine}
    {event : Event} (h : φ.perform self m = .ok event m₁) : m₁.policy = m.policy := by
  have hsame : m.withPolicy m.policy = m := rfl
  have hrun := hself φ m.policy m
  rw [hsame, h] at hrun
  have hm₁ : m₁ = m₁.withPolicy m.policy := by
    simpa [mapState] using hrun
  rw [hm₁]
  rfl

/-- The error of the first moment that ends what is left of a phase. -/
def failure? (policy : Policy) (moments : List Moment) : Option Error :=
  moments.findSome? fun x => x.phase.fatal? policy x.event

/-- The result of a part of a run, from what happened in it. -/
def outcome (policy : Policy) (moments : List Moment) : Except Error Unit :=
  match failure? policy moments with
  | some e => .error e
  | none => .ok ()

theorem outcome_cons_none {policy : Policy} {x : Moment} {moments : List Moment}
    (h : x.phase.fatal? policy x.event = none) :
    outcome policy (x :: moments) = outcome policy moments := by
  simp [outcome, failure?, h]

section

variable {self : Meaning} {p : Program} {fuel : Nat}

/-- The event is one that can happen in the phase. -/
def Phase.allows : Phase → Event → Bool
  | begins (_ :: _), .rule _ | applies (_ :: _) _, .rule _ | ends (_ :: _), .rule _ => true
  | begins [], .noneLeft | applies [] _, .noneLeft | ends [], .noneLeft => true
  | reads (_ + 1), .read _ | reads (_ + 1), .cancelled | closes, .flushed _ => true
  | _, _ => false

theorem Phase.perform_allows {φ : Phase} {event : Event} {m m₁ : Machine}
    (h : φ.perform self m = .ok event m₁) : φ.allows event := by
  have hattempted : ∀ {α : Type} {x : Eval (Except Error α)} {make : Except Error α → Event}
      {m m₁ : Machine}, (do return make (← x) : Eval Event) m = .ok event m₁ →
      ∃ o, event = make o := by
    intro α x make m m₁ h
    obtain ⟨o, m₂, -, h⟩ := bind_ok_inv h
    cases h
    exact ⟨o, rfl⟩
  cases φ with
  | begins rules | ends rules =>
    cases rules with
    | nil => cases h; rfl
    | cons r rest =>
      obtain ⟨o, rfl⟩ := hattempted h
      rfl
  | applies rules turns =>
    cases rules with
    | nil => cases h; rfl
    | cons rule rest =>
      obtain ⟨o, rfl⟩ := hattempted h
      rfl
  | reads turns =>
    cases turns with
    | zero => cases h
    | succ turns =>
      rw [Phase.perform, bind_of_ok (isCancelled_run m)] at h
      split at h
      · cases h
        rfl
      · obtain ⟨o, rfl⟩ := hattempted h
        rfl
  | closes =>
    obtain ⟨-, m₂, -, h⟩ := bind_ok_inv h
    obtain ⟨o, rfl⟩ := hattempted h
    rfl
  | finished => cases h

/-- An event that a run goes on from is no failure. -/
theorem Phase.fatal?_eq_none {φ : Phase} {event : Event} {policy : Policy} {ending : Bool}
    (hevent : φ.allows event) (hφ : φ.within ending)
    (hnext : (φ.next p fuel policy event).within ending) : φ.fatal? policy event = none := by
  obtain ⟨rfl, -, -⟩ := within_iff.mp hφ
  revert hevent
  fun_cases allows φ event
  case case1 | case2 | case3 =>
    rename_i outcome
    cases policy <;> rcases outcome with e | flow <;> first | exact fun _ => rfl | cases hnext
  case case7 =>
    rename_i outcome
    rcases outcome with e | record <;> first | exact fun _ => rfl | cases hnext
  case case9 => cases hφ
  case case10 => exact nofun
  all_goals exact fun _ => rfl

theorem remaining_of_step {φ φ₁ : Phase} {m m₁ : Machine} {event : Event} {ending : Bool}
    (hself : Impartial self) (hφ : φ.within ending)
    (h : advance self p fuel φ m = .ok (event, φ₁) m₁) :
    φ.remaining self p fuel m =
      if φ₁.within ending then φ₁.remaining self p fuel m₁
      else
        match φ.fatal? m.policy event with
        | some e => .error (.failed e) m₁
        | none => .ok () m₁ := by
  obtain ⟨m₀, hperform, rfl, rfl⟩ := advance_ok_iff.mp h
  obtain ⟨rfl, -, -⟩ := Phase.within_iff.mp hφ
  rw [Phase.remaining_eq hφ, bind_of_ok hperform, ← hself.policy hperform]
  rfl

theorem attempt_congr {α : Type} {x y : Eval α} {m m₁ : Machine} (h : x m = y m₁) :
    attempt x m = attempt y m₁ := by
  rw [attempt, attempt, h]

theorem attempt_ne_failed {α : Type} {x : Eval α} {m m₁ : Machine} {e : Error} :
    attempt x m ≠ .error (.failed e) m₁ := by
  unfold attempt
  split
  · exact nofun
  · exact nofun
  · next stop _ hstop _ =>
    rintro ⟨⟩
    exact hstop e rfl

/-- A step of the driver does not fail itself. -/
theorem Phase.perform_ne_failed {φ : Phase} {m m₁ : Machine} {e : Error} :
    φ.perform self m ≠ .error (.failed e) m₁ := by
  have hattempted : ∀ {α : Type} {x : Eval α} {make : Except Error α → Event} {m : Machine},
      (do return make (← attempt x) : Eval Event) m ≠ .error (.failed e) m₁ := by
    intro α x make m h
    rw [bind_run] at h
    cases hx : attempt x m with
    | ok o m₂ =>
      rw [hx] at h
      cases h
    | error why m₂ =>
      rw [hx] at h
      cases h
      exact attempt_ne_failed hx
  cases φ with
  | begins rules | ends rules =>
    cases rules with
    | nil => exact nofun
    | cons r rest => exact hattempted
  | applies rules turns =>
    cases rules with
    | nil => exact nofun
    | cons rule rest => exact hattempted
  | reads turns =>
    cases turns with
    | zero => exact nofun
    | succ turns =>
      rw [Phase.perform, bind_of_ok (isCancelled_run m)]
      split
      · exact nofun
      · exact hattempted
  | closes => exact hattempted
  | finished => exact nofun

theorem advance_policy {φ φ₁ : Phase} {m m₁ : Machine} {event : Event} (hself : Impartial self)
    (h : advance self p fuel φ m = .ok (event, φ₁) m₁) : m₁.policy = m.policy := by
  obtain ⟨m₀, hperform, -, rfl⟩ := advance_ok_iff.mp h
  rw [Phase.settle_policy, hself.policy hperform]

/-- The last step of a part of a run. -/
theorem attempt_of_last {φ : Phase} {m m₁ : Machine} {event : Event} {ending : Bool}
    (hself : Impartial self) (hφ : φ.within ending)
    (h : advance self p fuel φ m = .ok (event, .exit p ending) m₁) :
    attempt (φ.remaining self p fuel) m = .ok (outcome m.policy [⟨φ, m, event⟩]) m₁ := by
  have hexit : (Phase.exit p ending).within ending = false := by cases ending <;> rfl
  rw [attempt, remaining_of_step hself hφ h, if_neg (by simp [hexit])]
  simp only [outcome, failure?, List.findSome?_cons, List.findSome?_nil]
  cases φ.fatal? m.policy event <;> rfl

/-- A step within a part of a run. -/
theorem attempt_of_inner {φ φ₁ : Phase} {m m₁ : Machine} {event : Event} {ending : Bool}
    (hself : Impartial self) (hφ : φ.within ending) (hφ₁ : φ₁.within ending)
    (h : advance self p fuel φ m = .ok (event, φ₁) m₁) :
    attempt (φ.remaining self p fuel) m = attempt (φ₁.remaining self p fuel) m₁ ∧
      ∀ moments, outcome m.policy (⟨φ, m, event⟩ :: moments) = outcome m₁.policy moments := by
  refine ⟨attempt_congr ?_, fun moments => ?_⟩
  · rw [remaining_of_step hself hφ h, if_pos hφ₁]
  · rw [advance_policy hself h]
    obtain ⟨m₀, hperform, rfl, rfl⟩ := advance_ok_iff.mp h
    rw [hself.policy hperform] at hφ₁
    exact outcome_cons_none (Phase.fatal?_eq_none (Phase.perform_allows hperform) hφ hφ₁)

/-- What is left of a phase ends as its moments tell. -/
theorem Path.attempt_remaining {φ : Phase} {m m' : Machine} {moments : List Moment} {ending : Bool}
    (hself : Impartial self) (hφ : φ.within ending)
    (h : Path self p fuel φ m moments (.exit p ending) m')
    (hmoments : ∀ x ∈ moments, x.phase.within ending) :
    attempt (φ.remaining self p fuel) m = .ok (outcome m.policy moments) m' := by
  have hexit : (Phase.exit p ending).within ending = false := by cases ending <;> rfl
  generalize hψ : Phase.exit p ending = ψ at h
  induction h with
  | nil φ m =>
    rw [← hψ, hexit] at hφ
    cases hφ
  | @cons φ φ₁ φ₂ m m₁ m₂ event moments hstep hrest ih =>
    obtain ⟨-, hmoments⟩ := List.forall_mem_cons.mp hmoments
    by_cases hφ₁ : φ₁.within ending
    · obtain ⟨hsame, houtcome⟩ := attempt_of_inner hself hφ hφ₁ hstep
      rw [hsame, houtcome]
      exact ih hφ₁ hmoments hψ
    · -- Outside there are no more moments.
      cases hrest with
      | nil =>
        subst hψ
        exact attempt_of_last hself hφ hstep
      | cons hstep' _ => exact absurd (hmoments _ (List.mem_cons_self ..)) hφ₁

/-- What is left of a phase is a path, if it comes to an end. -/
theorem exists_path {φ : Phase} {m m' : Machine} {o : Except Error Unit} {ending : Bool}
    (hself : Impartial self) (hφ : φ.within ending)
    (h : attempt (φ.remaining self p fuel) m = .ok o m') :
    ∃ moments, Path self p fuel φ m moments (.exit p ending) m' ∧
      ∀ x ∈ moments, x.phase.within ending := by
  induction hrank : φ.rank fuel using WellFoundedLT.induction generalizing φ m with
  | ind rank ih =>
    subst hrank
    obtain ⟨event, m₀, hperform⟩ : ∃ event m₀, φ.perform self m = .ok event m₀ := by
      cases hperform : φ.perform self m with
      | ok event m₀ => exact ⟨event, m₀, rfl⟩
      | error why m₀ =>
        rw [attempt, Phase.remaining_eq hφ, bind_of_error hperform] at h
        cases why with
        | failed e => exact absurd hperform Phase.perform_ne_failed
        | crashed _ | needs _ | exhausted => cases h
    have hstep : advance self p fuel φ m =
        .ok (event, φ.next p fuel m₀.policy event) (φ.settle event m₀) :=
      advance_ok_iff.mpr ⟨m₀, hperform, rfl, rfl⟩
    rcases Phase.next_exit hφ with hnext | hnext
    · rw [(attempt_of_inner hself hφ hnext hstep).1] at h
      obtain ⟨moments, hpath, hmoments⟩ :=
        ih _ (Phase.rank_next (Phase.within_iff.mp hφ).2.2) hnext h rfl
      exact ⟨_, .cons hstep hpath, List.forall_mem_cons.mpr ⟨hφ, hmoments⟩⟩
    · rw [hnext] at hstep
      rw [attempt_of_last hself hφ hstep] at h
      cases h
      exact ⟨_, .cons hstep (.nil _ _), List.forall_mem_singleton.mpr hφ⟩

/-- From the `END` rules on a run goes through them, closes its inputs and is over. -/
theorem Path.closing {φ : Phase} {m m' : Machine} {moments : List Moment} (hφ : φ.within true)
    (h : Path self p fuel φ m moments .finished m') :
    ∃ ending m₁ event, moments = ending ++ [⟨.closes, m₁, event⟩] ∧
      Path self p fuel φ m ending .closes m₁ ∧ (∀ x ∈ ending, x.phase.within true) ∧
      advance self p fuel .closes m₁ = .ok (event, .finished) m' := by
  generalize hψ : Phase.finished = ψ at h
  induction h with
  | nil φ m =>
    subst hψ
    cases hφ
  | @cons φ φ₁ φ₂ m m₁ m₂ event moments hstep hrest ih =>
    subst hψ
    obtain ⟨m₀, -, hnext, -⟩ := advance_ok_iff.mp hstep
    rcases Phase.next_exit hφ (p := p) with hwithin | hexit
    · rw [← hnext] at hwithin
      obtain ⟨ending, m₃, event', rfl, hpath, hending, hlast⟩ := ih hwithin rfl
      exact ⟨⟨φ, m, event⟩ :: ending, m₃, event', rfl, .cons hstep hpath,
        List.forall_mem_cons.mpr ⟨hφ, hending⟩, hlast⟩
    · rw [← hnext] at hexit
      subst hexit
      cases hrest with
      | cons hlast hfinished =>
        obtain ⟨m₄, -, rfl, -⟩ := advance_ok_iff.mp hlast
        cases hfinished with
        | nil => exact ⟨[⟨φ, m, event⟩], m₁, _, rfl, .cons hstep (.nil _ _),
            List.forall_mem_singleton.mpr hφ, hlast⟩
        | cons hstuck _ =>
          obtain ⟨_, hperform, -⟩ := advance_ok_iff.mp hstuck
          cases hperform

theorem Path.append {φ₁ φ₂ φ₃ : Phase} {m₁ m₂ m₃ : Machine} {first second : List Moment}
    (h : Path self p fuel φ₁ m₁ first φ₂ m₂) (h' : Path self p fuel φ₂ m₂ second φ₃ m₃) :
    Path self p fuel φ₁ m₁ (first ++ second) φ₃ m₃ := by
  induction h with
  | nil => exact h'
  | cons hstep _ ih => exact .cons hstep (ih h')

end

/-! ## Whole runs -/

/-- The moments of a run that has come to its end: those before the `END` rules, and those from them
on. -/
structure History (terms : Meaning) (p : Program) (fuel : Nat) (m : Machine)
    (before after : List Moment) (m' : Machine) : Prop where
  path : ∃ mid, Path terms p fuel (.begins p.beginRules) m before (.ends p.endRules) mid ∧
    Path terms p fuel (.ends p.endRules) mid after .finished m'
  before : ∀ x ∈ before, x.phase.isEnding = false
  after : ∀ x ∈ after, x.phase.isEnding = true

/-- The result of a run from its moments: the first failure, or the status. -/
def result (policy : Policy) (moments : List Moment) (m : Machine) : Except Error Int :=
  match failure? policy moments with
  | some e => .error e
  | none => .ok m.exitCode

section

variable {self : Meaning} {p : Program} {fuel : Nat}

/-- The result of a run from those of its parts. -/
def conclude (began ended flushed : Except Error Unit) : Eval Int :=
  match began, ended, flushed with
  | .error e, _, _ | .ok _, .error e, _ | .ok _, .ok _, .error e => raise e
  | .ok _, .ok _, .ok _ => return (← get).exitCode

theorem phases_run (sources : List Source) (m : Machine) : phases self p fuel sources m = (do
      let began ← attempt ((Phase.begins p.beginRules).remaining self p fuel)
      let ended ← attempt ((Phase.ends p.endRules).remaining self p fuel)
      closeInputs
      let flushed ← attempt flush
      conclude began ended flushed : Eval Int) { m with sources } := rfl

theorem attempt_attempt_bind {α β : Type} {x : Eval α} {f : Except Error α → Eval β}
    {r : Except Error β} {m m' : Machine} (h : attempt (attempt x >>= f) m = .ok r m') :
    ∃ o m₁, attempt x m = .ok o m₁ ∧ attempt (f o) m₁ = .ok r m' := by
  cases hx : attempt x m with
  | ok o m₁ =>
    rw [attempt, bind_of_ok hx] at h
    exact ⟨o, m₁, rfl, h⟩
  | error why m₁ =>
    rw [attempt, bind_of_error hx] at h
    cases why with
    | failed e => exact absurd hx attempt_ne_failed
    | crashed _ | needs _ | exhausted => cases h

/-- The result of a run in the words of its moments. -/
theorem attempt_conclude (policy : Policy) (before ending : List Moment)
    (flushed : Except Error Unit) (m₁ m : Machine) :
    attempt (conclude (outcome policy before) (outcome policy ending) flushed) m =
      .ok (result policy (before ++ (ending ++ [⟨.closes, m₁, .flushed flushed⟩])) m) m := by
  simp only [outcome, result, failure?, List.findSome?_append, List.findSome?_cons,
    List.findSome?_nil]
  cases List.findSome? (fun x => x.phase.fatal? policy x.event) before with
  | some e => cases flushed <;> rfl
  | none =>
    cases List.findSome? (fun x => x.phase.fatal? policy x.event) ending with
    | some e => cases flushed <;> rfl
    | none => cases flushed <;> rfl

theorem Path.policy {φ φ' : Phase} {m m' : Machine} {moments : List Moment} (hself : Impartial self)
    (h : Path self p fuel φ m moments φ' m') : m'.policy = m.policy := by
  induction h with
  | nil => rfl
  | cons hstep _ ih => rw [ih, advance_policy hself hstep]

theorem advance_closes_iff {m m' : Machine} {event : Event} :
    advance self p fuel .closes m = .ok (event, .finished) m' ↔
      ∃ flushed, event = .flushed flushed ∧
        attempt flush { m with current := none, opened := ∅ } = .ok flushed m' := by
  constructor
  · intro h
    obtain ⟨m₀, hperform, -, rfl⟩ := advance_ok_iff.mp h
    obtain ⟨⟨⟩, m₂, hclosed, hperform⟩ := bind_ok_inv hperform
    cases hclosed
    obtain ⟨flushed, m₃, hflush, hperform⟩ := bind_ok_inv hperform
    cases hperform
    exact ⟨flushed, rfl, hflush⟩
  · rintro ⟨flushed, rfl, hflush⟩
    refine advance_ok_iff.mpr ⟨m', ?_, rfl, rfl⟩
    show (attempt flush >>= _) _ = _
    rw [bind_of_ok hflush]
    rfl

/-- A run that comes to an end, with an error or a status, is its moments. -/
theorem attempt_phases_iff {m m' : Machine} {sources : List Source} {r : Except Error Int}
    (hself : Impartial self) :
    attempt (phases self p fuel sources) m = .ok r m' ↔
      ∃ before after, History self p fuel { m with sources } before after m' ∧
        r = result m.policy (before ++ after) m' := by
  have hstart : (Phase.begins p.beginRules).within false := rfl
  have hturn : (Phase.ends p.endRules).within true := rfl
  rw [attempt_congr (phases_run sources m)]
  constructor
  · intro h
    obtain ⟨began, mid, hbegan, h⟩ := attempt_attempt_bind h
    obtain ⟨ended, m₁, hended, h⟩ := attempt_attempt_bind h
    obtain ⟨flushed, m₂, hflushed, h⟩ := attempt_attempt_bind
      (m := { m₁ with current := none, opened := ∅ }) h
    obtain ⟨before, hbefore, hbefore'⟩ := exists_path hself hstart hbegan
    obtain ⟨ending, hending, hending'⟩ := exists_path hself hturn hended
    have hpolicy : mid.policy = m.policy := by rw [hbefore.policy hself]
    rw [hbefore.attempt_remaining hself hstart hbefore'] at hbegan
    rw [hending.attempt_remaining hself hturn hending', hpolicy] at hended
    cases hbegan
    cases hended
    rw [attempt_conclude m.policy before ending flushed m₁] at h
    cases h
    have hclose : advance self p fuel .closes m₁ = .ok (.flushed flushed, .finished) m' :=
      advance_closes_iff.mpr ⟨flushed, rfl, hflushed⟩
    have hafter := Path.append (show Path self p fuel _ mid ending .closes m₁ from hending)
      (.cons hclose (.nil _ _))
    refine ⟨before, ending ++ [⟨.closes, m₁, .flushed flushed⟩], ⟨⟨mid, hbefore, hafter⟩, ?_, ?_⟩,
      rfl⟩
    · exact fun x hx => (Phase.within_iff.mp (hbefore' x hx)).1
    · refine List.forall_mem_append.mpr ⟨fun x hx => ?_, List.forall_mem_singleton.mpr rfl⟩
      exact (Phase.within_iff.mp (hending' x hx)).1
  · rintro ⟨before, after, ⟨⟨mid, hbefore, hafter⟩, hbefore', -⟩, rfl⟩
    obtain ⟨ending, m₁, event, rfl, hending, hending', hclose⟩ := hafter.closing hturn
    obtain ⟨flushed, rfl, hflushed⟩ := advance_closes_iff.mp hclose
    have hpolicy : mid.policy = m.policy := by rw [hbefore.policy hself]
    have hwithin : ∀ x ∈ before, x.phase.within false := fun x hx => by
      refine Phase.within_iff.mpr ⟨hbefore' x hx, ?_, ?_⟩ <;>
        exact fun heq => absurd (hbefore' x hx) (by simp [heq, Phase.isEnding])
    have hbegan := Path.attempt_remaining hself hstart hbefore hwithin
    have hended := Path.attempt_remaining hself hturn hending hending'
    rw [hpolicy] at hended
    rw [attempt, bind_of_ok hbegan, bind_of_ok hended, bind_of_ok
      (show closeInputs m₁ = .ok () { m₁ with current := none, opened := ∅ } from rfl),
      bind_of_ok hflushed]
    exact attempt_conclude m.policy before ending flushed m₁ m'

end

end Run
end Awk
