import Awk.Host.Simulated
import Awk.Proofs.Driver
import Awk.Proofs.WellFormed

/-!
# Branches that no run takes

Evaluation has answers also for terms that no text writes: for assignments to what cannot be
assigned, and for `BEGIN` and `END` where a pattern is tested.  A program that has been read has no
such terms, so a run of it is the same with an alarm in these places, whatever the alarm.
-/

namespace Awk

open Eval

/-- What an assignment writes, with an alarm for what cannot be assigned. -/
def Target.resolveOr (alarm : Stop) (self : Meaning) : Expr → Eval Target
  | .var name _ => return .var name
  | .element array indices _ => return .element array (← self.key indices)
  | .field index _ => return .field (← self.fieldIndex index)
  | .group inner _ => resolveOr alarm self inner
  | _ => throw alarm

theorem Target.resolve_eq {target : Expr} (h : target.isAssignable) (self : Meaning)
    (alarm : Stop) :
    Target.resolve self target = Target.resolveOr alarm self target := by
  fun_induction Expr.isAssignable target with
  | case1 | case2 | case3 => rfl
  | case4 inner place ih => exact ih h
  | case5 => cases h

/-! ## Alarms at single nodes -/

section

variable (alarm : Stop)

mutual

/-- Evaluates like `eval`, but raises an alarm where a node is not well formed.  A target is
resolved before anything else is done at its node, so that is where no target would be found. -/
def evalGuarded (p : Program) : Nat → Expr → Eval Value
  | 0, _ => throw .exhausted
  | n + 1, e =>
    if e.isFormed then located e.place (e.rule p ⟨evalGuarded p n, execGuarded p n⟩)
    else throw alarm

def execGuarded (p : Program) : Nat → Stmt → Eval Flow
  | 0, _ => throw .exhausted
  | n + 1, s => do Stmt.settled (← s.rule ⟨evalGuarded p n, execGuarded p n⟩ n)

end

/-- The meaning of a program's terms with alarms. -/
def meaningGuarded (p : Program) (fuel : Nat) : Meaning :=
  ⟨evalGuarded alarm p fuel, execGuarded alarm p fuel⟩

end

theorem respectsRuns_eq (A : Permit) : RespectsRuns A fun _ x y => x = y where
  pure _ := rfl
  bind hx hf := by rw [hx, funext hf]
  stop _ := rfl
  located _ hx := by rw [hx]
  access _ _ := rfl
  refill _ _ _ _ := rfl
  write _ := rfl
  record _ _ := rfl
  nextCounted := rfl
  aside _ _ := rfl
  takePending := rfl
  newArray := rfl
  leave _ := rfl
  inFrame _ _ hx := by rw [hx]
  attempt hx := by rw [hx]
  isCancelled := rfl
  reset := rfl
  handle _ := rfl
  setExitCode _ := rfl
  setActive _ _ := rfl
  leaveInput := rfl
  closeInputs := rfl

theorem phases_guarded {p : Program} (hp : p.WellFormed) (alarm : Stop) (fuel : Nat)
    (sources : List Source) :
    Run.phases (meaningGuarded alarm p fuel) p fuel sources = Run.program p fuel sources := by
  have h := respectsRuns_eq (.assigning fun _ => True)
  obtain ⟨hv, hr⟩ := h.programs hp.terms (fun _ _ _ _ => trivial) (fun _ _ _ _ => trivial)
    (meaningGuarded alarm p) ⟨fun _ => rfl, fun _ => rfl⟩
    (fun n e he hx => by
      show _ = evalGuarded alarm p (n + 1) e
      rw [evalGuarded, if_pos he.node]
      exact hx)
    (fun _ _ _ hx => hx) fuel
  exact (h.phases hv hr rfl hp.terms.patterns hp.terms.actions fuel).symm

/-! ## The rules that records are offered to -/

namespace Run

theorem mem_recordRules {p : Program} {rule : Rule × Nat} (h : rule ∈ p.recordRules) :
    rule.1.pattern ≠ some .begin_ ∧ rule.1.pattern ≠ some .end_ := by
  have hkind := (List.mem_filter.mp h).2
  refine ⟨fun hpattern => ?_, fun hpattern => ?_⟩ <;>
    simp [Rule.isBegin, Rule.isEnd, hpattern] at hkind

/-- Rules that are left for a record are among those for records. -/
def Phase.Offers (p : Program) : Phase → Prop
  | applies rules _ => ∀ rule ∈ rules, rule ∈ p.recordRules
  | _ => True

theorem Phase.next_offers {p : Program} {fuel : Nat} {policy : Policy} {φ : Phase} {event : Event}
    (h : φ.Offers p) : (φ.next p fuel policy event).Offers p := by
  fun_cases next p fuel policy φ event
  all_goals first
    | trivial
    | exact fun _ hrule => hrule
    | exact fun rule hrule => h rule (List.mem_cons_of_mem _ hrule)

/-- No rule that is offered a record is one for the start or the end of a run. -/
theorem Path.offered {self : Meaning} {p : Program} {fuel : Nat} {φ φ' : Phase} {m m' : Machine}
    {moments : List Moment} (hφ : φ.Offers p) (h : Path self p fuel φ m moments φ' m') :
    ∀ x ∈ moments, x.phase.Offers p := by
  induction h with
  | nil => exact List.forall_mem_nil _
  | cons hstep _ ih =>
    obtain ⟨m₀, -, rfl, -⟩ := advance_ok_iff.mp hstep
    exact List.forall_mem_cons.mpr ⟨hφ, ih (Phase.next_offers hφ)⟩

end Run

/-- To compute fails only where there is nothing to divide by. -/
theorem Arith.evaluate_error {op : Arith} {x y : Double} {fault : Fault}
    (h : op.evaluate x y = .error fault) :
    fault = .divisionByZero ∨ fault = .remainderByZero := by
  cases op with
  | add | sub | mul | pow => cases h
  | div =>
    rw [evaluate] at h
    split at h <;> cases h
    exact .inl rfl
  | mod =>
    rw [evaluate] at h
    split at h <;> cases h
    exact .inr rfl

theorem exists_parsed {tokens : List Token} {test : Program → Bool}
    (h : ((parseTokens tokens).toOption.any test) = true) :
    ∃ p, parseTokens tokens = .ok p ∧ test p = true := by
  obtain ⟨p, hp, htest⟩ := (Option.any_eq_true ..).mp h
  exact ⟨p, ok_of_toOption hp, htest⟩

theorem exists_program {source : String} {test : Program → Bool}
    (h : ((parseProgram source).toOption.any test) = true) :
    ∃ tokens p, tokenize source = .ok tokens ∧ parseTokens tokens = .ok p ∧ test p = true := by
  unfold parseProgram at h
  cases htokens : tokenize source with
  | error e =>
    rw [htokens] at h
    cases h
  | ok tokens =>
    rw [htokens] at h
    exact ⟨tokens, (exists_parsed h).imp fun _ hp => ⟨rfl, hp⟩⟩

/-- Whatever the tokens, a program that is read from them is well formed, and a name of one of its
functions is spelled by a token that stands for no built-in function; where the tokens are among
those of a text such a name is not that of a built-in one, while other tokens may spell any name.
In its runs no expression assigns what cannot be assigned, so that an alarm in place of that fault
changes nothing; arithmetic knows no other faults than those of division; and no rule that is
offered a record is one for the start or the end of a run. -/
theorem parseTokens_wellFormed {tokens : List Token} {p : Program}
    (h : parseTokens tokens = .ok p) :
    p.WellFormed ∧
      (∀ f ∈ p.functions, Token.Names (· ∈ tokens) f.name) ∧
      (∀ source all, tokenize source = .ok all → tokens ⊆ all →
        ∀ f ∈ p.functions, Builtin.ofName? f.name = none) ∧
      (∀ alarm fuel sources,
        Run.phases (meaningGuarded alarm p fuel) p fuel sources = Run.program p fuel sources) ∧
      (∀ alarm self (target : Expr), target.isAssignable →
        Target.resolve self target = Target.resolveOr alarm self target) ∧
      (∀ (op : Arith) x y fault, op.evaluate x y = .error fault →
        fault = .divisionByZero ∨ fault = .remainderByZero) ∧
      ∀ self fuel m moments φ m', Run.Path self p fuel (.begins p.beginRules) m moments φ m' →
        ∀ x ∈ moments, ∀ r i rest turns, x.phase = .applies ((r, i) :: rest) turns →
          r.pattern ≠ some .begin_ ∧ r.pattern ≠ some .end_ := by
  obtain ⟨hformed, hnames⟩ := parseTokens_formed h
  refine ⟨hformed, hnames,
    fun source all hsource hamong f hf => tokenize_names hsource ((hnames f hf).mono hamong),
    phases_guarded hformed, fun alarm self target htarget => Target.resolve_eq htarget self alarm,
    fun op x y fault => Arith.evaluate_error, ?_⟩
  intro self fuel m moments φ m' hpath x hx r i rest turns hphase
  have hstart : (Run.Phase.begins p.beginRules).Offers p := True.intro
  have hoffers : x.phase.Offers p := hpath.offered hstart x hx
  rw [hphase] at hoffers
  exact Run.mem_recordRules (hoffers (r, i) (List.mem_cons_self ..))

theorem parseTokens_wellFormed_range :
    ∃ tokens p, tokenize "function f(a) \x7b a[1] = $2++ \x7d ; /x/, getline y" = .ok tokens ∧
      parseTokens tokens = .ok p ∧ p.functions.map (·.arrayParams) = [[true]] ∧
      p.rules.length = 1 ∧ p.WellFormed ∧ (∀ f ∈ p.functions, Builtin.ofName? f.name = none) ∧
      ∀ alarm fuel sources,
        Run.phases (meaningGuarded alarm p fuel) p fuel sources = Run.program p fuel sources := by
  have hread : ((parseProgram "function f(a) \x7b a[1] = $2++ \x7d ; /x/, getline y").toOption.any
      fun p => p.functions.map (·.arrayParams) == [[true]] && p.rules.length == 1) = true := by
    decide +kernel
  obtain ⟨tokens, p, htokens, hp, htest⟩ := exists_program hread
  rw [Bool.and_eq_true, beq_iff_eq, beq_iff_eq] at htest
  obtain ⟨hformed, -, hnames, hguarded, -⟩ := parseTokens_wellFormed hp
  exact ⟨tokens, p, htokens, hp, htest.1, htest.2, hformed,
    hnames _ _ htokens (List.Subset.refl tokens), hguarded⟩

/-- The tokens of a function without parameters and without statements.  No text has them if the
name is that of a built-in function. -/
def definitionOf (name : String) : List Token :=
  [.keyword .function, .funcName name, .mark .leftParen, .mark .rightParen, .mark .leftBrace,
    .mark .rightBrace, .eof].map fun kind => { kind, place := .start }

/-- A token that spells a built-in function where a name is expected gives its name to a function.
A text can also define one of the `ai_` functions, which are looked up behind the program's own. -/
theorem built_in_name_taken :
    (∃ p, parseTokens (definitionOf "length") = .ok p ∧
      ∃ f ∈ p.functions, Builtin.ofName? f.name ≠ none) ∧
    ∃ tokens p, tokenize "function ai_sentiment(t) \x7b \x7d" = .ok tokens ∧
      parseTokens tokens = .ok p ∧ p.functions.map (·.name) = ["ai_sentiment"] ∧
      Host.simulated.contains "ai_sentiment" = true := by
  constructor
  · have hread : ((parseTokens (definitionOf "length")).toOption.any fun p =>
        p.functions.any fun f => (Builtin.ofName? f.name).isSome) = true := by decide +kernel
    obtain ⟨p, hp, htest⟩ := exists_parsed hread
    obtain ⟨f, hf, hname⟩ := List.any_eq_true.mp htest
    exact ⟨p, hp, f, hf, Option.isSome_iff_ne_none.mp hname⟩
  · have hread : ((parseProgram "function ai_sentiment(t) \x7b \x7d").toOption.any fun p =>
        p.functions.map (·.name) == ["ai_sentiment"]) = true := by decide +kernel
    obtain ⟨tokens, p, htokens, hp, htest⟩ := exists_program hread
    exact ⟨tokens, p, htokens, hp, eq_of_beq htest,
      by simp [Host.contains, Host.simulated, Host.register]⟩

end Awk
