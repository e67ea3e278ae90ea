import Awk.Proofs.Scoping
import Awk.Session

/-!
# Assignments among the operands

An operand `name=value` is performed when the search for a next record passes over it.  It
is an assignment like any other, so where it is performed decides what it reaches: outside of
calls the global variable, and inside of a call, when `getline` has gone on to it, only a
local of that call, which goes with the call.
-/

namespace Awk

open Eval

/-! ## Where the search passes -/

/-- The search for the first record of some inputs reaches the operand `text` with the machine
`before`. -/
inductive PassesOver (text : String) : List Source → Machine → Machine → Prop where
  | here (rest : List Source) (m : Machine) :
      PassesOver text (.operand text :: rest) m { m with sources := rest }
  | later {source : Source} {rest : List Source} {m m₁ m₂ before : Machine} :
      openSource source { m with sources := rest } = .ok () m₁ → readCurrent m₁ = .ok none m₂ →
      PassesOver text rest m₂ before → PassesOver text (source :: rest) m before

/-- The search for the next record reaches the operand `text` with the machine `before`. -/
def ReachesOperand (text : String) (m before : Machine) : Prop :=
  ∃ m₁, readCurrent m = .ok none m₁ ∧ PassesOver text m₁.sources m₁ before

/-- The search goes on with the operand that it has reached. -/
theorem readSources_of_passesOver {text : String} {sources : List Source} {m before : Machine}
    (h : PassesOver text sources m before) :
    readSources sources m = readSources (.operand text :: before.sources) before := by
  induction h with
  | here rest m => rfl
  | @later source rest m m₁ m₂ before hopen hread _ ih =>
    rw [← ih]
    show (openSource source >>= _) { m with sources := rest } = _
    rw [bind_of_ok hopen, bind_of_ok hread]

theorem nextRecord_of_reachesOperand {text : String} {m before : Machine}
    (h : ReachesOperand text m before) :
    nextRecord m = readSources (.operand text :: before.sources) before := by
  obtain ⟨m₁, hread, hpasses⟩ := h
  rw [← readSources_of_passesOver hpasses, nextRecord, bind_of_ok hread]
  rfl

/-- On its way the search neither enters nor leaves a call. -/
theorem depth_of_passesOver {text : String} {sources : List Source} {m before : Machine}
    (h : PassesOver text sources m before) : before.scope.depth = m.scope.depth := by
  induction h with
  | here rest m => rfl
  | @later source rest m m₁ m₂ before hopen hread _ ih =>
    have hopened := (staysWithin_respected.under.openSource source { m with sources := rest }).depth
    rw [after_of_ok hopen] at hopened
    have hsame := (Detached.readCurrent m₁).1
    rw [after_of_ok hread] at hsame
    rw [ih, hsame]
    exact hopened

theorem depth_of_reachesOperand {text : String} {m before : Machine}
    (h : ReachesOperand text m before) : before.scope.depth = m.scope.depth := by
  obtain ⟨m₁, hread, hpasses⟩ := h
  have hsame := (Detached.readCurrent m).1
  rw [after_of_ok hread] at hsame
  rw [depth_of_passesOver hpasses, hsame]

/-! ## What the assignment reaches -/

namespace Scope

variable {name : String} {v : Value} {s : Scope}

/-- Outside of calls a variable that is no array gets the value. -/
theorem setVar_outside (hname : Special.ofName? name = none) (hframes : s.frames = [])
    (hscalar : ∀ id, s.globals[name]? ≠ some (.array id)) :
    setVar name v s = .ok () { s with globals := s.globals.insert name (.scalar v) } := by
  have hassigned : s.assigned? name = s.globals[name]? := by rw [assigned?, hframes]
  have hbind : s.bind name (.scalar v) =
      { s with globals := s.globals.insert name (.scalar v) } := by rw [bind, hframes]
  unfold setVar
  rw [hname]
  dsimp only
  rw [hassigned, hbind]
  split
  · next id hid => exact absurd hid (hscalar id)
  · rfl

/-- Inside of a call the globals stay as they are, whether the assignment fails or not. -/
theorem setVar_inside (hname : Special.ofName? name = none) (hframes : s.frames ≠ []) :
    (after (setVar name v) s).globals = s.globals := by
  have hbind : (s.bind name (.scalar v)).globals = s.globals := by
    unfold bind
    split
    · next hnil => exact absurd hnil hframes
    · rfl
  unfold after setVar
  rw [hname]
  dsimp only
  rcases s.assigned? name with _ | _ | id
  · exact hbind
  · exact hbind
  · rfl

end Scope

/-- What an operand `name=value` does is to assign a variable. -/
theorem openSource_assignment {text name value : String} (m : Machine)
    (hdivide : Assignment.divide? text = some (name, value)) (hvalid : isValidName name) :
    openSource (.operand text) m =
      onScope (Scope.setVar name (.infer (Text.unescape value))) m := by
  have hoperand : Assignment.isOperand text = true := by
    rw [Assignment.isOperand, hdivide]
    exact hvalid
  have hassign : Scope.assign text = Scope.setVar name (.infer (Text.unescape value)) := by
    rw [Scope.assign, hdivide]
    dsimp only
    rw [Scope.preset, if_pos hvalid]
  unfold openSource
  dsimp only
  rw [if_pos hoperand, hassign]

theorem Value.infer_ne_uninit (text : String) : Value.infer text ≠ .uninit := by
  unfold Value.infer
  split <;> exact fun h => by cases h

/-- An operand `name=value` that the search for a record passes over, where `name` is neither
special nor an array.  The search goes on with that operand.  Outside of calls the assignment is
performed, and the global variable has the value right behind it.  Inside of a call the globals
stay as they are, so that the variable has the value only if it had it before; and however a
call ends and whatever is passed over in it, a global has the value behind the call if and only
if it had it when the call began. -/
theorem operand_reaches_globals_iff {text name value : String} {m before : Machine}
    (hdivide : Assignment.divide? text = some (name, value)) (hvalid : isValidName name)
    (hspecial : Special.ofName? name = none) (hreaches : ReachesOperand text m before)
    (hscalar : ∀ id, before.scope.globals[name]? ≠ some (.array id)) :
    let v := Value.infer (Text.unescape value)
    let behind := after (openSource (.operand text)) before
    nextRecord m = readSources (.operand text :: before.sources) before ∧
    (m.scope.frames = [] → openSource (.operand text) before = .ok () behind) ∧
    (m.scope.frames ≠ [] → behind.scope.globals = before.scope.globals) ∧
    (behind.scope.globals[name]? = some (.scalar v) ↔
      m.scope.frames = [] ∨ before.scope.globals[name]? = some (.scalar v)) ∧
    ∀ p n called f args place m₀ m₁ bindings owned, p.function? called = some f →
      Call.enter (meaning p n) f args place m₀ = .ok (bindings, owned) m₁ →
      ((after (eval p (n + 1) (.call called args place)) m₀).scope.globals[name]? =
        some (.scalar v) ↔ m₁.scope.globals[name]? = some (.scalar v)) := by
  intro v behind
  have hopen : openSource (.operand text) before = onScope (Scope.setVar name v) before :=
    openSource_assignment before hdivide hvalid
  have hbehind : behind.scope = after (Scope.setVar name v) before.scope := by
    show (after (openSource (.operand text)) before).scope = _
    rw [after_congr hopen, after_onScope]
  have hdepth : before.scope.frames.length = m.scope.frames.length :=
    depth_of_reachesOperand hreaches
  have hinside : m.scope.frames ≠ [] → behind.scope.globals = before.scope.globals := by
    intro hin
    rw [hbehind]
    refine Scope.setVar_inside hspecial fun hnil => hin ?_
    rw [hnil] at hdepth
    exact List.eq_nil_of_length_eq_zero hdepth.symm
  have houtside : m.scope.frames = [] →
      Scope.setVar name v before.scope =
        .ok () { before.scope with globals := before.scope.globals.insert name (.scalar v) } := by
    intro hout
    rw [hout] at hdepth
    exact Scope.setVar_outside hspecial (List.eq_nil_of_length_eq_zero hdepth) hscalar
  refine ⟨nextRecord_of_reachesOperand hreaches, fun hout => ?_, hinside, ?_, ?_⟩
  · have hset := houtside hout
    have hrun : openSource (.operand text) before = .ok () { before with
        scope :=
          { before.scope with globals := before.scope.globals.insert name (.scalar v) } } := by
      rw [hopen, onScope, hset]
    rw [hrun, show behind = _ from after_of_ok hrun]
  · by_cases hout : m.scope.frames = []
    · refine iff_of_true ?_ (.inl hout)
      rw [hbehind, after_of_ok (houtside hout), Bindings.getElem?_insert, if_pos rfl]
    · rw [hinside hout]
      exact ⟨.inr, fun h => h.resolve_left hout⟩
  · intro p n called f args place m₀ m₁ bindings owned hf henter
    obtain ⟨-, hglobals⟩ := inFrame_keeps (staysWithin_respected.block p n f.body.body) bindings
      owned m₁
    rw [scope_after_call hf henter, Call.body]
    exact ⟨fun h => hglobals.of_scalar h, fun h => hglobals.scalar (Value.infer_ne_uninit _) h⟩

/-- Behind the operand `v=5` alone, reached outside of calls, the global `v` has the value. -/
theorem operand_reaches_globals_iff_outside :
    let m : Machine := { Machine.initial .empty with sources := [.operand "v=5"] }
    let before : Machine := Machine.initial .empty
    ReachesOperand "v=5" m before ∧
      (after (openSource (.operand "v=5")) before).scope.globals["v"]? =
        some (.scalar (.infer (Text.unescape "5"))) := by
  intro m before
  have hreaches : ReachesOperand "v=5" m before := ⟨m, rfl, .here [] m⟩
  have hnone : before.scope.globals["v"]? = none := rfl
  have hscalar : ∀ id, before.scope.globals["v"]? ≠ some (.array id) := by
    intro id hid
    rw [hnone] at hid
    cases hid
  have hdivide : Assignment.divide? "v=5" = some ("v", "5") := rfl
  have hiff := operand_reaches_globals_iff hdivide rfl rfl hreaches hscalar
  exact ⟨hreaches, hiff.2.2.2.1.mpr (.inl rfl)⟩

/-- A function that reads a record is called in a `BEGIN` rule and passes over the only operand,
`v=5`: behind the run the global `v` still stands for nothing. -/
theorem operand_lost_in_call :
    let f : Function :=
      { name := "f", params := [], arrayParams := []
        body := { body := [.expr (.getline (some (.var "line" .start)) none .start)]
                  place := .start }
        place := .start }
    let r : Rule :=
      { pattern := some .begin_
        action := some { body := [.expr (.call "f" [] .start)], place := .start }
        place := .start }
    let p : Program := { rules := [r], functions := [f] }
    Assignment.divide? "v=5" = some ("v", "5") ∧ isValidName "v" ∧ Special.ofName? "v" = none ∧
      ∃ m, Run.program p 9 (Session.operandSources ["v=5"]) (Session.start p .empty) = .ok 0 m ∧
        m.sources.length = 0 ∧ m.scope.globals["v"]? = none :=
  ⟨rfl, rfl, rfl, _, rfl, rfl, rfl⟩

end Awk
