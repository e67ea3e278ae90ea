import Awk.Proofs.CallDepth
import Awk.Proofs.RecordCounts

/-!
# Counters that run full

`NR` and `FNR` are words of 64 bits, and a program may assign any number to them.  Beside each
counter stands what it would be without a limit: what was assigned last, and one more for every
record since.  `counters_exact` says that at every point of every run the counters are these
numbers.  A record adds exactly one to both as long as both are below the greatest word.  If one of
them is the greatest word, counting the record takes the program down (`counter_runs_full`).
-/

namespace Awk

open Eval

namespace Scope

/-- The counters are what has been counted. -/
def CountsExactly (s : Scope) : Prop := s.nr.toNat = s.nrExact ∧ s.fnr.toNat = s.fnrExact

instance : DecidablePred CountsExactly := fun s =>
  inferInstanceAs (Decidable (s.nr.toNat = _ ∧ s.fnr.toNat = _))

/-- The counters of two scopes are the same. -/
def SameCounters (s s' : Scope) : Prop :=
  s'.nr = s.nr ∧ s'.nrExact = s.nrExact ∧ s'.fnr = s.fnr ∧ s'.fnrExact = s.fnrExact

theorem CountsExactly.same {s s' : Scope} (hs : s.CountsExactly) (h : SameCounters s s') :
    s'.CountsExactly := by
  obtain ⟨hnr, hnrExact, hfnr, hfnrExact⟩ := h
  simpa only [CountsExactly, hnr, hnrExact, hfnr, hfnrExact] using hs

theorem OnlyNames.sameCounters {s s' : Scope} (h : OnlyNames s s') : SameCounters s s' := by
  obtain ⟨globals, frames, arena, rfl⟩ := h
  exact ⟨rfl, rfl, rfl, rfl⟩

theorem setArgs_sameCounters (args : List String) (s : Scope) :
    SameCounters s (s.setArgs args) := by
  obtain ⟨globals, arena, argc, h⟩ := setArgs_after args s
  exact h ▸ ⟨rfl, rfl, rfl, rfl⟩

/-- What is assigned to a counter is counted as the word that it becomes. -/
theorem CountsExactly.setSpecial {s : Scope} (hs : s.CountsExactly) (special : Special)
    (v : Value) : (after (Scope.setSpecial special v) s).CountsExactly := by
  cases special with
  | nr => exact ⟨rfl, hs.2⟩
  | fnr => exact ⟨hs.1, rfl⟩
  | nf =>
    obtain ⟨record, h⟩ := setFieldCount_after v.toNumber s
    exact (congrArg CountsExactly h).mpr hs
  | fs =>
    obtain ⟨fs, splitter, h⟩ := setFieldSeparator_after (v.toText s.convfmt) s
    exact (congrArg CountsExactly h).mpr hs
  | ignoreCase =>
    obtain ⟨splitter, h⟩ := setIgnoreCase_after v s
    exact (congrArg CountsExactly h).mpr hs
  | rs =>
    obtain ⟨rs, separator, h⟩ := setRecordSeparator_after (v.toText s.convfmt) s
    exact (congrArg CountsExactly h).mpr hs
  | _ => exact hs

theorem CountsExactly.setVar {s : Scope} (hs : s.CountsExactly) (name : String) (v : Value) :
    (after (Scope.setVar name v) s).CountsExactly := by
  cases hspecial : Special.ofName? name with
  | none => exact hs.same (setVar_onlyNames hspecial v s).sameCounters
  | some special =>
    simp only [Scope.setVar, hspecial]
    exact hs.setSpecial special v

theorem CountsExactly.access {α : Type} {s : Scope} (hs : s.CountsExactly) (a : Access α) :
    (after a.op s).CountsExactly := by
  cases a with
  | setVar name v => exact hs.setVar name v
  | _ => exact hs.same (Access.onlyNames rfl s).sameCounters

theorem CountsExactly.preset {s : Scope} (hs : s.CountsExactly) (name value : String) :
    (after (Scope.preset name value) s).CountsExactly := by
  unfold Scope.preset
  split
  · exact hs.setVar name _
  · exact hs

theorem CountsExactly.assign {s : Scope} (hs : s.CountsExactly) (text : String) :
    (after (Scope.assign text) s).CountsExactly := by
  unfold Scope.assign
  split
  · exact hs.preset _ _
  · exact hs

end Scope

namespace Machine

def CountsExactly (m : Machine) : Prop := m.scope.CountsExactly

instance : DecidablePred CountsExactly := fun m => inferInstanceAs (Decidable m.scope.CountsExactly)

/-- Exactly one more has been counted. -/
structure CountedOne (m m' : Machine) : Prop where
  nrExact : m'.scope.nrExact = m.scope.nrExact + 1
  fnrExact : m'.scope.fnrExact = m.scope.fnrExact + 1
  nr : m'.scope.nr.toNat = m.scope.nr.toNat + 1
  fnr : m'.scope.fnr.toNat = m.scope.fnr.toNat + 1

theorem CountsExactly.same {m m' : Machine} (hm : m.CountsExactly) (h : m.SameSettings m') :
    m'.CountsExactly := by
  obtain ⟨⟨globals, frames, arena, record, rstart, rlength, hscope⟩, -, -⟩ := h
  exact Scope.CountsExactly.same hm (hscope ▸ ⟨rfl, rfl, rfl, rfl⟩)

theorem CountsExactly.access {α : Type} {m : Machine} (hm : m.CountsExactly) (a : Scope.Access α) :
    (after (onScope a.op) m).CountsExactly := by
  rw [after_onScope]
  exact Scope.CountsExactly.access hm a

end Machine

/-! ## Counting a record -/

theorem toNat_add_one {n : UInt64} (h : n.toNat < 2 ^ 64 - 1) : (n + 1).toNat = n.toNat + 1 := by
  rw [UInt64.toNat_add, UInt64.toNat_one, Nat.mod_eq_of_lt (by omega)]

theorem Scope.hasRoom_iff {s : Scope} :
    s.hasRoom ↔ s.nr.toNat < 2 ^ 64 - 1 ∧ s.fnr.toNat < 2 ^ 64 - 1 := by
  simp [hasRoom]

/-- A record is counted where both counters have room. -/
theorem countRecord_of_room {m : Machine} (h : m.scope.hasRoom) :
    ∃ m', countRecord m = .ok () m' ∧ m.CountedOne m' := by
  obtain ⟨hnr, hfnr⟩ := Scope.hasRoom_iff.mp h
  refine ⟨{ m with scope := m.scope.countOne }, (countRecord_run m).trans (if_pos h), ?_⟩
  exact ⟨rfl, rfl, toNat_add_one hnr, toNat_add_one hfnr⟩

/-- Where one of them has none it takes the program down. -/
theorem countRecord_of_full {m : Machine} (h : m.scope.hasRoom = false) :
    ∃ m', countRecord m = .error (.crashed .overflow) m' ∧ m'.scope = m.scope :=
  ⟨m.withdraw, (countRecord_run m).trans (if_neg (by rw [h]; decide)), rfl⟩

theorem Machine.CountsExactly.countRecord {m : Machine} (hm : m.CountsExactly) :
    (after Eval.countRecord m).CountsExactly := by
  obtain ⟨hnr, hfnr⟩ := hm
  cases hroom : m.scope.hasRoom with
  | true =>
    obtain ⟨m', hrun, hone⟩ := countRecord_of_room hroom
    rw [after_of_ok hrun]
    exact ⟨by rw [hone.nr, hone.nrExact, hnr], by rw [hone.fnr, hone.fnrExact, hfnr]⟩
  | false =>
    obtain ⟨m', hrun, hscope⟩ := countRecord_of_full hroom
    rw [after_of_error hrun, CountsExactly, hscope]
    exact ⟨hnr, hfnr⟩

/-- What opens inputs on the way to a record keeps the counters in step, assignments among the
inputs included. -/
theorem countsExactly_delivery {C : Machine → Prop}
    (hC : ∀ m : Machine, m.CountsExactly → C m) :
    Delivery (fun _ => True) Machine.CountsExactly C where
  same hm hscope _ _ := by
    rw [Machine.CountsExactly, hscope]
    exact hm
  rest _ hm := hm
  assign _ hm := by
    rw [after_onScope]
    exact Scope.CountsExactly.assign hm _
  openInput name onInput reader hm := ⟨hm.1, rfl⟩
  deliver reader hm := hC _ hm
  sources _ _ _ := trivial

theorem countsExactly_respected : RespectsRuns .all fun _ x y =>
    Throughout Machine.CountsExactly x y :=
  throughout_respected (fun _ _ hm hsame => hm.same hsame) (fun _ a _ _ hm => hm.access a)
    fun _ hm => (countsExactly_delivery fun _ hm => hm.countRecord).nextCounted hm

/-! ## Runs and sessions -/

theorem countsExactly_evaluation (p : Program) (alarm : Stop) (fuel : Nat) :
    (∀ e, Throughout Machine.CountsExactly ((meaning p fuel).value e)
        ((meaningWatched Machine.CountsExactly alarm p fuel).value e)) ∧
      ∀ s, Throughout Machine.CountsExactly ((meaning p fuel).run s)
        ((meaningWatched Machine.CountsExactly alarm p fuel).run s) :=
  countsExactly_respected.toRespectsProgram.variants (meaningWatched Machine.CountsExactly alarm p)
    ⟨fun _ => countsExactly_respected.stop _, fun _ => countsExactly_respected.stop _⟩
    (fun _ _ hx => hx.watched (fun _ hm => hm) alarm)
    (fun _ _ hx => hx.watched (fun _ hm => hm) alarm) fuel

theorem countsExactly_phases (p : Program) (alarm : Stop) (fuel : Nat) (sources : List Source) :
    Throughout Machine.CountsExactly (Run.program p fuel sources)
      (Run.phases (meaningWatched Machine.CountsExactly alarm p fuel) p fuel sources) := by
  obtain ⟨hv, hr⟩ := countsExactly_evaluation p alarm fuel
  exact countsExactly_respected.phases (E := fun _ => True) (S := fun _ => True) (fun e _ => hv e)
    (fun s _ => hr s) (.same fun m hm => hm) (fun _ _ _ _ _ _ => trivial)
    (fun _ _ _ _ _ _ => trivial) fuel

theorem countsExactly_path {p : Program} {fuel : Nat} {m m' : Machine}
    {φ : Run.Phase} {moments : List Run.Moment} (hm : m.CountsExactly)
    (h : Run.Path (meaning p fuel) p fuel (.begins p.beginRules) m moments φ m') :
    m'.CountsExactly ∧ ∀ x ∈ moments, x.machine.CountsExactly := by
  obtain ⟨hv, hr⟩ := countsExactly_evaluation p .exhausted fuel
  have hbegin : ∀ r ∈ (Run.Phase.begins p.beginRules).rules, r ∈ p.rules :=
    fun r hr => List.mem_of_mem_filter hr
  exact Run.Path.throughout (E := fun _ => True) (S := fun _ => True)
    countsExactly_respected.toRespectsRules
    (fun φ event m hm => Machine.CountsExactly.same hm (.settle φ event m))
    (fun e _ => .same fun m hm => (hv e m hm).2) (fun s _ => .same fun m hm => (hr s m hm).2)
    (fun _ _ _ _ _ _ => trivial) (fun _ _ _ _ _ _ => trivial) hbegin hm h

theorem Setting.apply_countsExactly (s : Setting) {m : Machine} (hm : m.CountsExactly) :
    (after s.apply m).CountsExactly := by
  cases s with
  | fieldSeparator fs => exact hm.access (.setVar "FS" (.ofText fs))
  | args as =>
    show (m.scope.setArgs as).CountsExactly
    exact Scope.CountsExactly.same hm (Scope.setArgs_sameCounters as m.scope)
  | assign text =>
    show (after (onScope (Scope.assign text)) m).CountsExactly
    rw [after_onScope]
    exact Scope.CountsExactly.assign hm text
  | preset name value =>
    show (after (onScope (Scope.preset name value)) m).CountsExactly
    rw [after_onScope]
    exact Scope.CountsExactly.preset hm name value
  | _ => exact hm

theorem Session.Reached.countsExactly {p : Program} {m : Machine} (h : Session.Reached p m) :
    m.CountsExactly := by
  induction h with
  | start world => exact Scope.CountsExactly.same ⟨rfl, rfl⟩ (Scope.setArgs_sameCounters _ _)
  | setting s _ hleaves ih =>
    rw [← after_of_leaves hleaves]
    exact s.apply_countsExactly ih
  | @run m _ sources sink _ hleaves ih =>
    rw [← after_of_leaves hleaves]
    exact (countsExactly_phases p .exhausted Session.ample sources { m with sink } ih).2

/-- Between the runs of a session, at every point of a run and behind it the counters are what has
been counted: before and behind every expression and statement and between the steps of the driver,
whatever is assigned to them.  When the main input gives a record, both grow by exactly one if both
are below the greatest word, and otherwise counting the record takes the program down. -/
theorem counters_exact {p : Program} {m : Machine} (hm : Session.Reached p m) (sink : Sink)
    (sources : List Source) (fuel : Nat) :
    m.CountsExactly ∧
      (∀ alarm, Run.phases (meaningWatched Machine.CountsExactly alarm p fuel) p fuel sources
        { m with sink } = Run.program p fuel sources { m with sink }) ∧
      (∀ moments φ m', Run.Path (meaning p fuel) p fuel (.begins p.beginRules)
        { m with sink, sources } moments φ m' →
          m'.CountsExactly ∧ ∀ x ∈ moments, x.machine.CountsExactly) ∧
      (after (Run.program p fuel sources) { m with sink }).CountsExactly ∧
      ∀ m m' record, m.CountsExactly → nextRecord m = .ok (some record) m' →
        m'.CountsExactly ∧
          if m'.scope.nr.toNat < 2 ^ 64 - 1 ∧ m'.scope.fnr.toNat < 2 ^ 64 - 1 then
            ∃ m'', nextCounted m = .ok (some record) m'' ∧ m'.CountedOne m''
          else ∃ m'', nextCounted m = .error (.crashed .overflow) m'' := by
  have hcounts := hm.countsExactly
  have hrun := fun alarm => countsExactly_phases p alarm fuel sources { m with sink } hcounts
  refine ⟨hcounts, fun alarm => (hrun alarm).1,
    fun moments φ m' hpath => countsExactly_path (m := { m with sink, sources }) hcounts hpath,
    (hrun .exhausted).2, fun m m' record hm hnext => ⟨?_, ?_⟩⟩
  · have hdelivered := (countsExactly_delivery fun _ hm => hm).nextRecord m hm
    rw [hnext] at hdelivered
    exact hdelivered
  · have hcounted : nextCounted m = (do countRecord; return some record : Eval _) m' := by
      rw [nextCounted, bind_of_ok hnext]
      rfl
    rw [hcounted]
    split
    · next hroom =>
      obtain ⟨m'', hcount, hone⟩ := countRecord_of_room (Scope.hasRoom_iff.mpr hroom)
      rw [bind_of_ok hcount]
      exact ⟨m'', rfl, hone⟩
    · next hroom =>
      obtain ⟨m'', hcount, -⟩ :=
        countRecord_of_full (Bool.eq_false_iff.mpr (mt Scope.hasRoom_iff.mp hroom))
      rw [bind_of_error hcount]
      exact ⟨m'', rfl⟩

/-- `BEGIN` assigns a number to `NR`, from which two records are counted. -/
theorem counters_exact_assigned :
    let assigns : Stmt := .expr (.assign none (.var "NR" .start) (.number 1e18 .start) .start)
    let p : Program :=
      { rules := [⟨some .begin_, some ⟨[assigns], .start⟩, .start⟩, ⟨none, none, .start⟩]
        functions := [] }
    let sources : List Source := [.stream "a" (.ofBytes [97, 10, 98])]
    let m := Session.start p .empty
    Session.Reached p m ∧ (after (Run.program p 9 sources) m).CountsExactly ∧
      (after (Run.program p 9 sources) m).scope.nrExact = 10 ^ 18 + 2 ∧
      ∀ alarm, Run.phases (meaningWatched Machine.CountsExactly alarm p 9) p 9 sources m =
        Run.program p 9 sources m := by
  intro assigns p sources m
  have hm : Session.Reached p m := .start .empty
  obtain ⟨-, hwatched, -, hafter, -⟩ := counters_exact hm m.sink sources 9
  exact ⟨hm, hafter, by decide +kernel, hwatched⟩

/-- `NR` is filled before a record is read.  Counting the record takes the program down before
anything is printed. -/
theorem counter_runs_full :
    let full : Stmt := .expr (.assign none (.var "NR" .start) (.number 1e30 .start) .start)
    let show_ : Stmt := .print [.var "NR" .start] .start
    let p : Program :=
      { rules := [⟨some .begin_, some ⟨[full], .start⟩, .start⟩,
          ⟨none, some ⟨[show_], .start⟩, .start⟩]
        functions := [] }
    (match Run.program p 9 [.stream "a" (.ofBytes [97, 10])] (Session.start p .empty) with
      | .error (.crashed crash) m => some (crash, m.scope.nr.toNat, m.sink.text)
      | _ => none) = some (.overflow, 2 ^ 64 - 1, "") := by
  decide +kernel

end Awk
