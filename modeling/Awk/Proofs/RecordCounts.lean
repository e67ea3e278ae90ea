import Awk.Proofs.Driver
import Awk.Proofs.SoundRuns

/-!
# Counting records

`NR`, `FNR` and `FILENAME` tell which records a run has been given: how many in all, how many from
the input opened last, and the name of that input.  Where nothing assigns them they do so at every
point of a run.  The only step that changes them is the one that reads a record of the main input,
which opens inputs on its way; the loop over records and `getline` take it alike.
-/

namespace Awk

open Eval

/-- Not one of the variables that tell which records have been given. -/
def Uncounted (name : String) : Prop := name ≠ "NR" ∧ name ≠ "FNR" ∧ name ≠ "FILENAME"

/-! ## The counters of a scope -/

namespace Scope

def tally (s : Scope) : UInt64 × UInt64 × String := (s.nr, s.fnr, s.filename)

theorem OnlyNames.tally {s s' : Scope} (h : OnlyNames s s') : s'.tally = s.tally := by
  obtain ⟨globals, frames, arena, rfl⟩ := h
  rfl

theorem tally_setSpecial {special : Special} (hname : Uncounted special.name) (v : Value)
    (s : Scope) : (after (setSpecial special v) s).tally = s.tally := by
  cases special with
  | nr => exact absurd rfl hname.1
  | fnr => exact absurd rfl hname.2.1
  | filename => exact absurd rfl hname.2.2
  | nf =>
    obtain ⟨record, h⟩ := setFieldCount_after v.toNumber s
    exact (congrArg tally h).trans rfl
  | fs =>
    obtain ⟨fs, splitter, h⟩ := setFieldSeparator_after (v.toText s.convfmt) s
    exact (congrArg tally h).trans rfl
  | ignoreCase =>
    obtain ⟨splitter, h⟩ := setIgnoreCase_after v s
    exact (congrArg tally h).trans rfl
  | rs =>
    obtain ⟨rs, separator, h⟩ := setRecordSeparator_after (v.toText s.convfmt) s
    exact (congrArg tally h).trans rfl
  | _ => rfl

theorem tally_setVar {name : String} (hname : Uncounted name) (v : Value) (s : Scope) :
    (after (setVar name v) s).tally = s.tally := by
  cases hspecial : Special.ofName? name with
  | none => exact (setVar_onlyNames hspecial v s).tally
  | some special =>
    simp only [setVar, hspecial]
    exact tally_setSpecial (Special.eq_name_of_ofName? hspecial ▸ hname) v s

theorem tally_access {α : Type} (a : Access α) (ha : Permit.assigning Uncounted a) (s : Scope) :
    (after a.op s).tally = s.tally := by
  cases a with
  | setVar name v => exact tally_setVar ha v s
  | _ => exact (Access.onlyNames rfl s).tally

theorem tally_setArgs (args : List String) (s : Scope) : (s.setArgs args).tally = s.tally := by
  obtain ⟨globals, arena, argc, h⟩ := setArgs_after args s
  rw [h]
  rfl

theorem tally_assign {text : String}
    (h : ∀ name ∈ (Assignment.divide? text).map (·.1), Uncounted name) (s : Scope) :
    (after (assign text) s).tally = s.tally := by
  unfold assign
  split
  · next name value hdivide =>
    unfold preset
    split
    · exact tally_setVar (h name (by rw [hdivide]; rfl)) _ s
    · rfl
  · rfl

end Scope

/-! ## The records that have been given -/

theorem countRecord_run (m : Machine) : countRecord m =
    if m.scope.hasRoom then .ok () { m with scope := m.scope.countOne }
    else .error (.crashed .overflow) m.withdraw := by
  show (if m.scope.hasRoom then modifyScope Scope.countOne else overflow) m = _
  split <;> rfl

theorem after_countRecord (m : Machine) : after countRecord m =
    if m.scope.hasRoom then { m with scope := m.scope.countOne } else m.withdraw := by
  have hrun := countRecord_run m
  by_cases hroom : m.scope.hasRoom
  · rw [if_pos hroom] at hrun ⊢
    exact after_of_ok hrun
  · rw [if_neg hroom] at hrun ⊢
    exact after_of_error hrun

/-- The variables that a source or a setting assigns. -/
def Source.assigned : Source → Option String
  | .stream .. => none
  | .operand text => (Assignment.divide? text).map (·.1)

def Setting.assigned : Setting → Option String
  | .assign text => (Assignment.divide? text).map (·.1)
  | .preset name _ => some name
  | _ => none

namespace Machine

/-- How many records the inputs have given in all. -/
def given (m : Machine) : Nat := (m.delivered.map (·.2)).sum

/-- The input opened last, with the number of records it has given. -/
def latest (m : Machine) : String × Nat := m.delivered.head?.getD ("", 0)

/-- Since the first machine inputs may have been opened, the latest of which has then given a number
of records. -/
def Gave (m : Machine) (n : Nat) (m' : Machine) : Prop :=
  m'.given = m.given + n ∧ ∃ opened : List String,
    m'.latest = (opened.headD m.latest.1, (if opened.isEmpty then m.latest.2 else 0) + n)

/-- The counters tell how many records have been given, in all and by the input opened last, and the
name of that input. -/
def Counted (m : Machine) : Prop :=
  m.scope.nr = UInt64.ofNat m.given ∧ m.scope.fnr = UInt64.ofNat m.latest.2 ∧
    m.scope.filename = m.latest.1

instance : DecidablePred Counted := fun m =>
  inferInstanceAs (Decidable (m.scope.nr = _ ∧ m.scope.fnr = _ ∧ m.scope.filename = _))

/-- Besides that, no input that is left assigns a counter. -/
structure Counting (m : Machine) : Prop where
  counted : m.Counted
  sources : ∀ source ∈ m.sources, ∀ name ∈ source.assigned, Uncounted name

/-- The counters, what they count and the inputs that are left are the same. -/
structure SameCounts (m m' : Machine) : Prop where
  tally : m'.scope.tally = m.scope.tally
  delivered : m'.delivered = m.delivered
  sources : m'.sources = m.sources

theorem SameCounts.counted {m m' : Machine} (h : SameCounts m m') (hm : m.Counted) :
    m'.Counted := by
  obtain ⟨htally, hdelivered, -⟩ := h
  simp only [Scope.tally, Prod.mk.injEq] at htally
  obtain ⟨hnr, hfnr, hname⟩ := htally
  simpa only [Counted, given, latest, hnr, hfnr, hname, hdelivered] using hm

theorem Counting.same {m m' : Machine} (hm : m.Counting) (h : SameCounts m m') : m'.Counting :=
  ⟨h.counted hm.counted, by rw [h.sources]; exact hm.sources⟩

theorem Counting.openInput {m : Machine} (h : m.Counting) (name : String) (onInput : Bool)
    (reader : Reader) : (m.openInput name onInput reader).Counting := by
  refine ⟨⟨?_, rfl, rfl⟩, h.sources⟩
  show m.scope.nr = UInt64.ofNat (0 + m.given)
  rw [Nat.zero_add]
  exact h.counted.1

theorem given_deliver (m : Machine) (reader : Reader) : (m.deliver reader).given = m.given + 1 := by
  unfold given deliver
  cases m.delivered with
  | nil => rfl
  | cons input before => exact Nat.add_right_comm input.2 1 _

theorem latest_deliver (m : Machine) (reader : Reader) :
    (m.deliver reader).latest = (m.latest.1, m.latest.2 + 1) := by
  unfold latest deliver
  cases m.delivered <;> rfl

theorem given_withdraw_deliver (m : Machine) (reader : Reader) :
    (m.deliver reader).withdraw.given = m.given := by
  unfold given withdraw deliver
  cases m.delivered <;> rfl

theorem latest_withdraw_deliver (m : Machine) (reader : Reader) :
    (m.deliver reader).withdraw.latest = m.latest := by
  unfold latest withdraw deliver
  cases m.delivered <;> rfl

/-- A record that is given and counted, or counts as not given. -/
theorem Counting.deliver {m : Machine} (h : m.Counting) (reader : Reader) :
    (after countRecord (m.deliver reader)).Counting := by
  obtain ⟨⟨hnr, hfnr, hname⟩, hsources⟩ := h
  rw [after_countRecord]
  split
  · refine ⟨?_, hsources⟩
    show (m.scope.nr + 1 = UInt64.ofNat (m.deliver reader).given) ∧
      m.scope.fnr + 1 = UInt64.ofNat (m.deliver reader).latest.2 ∧
      m.scope.filename = (m.deliver reader).latest.1
    rw [given_deliver, latest_deliver, hnr, hfnr, hname]
    exact ⟨(UInt64.ofNat_add _ _).symm, (UInt64.ofNat_add _ _).symm, rfl⟩
  · refine ⟨?_, hsources⟩
    show m.scope.nr = UInt64.ofNat (m.deliver reader).withdraw.given ∧
      m.scope.fnr = UInt64.ofNat (m.deliver reader).withdraw.latest.2 ∧
      m.scope.filename = (m.deliver reader).withdraw.latest.1
    rw [given_withdraw_deliver, latest_withdraw_deliver]
    exact ⟨hnr, hfnr, hname⟩

end Machine

theorem Aside.sameCounts {α : Type} {x : Eval α} (hx : Aside x) (m : Machine) :
    m.SameCounts (after x m) := by
  obtain ⟨world, random, seed, opened, hm, -⟩ := hx.kept m
  rw [hm]
  exact ⟨rfl, rfl, rfl⟩

theorem onScope_sameCounts {α : Type} {op : Scope.Op α}
    (hop : ∀ s, (after op s).tally = s.tally) (m : Machine) :
    m.SameCounts (after (onScope op) m) := by
  rw [after_onScope]
  exact ⟨hop m.scope, rfl, rfl⟩

/-! ## Reading a record -/

/-- The second property holds behind a record that is given, and the first if there is none. -/
def Delivers (P C : Machine → Prop) (x : Eval (Option String)) : Prop :=
  ∀ m, P m →
    match x m with
    | .ok (some _) m' => C m'
    | .ok none m' | .error _ m' => P m'

/-- A property that is kept while inputs of a kind are opened, with what becomes of it when one
gives a record. -/
structure Delivery (T : Source → Prop) (P C : Machine → Prop) : Prop where
  same {m m' : Machine} : P m → m'.scope = m.scope → m'.delivered = m.delivered →
    m'.sources = m.sources → P m'
  rest {m : Machine} {sources : List Source} : (∀ source ∈ sources, T source) → P m →
    P { m with sources }
  assign {m : Machine} {text : String} : T (.operand text) → P m →
    P (after (onScope (Scope.assign text)) m)
  openInput {m : Machine} (name : String) (onInput : Bool) (reader : Reader) :
    P m → P (m.openInput name onInput reader)
  deliver {m : Machine} (reader : Reader) : P m → C (m.deliver reader)
  sources {m : Machine} : P m → ∀ source ∈ m.sources, T source

namespace Delivers

variable {P C : Machine → Prop}

/-- What keeps the property, and then steps that lead to a record. -/
theorem bind {α : Type} {x : Eval α} {f : α → Eval (Option String)}
    (hx : ∀ m, P m → P (after x m)) (hf : ∀ a, Delivers P C (f a)) : Delivers P C (x >>= f) := by
  intro m hm
  have hm₁ := hx m hm
  cases hrun : x m with
  | error why m₁ =>
    rw [after_of_error hrun] at hm₁
    rw [bind_of_error hrun]
    exact hm₁
  | ok a m₁ =>
    rw [after_of_ok hrun] at hm₁
    rw [bind_of_ok hrun]
    exact hf a m₁ hm₁

/-- Steps that lead to a record, and others for the case that there is none. -/
theorem orElse {x y : Eval (Option String)} (hx : Delivers P C x) (hy : Delivers P C y) :
    Delivers P C (do
      match ← x with
      | some record => return some record
      | none => y) := by
  intro m hm
  have hm₁ := hx m hm
  cases hrun : x m with
  | error why m₁ =>
    rw [hrun] at hm₁
    rw [bind_of_error hrun]
    exact hm₁
  | ok record m₁ =>
    rw [hrun] at hm₁
    rw [bind_of_ok hrun]
    cases record with
    | some record => exact hm₁
    | none => exact hy m₁ hm₁

end Delivers

namespace Delivery

variable {T : Source → Prop} {P C : Machine → Prop} (h : Delivery T P C)

include h

theorem readCurrent : Delivers P C Eval.readCurrent := by
  intro m hm
  unfold Eval.readCurrent
  cases m.current with
  | none => exact hm
  | some reader =>
    have hread : P (after (Eval.readRecord m.onInput reader) m) := by
      obtain ⟨input, hkept, -⟩ := after_readRecord m.onInput reader m
      rw [hkept]
      exact h.same hm rfl rfl rfl
    dsimp only
    cases hrun : Eval.readRecord m.onInput reader m with
    | error why m₁ =>
      rw [after_of_error hrun] at hread
      exact hread
    | ok read m₁ =>
      rw [after_of_ok hrun] at hread
      rcases read with ⟨_ | _ | record, reader'⟩
      · exact h.same hread rfl rfl rfl
      · exact h.same hread rfl rfl rfl
      · exact h.deliver reader' hread

theorem openSource {source : Source} (hsource : T source) {m : Machine} (hm : P m) :
    P (after (Eval.openSource source) m) := by
  cases source with
  | stream name stream => exact h.openInput name false _ hm
  | operand text =>
    unfold Eval.openSource
    dsimp only
    split
    · exact h.assign hsource hm
    · split
      · exact h.openInput text true .empty hm
      · cases hrun : Eval.openFile text m with
        | error why m₁ =>
          have hsame := after_openFile text m
          rw [after_of_error hrun] at hsame
          rw [after_bind_of_error hrun, hsame]
          exact hm
        | ok stream m₁ =>
          have hsame := after_openFile text m
          rw [after_of_ok hrun] at hsame
          rw [after_bind_of_ok hrun, hsame]
          exact h.openInput text false _ hm

theorem readSources {sources : List Source} (hsources : ∀ source ∈ sources, T source) :
    Delivers P C (Eval.readSources sources) := by
  induction sources with
  | nil => exact fun m hm => hm
  | cons source rest ih =>
    obtain ⟨hsource, hrest⟩ := List.forall_mem_cons.mp hsources
    refine .bind (fun m hm => h.rest hrest hm) fun _ => .bind (fun m hm => ?_) fun _ =>
      .orElse h.readCurrent (ih hrest)
    exact h.openSource hsource hm

theorem nextRecord : Delivers P C Eval.nextRecord := by
  refine .orElse h.readCurrent fun m hm => ?_
  exact h.readSources (h.sources hm) m hm

omit h in
/-- A property that holds again once the record is counted. -/
theorem nextCounted (h : Delivery T P fun m => P (after countRecord m)) {m : Machine} (hm : P m) :
    P (after Eval.nextCounted m) := by
  have hm₁ := h.nextRecord m hm
  unfold Eval.nextCounted
  cases hrun : Eval.nextRecord m with
  | error why m₁ =>
    rw [hrun] at hm₁
    rw [after_bind_of_error hrun]
    exact hm₁
  | ok record m₁ =>
    rw [hrun] at hm₁
    rw [after_bind_of_ok hrun]
    cases record with
    | none => exact hm₁
    | some record =>
      show P (after (countRecord >>= fun _ => pure (some record)) m₁)
      rw [after_bind_pure]
      exact hm₁

end Delivery

/-- What is said to have been given is what reading yields. -/
theorem nextRecord_gave {m m' : Machine} {record : Option String}
    (h : nextRecord m = .ok record m') : m.Gave record.toList.length m' := by
  have hdelivery : Delivery (fun _ => True) (m.Gave 0) (m.Gave 1) := by
    refine ⟨fun hm _ hdelivered _ => ?_, fun _ hm => hm, fun _ hm => ?_,
      fun name onInput reader hm => ?_, fun reader hm => ?_, fun _ _ _ => trivial⟩
    · simpa only [Machine.Gave, Machine.given, Machine.latest, hdelivered] using hm
    · rw [after_onScope]
      exact hm
    · exact ⟨(Nat.zero_add _).trans hm.1, [name], rfl⟩
    · obtain ⟨hgiven, opened, hlatest⟩ := hm
      refine ⟨by rw [Machine.given_deliver, hgiven], opened, ?_⟩
      rw [Machine.latest_deliver, hlatest]
      rfl
  have hm' := hdelivery.nextRecord m ⟨rfl, [], rfl⟩
  rw [h] at hm'
  cases record with
  | none => exact hm'
  | some record => exact hm'

/-! ## Where records come from -/

/-- The name under which an input is opened. -/
def Source.name : Source → String
  | .stream name _ => name
  | .operand text => text

/-- The reader that a source is opened with, and whether it draws on standard input. -/
inductive Source.Opens (w : World) : Source → Bool → Reader → Prop where
  | stream (name : String) (stream : ByteStream) :
    Opens w (.stream name stream) false (.ofStream stream)
  | input : Opens w (.operand "-") true .empty
  | file {text : String} {entry : Entry} {stream : ByteStream} : text ≠ "-" →
    w.file? text = some entry → entry.stream = .ok stream →
    Opens w (.operand text) false (.ofStream stream)

theorem openFile_ok {name : String} {stream : ByteStream} {m m' : Machine}
    (h : openFile name m = .ok stream m') :
    m' = m ∧ ∃ entry, m.world.file? name = some entry ∧ entry.stream = .ok stream := by
  unfold openFile at h
  rw [bind_of_ok (get_run m)] at h
  cases hfile : m.world.file? name with
  | none =>
    rw [hfile] at h
    cases h
  | some entry =>
    rw [hfile] at h
    dsimp only at h
    cases hstream : entry.stream with
    | error why =>
      rw [hstream] at h
      cases h
    | ok stream' =>
      rw [hstream] at h
      cases h
      exact ⟨rfl, entry, rfl, hstream⟩

/-- A source is opened under its own name, unless it is an assignment, which opens nothing. -/
theorem openSource_ok {source : Source} {m m' : Machine} (h : openSource source m = .ok () m') :
    (∃ onInput reader, source.Opens m.world onInput reader ∧
      m' = m.openInput source.name onInput reader) ∨
    ∃ text scope, source = .operand text ∧ Assignment.isOperand text ∧ m' = { m with scope } := by
  cases source with
  | stream name stream =>
    cases h
    exact .inl ⟨false, .ofStream stream, .stream name stream, rfl⟩
  | operand text =>
    unfold openSource at h
    dsimp only at h
    split at h
    · next hassigns =>
      have hm' := after_of_ok h
      rw [after_onScope] at hm'
      exact .inr ⟨text, _, rfl, hassigns, hm'.symm⟩
    · by_cases hinput : text = "-"
      · rw [if_pos hinput] at h
        cases h
        exact .inl ⟨true, .empty, hinput ▸ .input, rfl⟩
      · rw [if_neg hinput] at h
        obtain ⟨stream, m₁, hfile, hopened⟩ := bind_ok_inv h
        obtain ⟨rfl, entry, hentry, hstream⟩ := openFile_ok hfile
        cases hopened
        exact .inl ⟨false, .ofStream stream, .file hinput hentry hstream, rfl⟩

/-- A read of the current input finds that there is none, or its reader is asked: that one is kept
with a record, and left behind without. -/
theorem readCurrent_ok {m m' : Machine} {record : Option String}
    (h : readCurrent m = .ok record m') :
    (m.current = none ∧ record = none ∧ m' = m) ∨
    ∃ reader reader' m₁, m.current = some reader ∧
      readRecord m.onInput reader m = .ok (.ok record, reader') m₁ ∧
      m' = record.elim { m₁ with current := none } fun _ => m₁.deliver reader' := by
  unfold readCurrent at h
  cases hcurrent : m.current with
  | none =>
    rw [hcurrent] at h
    cases h
    exact .inl ⟨rfl, rfl, rfl⟩
  | some reader =>
    rw [hcurrent] at h
    dsimp only at h
    cases hread : readRecord m.onInput reader m with
    | error why m₁ =>
      rw [hread] at h
      cases h
    | ok read m₁ =>
      rw [hread] at h
      rcases read with ⟨_ | _ | _, reader'⟩ <;> cases h
      · exact .inr ⟨reader, reader', m₁, rfl, hread, rfl⟩
      · exact .inr ⟨reader, reader', m₁, rfl, hread, rfl⟩

/-- The record is the next one of the current input of the first machine. -/
def Machine.Yields (m : Machine) (record : String) (m' : Machine) : Prop :=
  ∃ reader reader' m₁, m.current = some reader ∧
    readRecord m.onInput reader m = .ok (.ok (some record), reader') m₁ ∧ m' = m₁.deliver reader'

theorem readCurrent_some {m m' : Machine} {record : String}
    (h : readCurrent m = .ok (some record) m') : m.Yields record m' := by
  obtain ⟨-, hnone, -⟩ | ⟨reader, reader', m₁, hcurrent, hread, rfl⟩ := readCurrent_ok h
  · cases hnone
  · exact ⟨reader, reader', m₁, hcurrent, hread, rfl⟩

/-- It is counted for the input opened last. -/
theorem Machine.Yields.counts {m m' : Machine} {record : String} (h : m.Yields record m') :
    m'.latest = (m.latest.1, m.latest.2 + 1) ∧ m'.sources = m.sources := by
  obtain ⟨reader, reader', m₁, -, hread, rfl⟩ := h
  obtain ⟨input, hkept, -⟩ := after_readRecord m.onInput reader m
  rw [after_of_ok hread] at hkept
  subst hkept
  exact ⟨latest_deliver _ _, rfl⟩

theorem readCurrent_none {m m' : Machine} (h : readCurrent m = .ok none m') :
    m'.current = none ∧ m'.sources = m.sources := by
  obtain ⟨hcurrent, -, rfl⟩ | ⟨reader, reader', m₁, -, hread, rfl⟩ := readCurrent_ok h
  · exact ⟨hcurrent, rfl⟩
  · obtain ⟨input, hkept, -⟩ := after_readRecord m.onInput reader m
    rw [after_of_ok hread] at hkept
    subst hkept
    exact ⟨rfl, rfl⟩

/-- The last of the inputs that are opened on the way to a record gives it. -/
theorem readSources_some {sources : List Source} {m m' : Machine} {record : String}
    (hm : m.current = none) (h : readSources sources m = .ok (some record) m') :
    ∃ passed source rest onInput reader, ∃ m₀ : Machine, sources = passed ++ source :: rest ∧
      source.Opens m₀.world onInput reader ∧ m₀.sources = rest ∧
      (m₀.openInput source.name onInput reader).Yields record m' := by
  induction sources generalizing m with
  | nil => cases h
  | cons source rest ih =>
    obtain ⟨⟨⟩, m₁, hrest, h⟩ := bind_ok_inv h
    obtain ⟨⟨⟩, m₂, hopen, h⟩ := bind_ok_inv h
    obtain ⟨found, m₃, hread, h⟩ := bind_ok_inv h
    cases hrest
    cases found with
    | some record' =>
      cases h
      have hyields := readCurrent_some hread
      obtain ⟨onInput, reader, hopens, rfl⟩ | ⟨text, scope, -, -, rfl⟩ := openSource_ok hopen
      · exact ⟨[], source, rest, onInput, reader, _, rfl, hopens, rfl, hyields⟩
      · -- An assignment leaves no input to read from.
        obtain ⟨reader, reader', m₁, hcurrent, -⟩ := hyields
        cases hm.symm.trans hcurrent
    | none =>
      obtain ⟨passed, source', rest', onInput, reader, m₀, hsources, hfrom⟩ :=
        ih (readCurrent_none hread).1 h
      exact ⟨source :: passed, source', rest', onInput, reader, m₀, by rw [hsources]; rfl, hfrom⟩

/-- A record comes from the current input, or else from the last of the inputs that had to be opened
for it.  That one is opened under its own name, which stands in front of the log. -/
theorem nextRecord_some {m m' : Machine} {record : String}
    (h : nextRecord m = .ok (some record) m') :
    m.Yields record m' ∨
      ∃ passed source rest onInput reader, ∃ m₀ : Machine, m.sources = passed ++ source :: rest ∧
        source.Opens m₀.world onInput reader ∧ m₀.sources = rest ∧
        (m₀.openInput source.name onInput reader).Yields record m' ∧
        m'.latest = (source.name, 1) ∧ m'.sources = rest := by
  obtain ⟨found, m₁, hread, h⟩ := bind_ok_inv h
  cases found with
  | some record' =>
    cases h
    exact .inl (readCurrent_some hread)
  | none =>
    obtain ⟨hcurrent, hsources⟩ := readCurrent_none hread
    obtain ⟨passed, source, rest, onInput, reader, m₀, hpassed, hopens, hrest, hyields⟩ :=
      readSources_some hcurrent h
    obtain ⟨hlatest, hleft⟩ := hyields.counts
    exact .inr ⟨passed, source, rest, onInput, reader, m₀, hsources ▸ hpassed, hopens, hrest,
      hyields, hlatest, hleft.trans hrest⟩

theorem counting_delivery : Delivery (fun source => ∀ name ∈ source.assigned, Uncounted name)
    Machine.Counting fun m => (after countRecord m).Counting where
  same hm hscope hdelivered hsources := hm.same ⟨by rw [hscope], hdelivered, hsources⟩
  rest hsources hm := ⟨hm.counted, hsources⟩
  assign hsource hm := hm.same (onScope_sameCounts (Scope.tally_assign hsource) _)
  openInput name onInput reader hm := hm.openInput name onInput reader
  deliver reader hm := hm.deliver reader
  sources hm := hm.sources

theorem Machine.SameCounts.trans {m₁ m₂ m₃ : Machine} (h : m₁.SameCounts m₂)
    (h' : m₂.SameCounts m₃) : m₁.SameCounts m₃ :=
  ⟨h'.tally.trans h.tally, h'.delivered.trans h.delivered, h'.sources.trans h.sources⟩

/-! ## Runs

Beside the accesses by name and the records that are read, a run changes names, the record and
what a match notes, and the machine around the scope. -/

namespace Machine

/-- The special variables that are kept for a program are the same but for what a match notes, and
so are the inputs that are left and what the others have given. -/
structure SameSettings (m m' : Machine) : Prop where
  scope : ∃ globals frames arena record rstart rlength,
    m'.scope = { m.scope with globals, frames, arena, record, rstart, rlength }
  delivered : m'.delivered = m.delivered
  sources : m'.sources = m.sources

namespace SameSettings

theorem of_onlyNames {m m' : Machine} (hscope : m.scope.OnlyNames m'.scope)
    (hdelivered : m'.delivered = m.delivered) (hsources : m'.sources = m.sources) :
    m.SameSettings m' := by
  obtain ⟨globals, frames, arena, hscope⟩ := hscope
  exact ⟨⟨globals, frames, arena, m.scope.record, m.scope.rstart, m.scope.rlength, hscope⟩,
    hdelivered, hsources⟩

theorem of_scope_eq {m m' : Machine} (hscope : m'.scope = m.scope)
    (hdelivered : m'.delivered = m.delivered) (hsources : m'.sources = m.sources) :
    m.SameSettings m' :=
  of_onlyNames (hscope ▸ .refl m.scope) hdelivered hsources

theorem trans {m₁ m₂ m₃ : Machine} (h : m₁.SameSettings m₂) (h' : m₂.SameSettings m₃) :
    m₁.SameSettings m₃ := by
  obtain ⟨⟨globals, frames, arena, record, rstart, rlength, hscope⟩, hdelivered, hsources⟩ := h
  obtain ⟨⟨globals', frames', arena', record', rstart', rlength', hscope'⟩, hdelivered',
    hsources'⟩ := h'
  exact ⟨⟨globals', frames', arena', record', rstart', rlength', by rw [hscope', hscope]⟩,
    hdelivered'.trans hdelivered, hsources'.trans hsources⟩

theorem sameCounts {m m' : Machine} (h : m.SameSettings m') : m.SameCounts m' := by
  obtain ⟨⟨globals, frames, arena, record, rstart, rlength, hscope⟩, hdelivered, hsources⟩ := h
  exact ⟨by rw [hscope]; rfl, hdelivered, hsources⟩

theorem aside {α : Type} {x : Eval α} (hx : Aside x) (m : Machine) :
    m.SameSettings (after x m) := by
  obtain ⟨world, random, seed, opened, hm, -⟩ := hx.kept m
  rw [hm]
  exact of_scope_eq rfl rfl rfl

theorem onScope {α : Type} {op : Scope.Op α} (hop : ∀ s : Scope, s.OnlyNames (after op s))
    (m : Machine) : m.SameSettings (after (Eval.onScope op) m) := by
  rw [after_onScope]
  exact of_onlyNames (hop m.scope) rfl rfl

theorem refill {α : Type} (name : String) (values : Table → List Value) (result : Table → α)
    (m : Machine) : m.SameSettings (after (Eval.refill name values result) m) := by
  refine after_bind_trans (R := fun m m' : Machine => m.SameSettings m') (fun _ _ _ => .trans)
    (onScope (Scope.arrayId_onlyNames name)) (fun id m₁ => ?_) m
  exact of_onlyNames ⟨m₁.scope.globals, m₁.scope.frames, _, rfl⟩ rfl rfl

/-- What the driver makes of the end of a rule, be it a failure, and of a record that was read. -/
theorem settle (φ : Run.Phase) (event : Run.Event) (m : Machine) :
    m.SameSettings (φ.settle event m) := by
  fun_cases Run.Phase.settle φ event m
  case case3 => exact of_onlyNames (Scope.popAll_onlyNames m.scope) rfl rfl
  case case4 => exact ⟨⟨_, _, _, _, _, _, rfl⟩, rfl, rfl⟩
  all_goals exact of_scope_eq rfl rfl rfl

end SameSettings
end Machine

/-- A property that all this leaves alone is kept by runs if the accesses that are permitted keep
it, and the records that are read. -/
theorem throughout_respected {A : Permit} {P : Machine → Prop}
    (hsame : ∀ m m', P m → m.SameSettings m' → P m')
    (haccess : ∀ (α : Type) (a : Scope.Access α), A a → ∀ m, P m → P (after (onScope a.op) m))
    (hnext : ∀ m, P m → P (after nextCounted m)) :
    RespectsRuns A fun _ x y => Throughout P x y := by
  have plain : ∀ {α : Type} {x : Eval α}, (∀ m : Machine, m.SameSettings (after x m)) →
      Throughout P x x := fun hx => .same fun m hm => hsame m _ hm (hx m)
  have alone : ∀ {α : Type} {x : Eval α}, (∀ m : Machine, (after x m).scope = m.scope ∧
      (after x m).delivered = m.delivered ∧ (after x m).sources = m.sources) → Throughout P x x :=
    fun hx => plain fun m => .of_scope_eq (hx m).1 (hx m).2.1 (hx m).2.2
  exact {
    pure := fun _ => alone fun _ => ⟨rfl, rfl, rfl⟩
    bind := fun hx hf => hx.bind hf
    stop := fun _ => alone fun _ => ⟨rfl, rfl, rfl⟩
    located := fun place hx => hx.located place
    access := fun a ha => .same fun m hm => haccess _ a ha m hm
    refill := fun name values result _ => plain (.refill name values result)
    write := fun text => alone fun m => by
      unfold after Eval.write
      cases m.sink.accepts text <;> exact ⟨rfl, rfl, rfl⟩
    record := fun f hf => plain fun m => by
      obtain ⟨record, rstart, rlength, hs⟩ := hf m.scope
      exact ⟨⟨_, _, _, record, rstart, rlength, hs⟩, rfl, rfl⟩
    nextCounted := .same hnext
    aside := fun _ hx => plain (.aside hx)
    takePending := alone fun _ => ⟨rfl, rfl, rfl⟩
    newArray := plain (.onScope fun s => ⟨s.globals, s.frames, _, rfl⟩)
    leave := fun _ => alone fun _ => ⟨rfl, rfl, rfl⟩
    inFrame := fun bindings owned hx m hm => by
      have hinside : m.SameSettings (m.enterCall bindings owned) :=
        .of_onlyNames ⟨_, _, _, rfl⟩ rfl rfl
      refine (hx _ (hsame m _ hm hinside)).inFrame fun hafter => hsame _ _ hafter ?_
      exact .of_onlyNames (Scope.popFrame_onlyNames _) rfl rfl
    attempt := fun hx => hx.attempt
    isCancelled := alone fun _ => ⟨rfl, rfl, rfl⟩
    reset := plain fun m => .of_onlyNames (Scope.popAll_onlyNames m.scope) rfl rfl
    handle := fun e => plain fun m => by
      have hrun := Run.Phase.handle_run (φ := .begins []) rfl e m
      have hsettled := Machine.SameSettings.settle (.begins []) (.rule (.error e)) m
      cases hm : m.policy with
      | abort =>
        rw [hm] at hrun
        rw [after_of_error hrun]
        exact hsettled
      | skipRule =>
        rw [hm] at hrun
        rw [after_of_ok hrun]
        exact hsettled
    setExitCode := fun _ => alone fun _ => ⟨rfl, rfl, rfl⟩
    setActive := fun _ _ => alone fun _ => ⟨rfl, rfl, rfl⟩
    leaveInput := alone fun _ => ⟨rfl, rfl, rfl⟩
    closeInputs := alone fun _ => ⟨rfl, rfl, rfl⟩ }

theorem counting_respected : RespectsRuns (.assigning Uncounted) fun _ x y =>
    Throughout Machine.Counting x y :=
  throughout_respected (fun _ _ hm hsame => hm.same hsame.sameCounts)
    (fun _ a ha m hm => hm.same (onScope_sameCounts (Scope.tally_access a ha) m))
    fun _ hm => counting_delivery.nextCounted hm

theorem Run.Phase.settle_sameCounts (φ : Run.Phase) (event : Run.Event) (m : Machine) :
    m.SameCounts (φ.settle event m) :=
  (Machine.SameSettings.settle φ event m).sameCounts

/-- What rules keep, and the driver behind them, holds at all moments of a path and at its end. -/
theorem Run.Path.throughout {A : Permit} {P : Machine → Prop}
    (h : RespectsRules A fun _ x y => Throughout P x y)
    (hsettle : ∀ (φ : Run.Phase) event m, P m → P (φ.settle event m))
    {self : Meaning} {E : Expr → Prop} {S : Stmt → Prop}
    (hv : ∀ e, E e → Throughout P (self.value e) (self.value e))
    (hr : ∀ s, S s → Throughout P (self.run s) (self.run s)) {p : Program}
    (hp : ∀ r ∈ p.rules, ∀ t ∈ r.pattern, ∀ e ∈ t.exprs, E e)
    (hact : ∀ r ∈ p.rules, ∀ action ∈ r.action, ∀ s ∈ action.body, S s) {fuel : Nat}
    {φ φ' : Run.Phase} {m m' : Machine} {moments : List Run.Moment}
    (hφ : ∀ r ∈ φ.rules, r ∈ p.rules) (hm : P m)
    (hpath : Run.Path self p fuel φ m moments φ' m') :
    P m' ∧ ∀ x ∈ moments, P x.machine := by
  induction hpath with
  | nil => exact ⟨hm, List.forall_mem_nil _⟩
  | @cons φ _ _ m _ _ event _ hstep _ ih =>
    obtain ⟨m₀, hperform, rfl, rfl⟩ := Run.advance_ok_iff.mp hstep
    have hkept := (Run.Phase.respected h.toRespectsSteps hv hr (fun i _ => h.setActive i)
      (fun r hmem => hp r (hφ r hmem)) (fun r hmem => hact r (hφ r hmem)) m hm).2
    rw [after_of_ok hperform] at hkept
    obtain ⟨hend, hmoments⟩ := ih (Run.Phase.mem_rules_next hφ) (hsettle φ event m₀ hkept)
    exact ⟨hend, List.forall_mem_cons.mpr ⟨hm, hmoments⟩⟩

section

variable {p : Program} (hp : p.Everywhere (·.Assigns Uncounted) (·.Assigns Uncounted))

include hp

/-- Evaluation keeps the counts, and they are right before and behind every term. -/
theorem counting_evaluation (alarm : Stop) (fuel : Nat) :
    (∀ e, e.Everywhere (·.Assigns Uncounted) → Throughout Machine.Counting
        ((meaning p fuel).value e) ((meaningWatched Machine.Counted alarm p fuel).value e)) ∧
      ∀ s, s.Everywhere (·.Assigns Uncounted) (·.Assigns Uncounted) → Throughout Machine.Counting
        ((meaning p fuel).run s) ((meaningWatched Machine.Counted alarm p fuel).run s) :=
  counting_respected.programs hp (fun _ he => he) (fun _ hs => hs)
    (meaningWatched Machine.Counted alarm p)
    ⟨fun _ => counting_respected.stop _, fun _ => counting_respected.stop _⟩
    (fun _ _ _ hx => hx.watched (fun _ hm => hm.counted) alarm)
    (fun _ _ _ hx => hx.watched (fun _ hm => hm.counted) alarm) fuel

theorem counting_path {fuel : Nat} {φ φ' : Run.Phase} {m m' : Machine} {moments : List Run.Moment}
    (hφ : ∀ r ∈ φ.rules, r ∈ p.rules) (hm : m.Counting)
    (h : Run.Path (meaning p fuel) p fuel φ m moments φ' m') :
    m'.Counting ∧ ∀ x ∈ moments, x.machine.Counting := by
  obtain ⟨hv, hr⟩ := counting_evaluation hp .exhausted fuel
  exact Run.Path.throughout counting_respected.toRespectsRules
    (fun φ event m hm => hm.same (Run.Phase.settle_sameCounts φ event m))
    (fun e he => .same fun m hm => (hv e he m hm).2)
    (fun s hs => .same fun m hm => (hr s hs m hm).2) hp.patterns hp.actions hφ hm h

end

theorem Setting.apply_sameCounts {s : Setting} (hs : ∀ name ∈ s.assigned, Uncounted name)
    (m : Machine) : m.SameCounts (after s.apply m) := by
  cases s with
  | fieldSeparator fs =>
    have hname : Uncounted "FS" := by simp [Uncounted]
    exact onScope_sameCounts (Scope.tally_setVar hname (.ofText fs)) m
  | args as => exact ⟨Scope.tally_setArgs as m.scope, rfl, rfl⟩
  | assign text => exact onScope_sameCounts (Scope.tally_assign hs) m
  | preset name value =>
    show m.SameCounts (after (onScope (Scope.preset name value)) m)
    unfold Scope.preset
    split
    · exact onScope_sameCounts (Scope.tally_setVar (hs name rfl) _) m
    · exact ⟨rfl, rfl, rfl⟩
  | _ => exact ⟨rfl, rfl, rfl⟩

theorem Setting.applyAll_sameCounts {settings : List Setting}
    (h : ∀ s ∈ settings, ∀ name ∈ s.assigned, Uncounted name) (m : Machine) :
    m.SameCounts (after (applyAll settings) m) := by
  induction settings generalizing m with
  | nil => exact ⟨rfl, rfl, rfl⟩
  | cons s rest ih =>
    obtain ⟨hs, hrest⟩ := List.forall_mem_cons.mp h
    exact after_bind_trans (R := fun m m' : Machine => m.SameCounts m') (fun _ _ _ => .trans)
      (apply_sameCounts hs) (fun _ => ih hrest) m

theorem Session.start_counting (p : Program) (world : World) :
    (Session.start p world).Counting := by
  have htally : (Session.start p world).scope.tally = (0, 0, "") := Scope.tally_setArgs _ _
  simp only [Scope.tally, Prod.mk.injEq] at htally
  exact ⟨htally, List.forall_mem_nil _⟩

/-- In a run of a fresh machine in which nothing assigns them, `NR`, `FNR` and `FILENAME` tell at
every point which records have been given: before and behind every expression and statement, between
the steps of the driver, and at the end.  Records are given by `nextRecord`, and come from where
`nextRecord_some` says; files that are read by name and what the driver makes of signals and
failures change neither the counters nor what they count. -/
theorem records_counted {p : Program} {settings : List Setting} {sources : List Source}
    {world : World} {m : Machine}
    (hp : p.Everywhere (·.Assigns Uncounted) (·.Assigns Uncounted))
    (hsources : ∀ source ∈ sources, ∀ name ∈ source.assigned, Uncounted name)
    (hsettings : ∀ s ∈ settings, ∀ name ∈ s.assigned, Uncounted name)
    (hm : Setting.applyAll settings (Session.start p world) = .ok () m) (sink : Sink) (fuel : Nat) :
    (∀ alarm, Run.phases (meaningWatched Machine.Counted alarm p fuel) p fuel sources
        { m with sink } = Run.program p fuel sources { m with sink }) ∧
      (∀ moments φ m', Run.Path (meaning p fuel) p fuel (.begins p.beginRules)
        { m with sink, sources } moments φ m' →
          m'.Counted ∧ ∀ x ∈ moments, x.machine.Counted) ∧
      (after (Run.program p fuel sources) { m with sink }).Counted ∧
      (∀ m m' record, nextRecord m = .ok record m' → m.Gave record.toList.length m') ∧
      (∀ name m, Machine.SameCounts m (after (readFile name) m)) ∧
      ∀ (φ : Run.Phase) event m, Machine.SameCounts m (φ.settle event m) := by
  have hstart : m.Counting := by
    have hsame := Setting.applyAll_sameCounts hsettings (Session.start p world)
    rw [after_of_ok hm] at hsame
    exact (Session.start_counting p world).same hsame
  have hsink : Machine.Counting { m with sink } := hstart.same ⟨rfl, rfl, rfl⟩
  have hrun : ∀ alarm, Throughout Machine.Counting (Run.program p fuel sources)
      (Run.phases (meaningWatched Machine.Counted alarm p fuel) p fuel sources) := by
    intro alarm
    obtain ⟨hv, hr⟩ := counting_evaluation hp alarm fuel
    exact counting_respected.phases hv hr (.same fun m hm => ⟨hm.counted, hsources⟩)
      hp.patterns hp.actions fuel
  refine ⟨fun alarm => (hrun alarm _ hsink).1, fun moments φ m' hpath => ?_,
    (hrun .exhausted _ hsink).2.counted, fun m m' record => nextRecord_gave,
    fun name => (Aside.readFile name).sameCounts, Run.Phase.settle_sameCounts⟩
  have hbegin : ∀ r ∈ (Run.Phase.begins p.beginRules).rules, r ∈ p.rules :=
    fun r hr => List.mem_of_mem_filter hr
  have hset : Machine.Counting { m with sink, sources } := ⟨hsink.counted, hsources⟩
  obtain ⟨hend, hmoments⟩ := counting_path hp hbegin hset hpath
  exact ⟨hend.counted, fun x hx => (hmoments x hx).counted⟩

/-- `getline x` for every record of three inputs, the second of which is empty, with an assignment
between them: the action takes every other record, the last one of an input that it opens itself. -/
theorem records_counted_getline :
    let action : Stmt := .expr (.getline (some (.var "x" .start)) none .start)
    let p : Program := { rules := [⟨none, some ⟨[action], .start⟩, .start⟩], functions := [] }
    let sources : List Source := [.stream "a" (.ofBytes [49, 10, 50, 10, 51]), .operand "v=1",
      .stream "b" (.ofBytes []), .stream "c" (.ofBytes [52])]
    let m := Session.start p .empty
    let m' := after (Run.program p 9 sources) m
    (m'.scope.nr, m'.scope.fnr, m'.scope.filename) = (4, 1, "c") ∧
      m'.delivered = [("c", 1), ("b", 0), ("a", 3)] ∧ m'.Counted ∧
      ∀ alarm, Run.phases (meaningWatched Machine.Counted alarm p 9) p 9 sources m =
        Run.program p 9 sources m := by
  intro action p sources m m'
  have haction : action.Everywhere (·.Assigns Uncounted) (·.Assigns Uncounted) := by
    refine .intro (List.forall_mem_nil _) ?_ (List.forall_mem_nil _)
    refine List.forall_mem_singleton.mpr (.intro ?_ ?_)
    · refine List.forall_mem_singleton.mpr ?_
      simp [Uncounted]
    · exact List.forall_mem_singleton.mpr (.intro (List.forall_mem_nil _) (List.forall_mem_nil _))
  have hp : p.Everywhere (·.Assigns Uncounted) (·.Assigns Uncounted) := by
    refine ⟨List.forall_mem_singleton.mpr nofun, List.forall_mem_singleton.mpr ?_,
      List.forall_mem_nil _⟩
    rintro block ⟨⟩
    exact List.forall_mem_singleton.mpr haction
  have hsources : ∀ source ∈ sources, ∀ name ∈ source.assigned, Uncounted name := by
    have hv : Assignment.divide? "v=1" = some ("v", "1") := by decide +kernel
    simp [sources, hv, Source.assigned, Uncounted]
  obtain ⟨hwatched, -, hcounted, -⟩ :=
    records_counted hp hsources (List.forall_mem_nil _) rfl m.sink 9
  exact ⟨by decide +kernel, by decide +kernel, hcounted, hwatched⟩

end Awk
