import Awk.Proofs.RecordCounts
import Awk.Proofs.References
import Awk.Proofs.Sorting

/-!
# What `getline` changes

Four forms read from the main input or from a file, and put the record into a target or into
`$0`.  Where subscripts and the name of the file do nothing else, a form changes what it reads
from, what it stores into, and the counters if it reads from the main input.  A form that has no
record to store leaves behind what the read has changed, and nothing more.

Standard input alone is read from under several names.  Who reads from it and runs short takes
further blocks off its front, which are gone for the others.
-/

namespace Awk

open Eval

/-! ## What is bound -/

namespace Scope

variable {name : String} {s s' : Scope}

/-- Names may stand for something else only where an assignment to one of them writes, and a
global that a local hides is not touched. -/
structure BindsOnly (name : String) (s s' : Scope) : Prop where
  onlyNames : OnlyNames s s'
  globals : ∀ other, other ≠ name → s'.globals[other]? = s.globals[other]?
  locals : ∀ other, other ≠ name → s'.local? other = s.local? other
  hidden : (s.local? name).isSome → s'.globals = s.globals
  depth : s'.depth = s.depth
  outer : s'.frames.tail = s.frames.tail

theorem BindsOnly.refl (name : String) (s : Scope) : BindsOnly name s s :=
  ⟨.refl s, fun _ _ => rfl, fun _ _ => rfl, fun _ => rfl, rfl, rfl⟩

theorem BindsOnly.modifyTable (h : BindsOnly name s s') (id : Nat) (f : Table → Table) :
    BindsOnly name s { s' with arena := s'.arena.modify id f } where
  onlyNames := h.onlyNames.trans ⟨_, _, _, rfl⟩
  globals := h.globals
  locals := h.locals
  hidden := h.hidden
  depth := h.depth
  outer := h.outer

theorem bindsOnly_global (name : String) (b : Binding) (arena : Arena) (s : Scope)
    (hlocal : s.local? name = none) :
    BindsOnly name s { s with arena, globals := s.globals.insert name b } where
  onlyNames := ⟨_, _, _, rfl⟩
  globals other hother := by
    rw [Bindings.getElem?_insert, if_neg (Ne.symm hother)]
  locals _ _ := rfl
  hidden hsome := by
    rw [hlocal] at hsome
    cases hsome
  depth := rfl
  outer := rfl

theorem bindsOnly_local (name : String) (b : Binding) (arena : Arena) (owned : List Nat)
    {s : Scope} {frame : Frame} {frames : List Frame} (hframes : s.frames = frame :: frames) :
    BindsOnly name s
      { s with arena, frames := { locals := frame.locals.insert name b, owned } :: frames } where
  onlyNames := ⟨_, _, _, rfl⟩
  globals _ _ := rfl
  locals other hother := by
    simp only [local?, hframes, Bindings.getElem?_insert, if_neg (Ne.symm hother)]
  hidden _ := rfl
  depth := by rw [depth, depth, hframes, List.length_cons, List.length_cons]
  outer := by rw [hframes, List.tail_cons, List.tail_cons]

theorem bindsOnly_bind (name : String) (b : Binding) (s : Scope) :
    BindsOnly name s (s.bind name b) := by
  unfold bind
  split
  · next hframes => exact bindsOnly_global name b s.arena s (by rw [local?, hframes])
  · next frame frames hframes => exact bindsOnly_local name b s.arena frame.owned hframes

theorem lookup?_bind (name : String) (b : Binding) (s : Scope) :
    (s.bind name b).lookup? name = some b := by
  unfold bind
  split
  · next hframes =>
    simp only [lookup?, local?, hframes, Bindings.getElem?_insert, if_true]
  · next frame frames hframes =>
    simp only [lookup?, local?, Bindings.getElem?_insert, if_true]

/-- Asking for the array of a name binds at most that name. -/
theorem bindsOnly_arrayId {id : Nat} (h : arrayId name s = .ok id s') : BindsOnly name s s' := by
  unfold arrayId at h
  split at h
  · cases h
    exact .refl name s
  · next hlocal =>
    unfold local? at hlocal
    split at hlocal
    · cases hlocal
    · next frame frames hframes =>
      rw [hframes] at h
      cases h
      exact bindsOnly_local name _ _ _ hframes
  · cases h
  · next hlocal =>
    split at h
    · cases h
    · split at h
      · cases h
        exact .refl name s
      · cases h
        exact bindsOnly_global name _ _ s hlocal
      · cases h
        exact bindsOnly_global name _ _ s hlocal
      · cases h

/-- A name that stands for an array goes on to stand for it. -/
theorem arrayId_of_lookup? {id id' : Nat} (h : arrayId name s = .ok id' s')
    (hid : s.lookup? name = some (.array id)) : id' = id := by
  have hstay : s'.lookup? name = some (.array id) := by
    refine (arrayId_resolved h).arraysStay.lookup hid fun hnone => ?_
    cases arrayId_resolved h with
    | found => exact hnone
    | asGlobal => exact hnone
    | inFrame hframes hlocal =>
      simp only [local?, hframes, hlocal] at hnone
      cases hnone
  rw [lookup?_of_arrayId h] at hstay
  cases hstay
  rfl

end Scope

/-! ## What is stored -/

namespace Arena

variable {a : Arena} {id : Nat} {key : String} {v : Value}

theorem getElem?_modify_self (h : id < a.tables.size) :
    ((a.modify id fun t => t.insert key v).table id)[key]? = some v := by
  rw [table, modify, Array.getElem?_modify, if_pos rfl, Array.getElem?_eq_getElem h]
  exact Std.TreeMap.getElem?_insert_self

theorem getElem?_modify_of_ne {other : Nat} {k : String} (h : other ≠ id ∨ k ≠ key) :
    ((a.modify id fun t => t.insert key v).table other)[k]? = (a.table other)[k]? := by
  by_cases hsame : other = id
  · subst hsame
    have hk : ¬key = k := fun heq => h.elim (fun hne => hne rfl) fun hne => hne heq.symm
    rw [table, table, modify, Array.getElem?_modify, if_pos rfl]
    cases a.tables[other]? with
    | none => rfl
    | some t =>
      show (t.insert key v)[k]? = t[k]?
      rw [Std.TreeMap.getElem?_insert, if_neg fun heq => hk (Std.LawfulEqCmp.eq_of_compare heq)]
  · rw [table_modify_of_ne hsame]

end Arena

namespace Target

/-- A variable without a meaning of its own, or an element. -/
def Ordinary : Target → Prop
  | var name => Special.ofName? name = none
  | element .. => True
  | field _ => False

/-- The target holds the value, and nothing else differs between the two scopes, but that the
name of an element stands for an array if it had not been set.  A number that no array has takes
no elements. -/
inductive Stored (v : Value) : Target → Scope → Scope → Prop where
  | var {name : String} {s s' : Scope} :
      s.BindsOnly name s' → s'.arena = s.arena → s'.lookup? name = some (.scalar v) →
      Stored v (.var name) s s'
  | element {array key : String} {id : Nat} {s s' : Scope} :
      s.BindsOnly array s' → s'.lookup? array = some (.array id) →
      (∀ id', s.lookup? array = some (.array id') → id' = id) →
      (∀ other k, other ≠ id ∨ k ≠ key → (s'.table other)[k]? = (s.table other)[k]?) →
      (id < s'.arena.tables.size → (s'.table id)[key]? = some v) →
      Stored v (.element array key) s s'

theorem stored_setVar {name : String} {v : Value} {s s' : Scope}
    (hname : Special.ofName? name = none) (h : Scope.setVar name v s = .ok () s') :
    Stored v (.var name) s s' := by
  unfold Scope.setVar at h
  rw [hname] at h
  dsimp only at h
  split at h
  · cases h
  · cases h
    refine .var (Scope.bindsOnly_bind name _ s) ?_ (Scope.lookup?_bind name _ s)
    unfold Scope.bind
    split <;> rfl

theorem stored_setElement {array key : String} {v : Value} {s s' : Scope}
    (h : Scope.setElement array key v s = .ok () s') : Stored v (.element array key) s s' := by
  obtain ⟨id, s₁, hid, h⟩ := bind_ok_inv h
  cases h
  have htable := Scope.arrayId_table hid
  refine .element ((Scope.bindsOnly_arrayId hid).modifyTable id _)
    (show s₁.lookup? array = _ from Scope.lookup?_of_arrayId hid)
    (fun id' hid' => (Scope.arrayId_of_lookup? hid hid').symm) (fun other k hother => ?_)
    fun hsize => ?_
  · rw [← htable other]
    exact Arena.getElem?_modify_of_ne hother
  · have hlive : id < s₁.arena.tables.size := by
      simpa only [Arena.modify, Array.size_modify] using hsize
    exact Arena.getElem?_modify_self hlive

theorem write_var_of_ordinary {name : String} (h : Special.ofName? name = none) (v : Value) :
    (var name).write v = onScope (Scope.setVar name v) := by
  simp [write, h]

/-- Writing an ordinary target stores the value there. -/
theorem Ordinary.stored {t : Target} {v : Value} {m m' : Machine} (ht : t.Ordinary)
    (h : t.write v m = .ok () m') : ∃ s, m' = { m with scope := s } ∧ Stored v t m.scope s := by
  have hscope : ∀ {op : Scope.Op Unit}, onScope op m = .ok () m' →
      ∃ s, op m.scope = .ok () s ∧ m' = { m with scope := s } := by
    intro op hop
    unfold onScope at hop
    split at hop
    · next s hs =>
      cases hop
      exact ⟨s, hs, rfl⟩
    · cases hop
  cases t with
  | var name =>
    rw [write_var_of_ordinary ht] at h
    obtain ⟨s, hs, hm'⟩ := hscope h
    exact ⟨s, hm', stored_setVar ht hs⟩
  | element array key =>
    obtain ⟨s, hs, hm'⟩ := hscope h
    exact ⟨s, hm', stored_setElement hs⟩
  | field index => exact ht.elim

end Target

/-! ## What is read -/

def Source.isAssignment : Source → Bool
  | .stream .. => false
  | .operand text => Assignment.isOperand text

namespace Machine

/-- The current input is standard input, and what has been taken of it does not tell how the next
record ends. -/
def RunsShort (m : Machine) : Prop :=
  m.onInput ∧ ∃ reader, m.current = some reader ∧ reader.RunsShort m.scope.separator

/-- What a read of the main input changes: its position, and, if it has gone past inputs, `FILENAME`
and `FNR`, which tell of the last of these.  Blocks are taken off the front of standard input only
if that is the current input and runs short, or is among the inputs that are opened, as `-`. -/
structure ReadsMain (passed : List Source) (m mid : Machine) : Prop where
  only : ∃ filename fnr fnrExact sources input current onInput delivered,
    mid = { m with
      scope := { m.scope with filename, fnr, fnrExact }
      world := { m.world with input }
      sources, current, onInput, delivered }
  sources : m.sources = passed ++ mid.sources
  kept : passed = [] → mid.scope = m.scope
  latest : ∀ source ∈ passed.getLast?,
    mid.scope.filename = source.name ∧ mid.scope.fnr = 0 ∧ mid.scope.fnrExact = 0
  drawn : Drawn m.world.input mid.world.input
  apart : mid.world.input = m.world.input ∨ m.RunsShort ∨ .operand "-" ∈ passed

/-- What a read of a file by name changes: its position, and standard input, off the front of which
blocks are taken if that is the file and what has been taken under this name runs short. -/
structure ReadsFile (name : String) (m mid : Machine) : Prop where
  only : ∃ input opened, mid = { m with world := { m.world with input }, opened }
  others : ∀ other, other ≠ name → mid.opened[other]? = m.opened[other]?
  drawn : Drawn m.world.input mid.world.input
  apart : mid.world.input = m.world.input ∨
    isInputName name ∧ ∀ reader ∈ m.opened[name]?, reader.RunsShort m.scope.separator

/-- Two reads, if the one behind draws on standard input only where the one before has opened it. -/
theorem ReadsMain.trans {passed passed' : List Source} {m m₁ m₂ : Machine}
    (h : ReadsMain passed m m₁) (h' : ReadsMain passed' m₁ m₂)
    (hopened : m₁.RunsShort → .operand "-" ∈ passed) : ReadsMain (passed ++ passed') m m₂ where
  only := by
    obtain ⟨_, _, _, _, _, _, _, _, rfl⟩ := h.only
    obtain ⟨_, _, _, _, _, _, _, _, rfl⟩ := h'.only
    exact ⟨_, _, _, _, _, _, _, _, rfl⟩
  sources := by rw [h.sources, h'.sources, List.append_assoc]
  kept hnone := by
    obtain ⟨hpassed, hpassed'⟩ := List.append_eq_nil_iff.mp hnone
    rw [h'.kept hpassed', h.kept hpassed]
  latest source hsource := by
    rw [List.getLast?_append] at hsource
    cases hlast : passed'.getLast? with
    | some last =>
      rw [hlast] at hsource
      exact h'.latest source (hlast.trans hsource)
    | none =>
      rw [hlast] at hsource
      rw [h'.kept (List.getLast?_eq_none_iff.mp hlast)]
      exact h.latest source hsource
  drawn := h.drawn.trans h'.drawn
  apart := by
    rcases h'.apart with hinput' | hshort | hmem'
    · rw [hinput']
      exact h.apart.imp id (.imp id (List.mem_append_left passed'))
    · exact .inr (.inr (List.mem_append_left passed' (hopened hshort)))
    · exact .inr (.inr (List.mem_append_right passed hmem'))

end Machine

theorem Machine.not_runsShort_of_closed {m : Machine} (h : m.current = none) : ¬ m.RunsShort := by
  rintro ⟨-, reader, hcurrent, -⟩
  cases h.symm.trans hcurrent

namespace Eval

open Machine

theorem readCurrent_readsMain {m mid : Machine} {record : Option String}
    (h : readCurrent m = .ok record mid) : ReadsMain [] m mid := by
  obtain ⟨-, -, rfl⟩ | ⟨reader, reader', m₁, hcurrent, hread, rfl⟩ := readCurrent_ok h
  · exact ⟨⟨_, _, _, _, _, _, _, _, rfl⟩, rfl, fun _ => rfl, nofun, .refl _, .inl rfl⟩
  · obtain ⟨input, hafter, hdrawn, hapart⟩ := after_readRecord m.onInput reader m
    have hshort : input = m.world.input ∨ m.RunsShort ∨ .operand "-" ∈ ([] : List Source) :=
      hapart.imp id fun ⟨honInput, hreader⟩ => .inl ⟨honInput, reader, hcurrent, hreader⟩
    rw [after_of_ok hread] at hafter
    subst hafter
    cases record with
    | none => exact ⟨⟨_, _, _, _, _, _, _, _, rfl⟩, rfl, fun _ => rfl, nofun, hdrawn, hshort⟩
    | some record =>
      exact ⟨⟨_, _, _, _, _, _, _, _, rfl⟩, rfl, fun _ => rfl, nofun, hdrawn, hshort⟩

/-- Opening an input of the list, of which nothing has been read yet. -/
theorem openSource_readsMain {source : Source} {rest : List Source} {m mid : Machine}
    (hsources : m.sources = source :: rest) (hsource : source.isAssignment = false)
    (h : openSource source { m with sources := rest } = .ok () mid) :
    ReadsMain [source] m mid ∧ (mid.RunsShort → .operand "-" ∈ [source]) := by
  obtain ⟨onInput, reader, hopens, rfl⟩ | ⟨text, scope, rfl, hassigns, -⟩ := openSource_ok h
  · refine ⟨⟨⟨_, _, _, _, _, _, _, _, rfl⟩, hsources, nofun, ?_, .refl _, .inl rfl⟩,
      fun hshort => ?_⟩
    · rintro _ ⟨⟩
      exact ⟨rfl, rfl, rfl⟩
    · have honInput : onInput = true := hshort.1
      cases hopens with
      | input => exact List.mem_singleton_self _
      | stream | file => cases honInput
  · cases hsource.symm.trans hassigns

theorem readSources_readsMain {sources : List Source} {m mid : Machine} {record : Option String}
    (hsources : m.sources = sources) (hall : ∀ source ∈ sources, source.isAssignment = false)
    (h : readSources sources m = .ok record mid) : ∃ passed, ReadsMain passed m mid := by
  induction sources generalizing m with
  | nil =>
    cases h
    exact ⟨[], ⟨_, _, _, _, _, _, _, _, rfl⟩, rfl, fun _ => rfl, nofun, .refl _, .inl rfl⟩
  | cons source rest ih =>
    obtain ⟨_, m₁, hset, h⟩ := bind_ok_inv h
    cases hset
    obtain ⟨_, m₂, hopen, h⟩ := bind_ok_inv h
    obtain ⟨found, m₃, hread, h⟩ := bind_ok_inv h
    obtain ⟨hopened, hinput⟩ :=
      openSource_readsMain hsources (hall source List.mem_cons_self) hopen
    have hbehind := hopened.trans (readCurrent_readsMain hread) hinput
    cases found with
    | some record =>
      cases h
      exact ⟨_, hbehind⟩
    | none =>
      obtain ⟨hclosed, -⟩ := readCurrent_none hread
      have hleft : m₃.sources = rest := by
        have hpassed := hbehind.sources
        rw [hsources] at hpassed
        exact (List.cons.inj hpassed).2.symm
      obtain ⟨passed, hpassed⟩ :=
        ih hleft (fun s hs => hall s (List.mem_cons_of_mem source hs)) h
      exact ⟨_, hbehind.trans hpassed (absurd · (not_runsShort_of_closed hclosed))⟩

theorem nextRecord_readsMain {m mid : Machine} {record : Option String}
    (hall : ∀ source ∈ m.sources, source.isAssignment = false)
    (h : nextRecord m = .ok record mid) : ∃ passed, ReadsMain passed m mid := by
  obtain ⟨found, m₁, hread, h⟩ := bind_ok_inv h
  have hbehind := readCurrent_readsMain hread
  cases found with
  | some record =>
    cases h
    exact ⟨_, hbehind⟩
  | none =>
    obtain ⟨hclosed, hleft⟩ := readCurrent_none hread
    obtain ⟨_, _, hget, h⟩ := bind_ok_inv h
    cases hget
    obtain ⟨passed, hpassed⟩ := readSources_readsMain rfl (hleft ▸ hall) h
    exact ⟨_, hbehind.trans hpassed (absurd · (not_runsShort_of_closed hclosed))⟩

/-- A reader that is kept under the name, or a new one. -/
theorem readerOf_ok {name : String} {reader : Reader} {m m' : Machine}
    (h : readerOf name m = .ok reader m') :
    m' = m ∧ ∀ reader' ∈ m.opened[name]?, reader' = reader := by
  have hafter := after_readerOf name m
  rw [after_of_ok h] at hafter
  refine ⟨hafter, fun reader' hreader' => ?_⟩
  unfold readerOf at h
  rw [bind_of_ok (get_run m), Option.mem_def.mp hreader'] at h
  cases h
  rfl

theorem readOn_readsFile {name : String} {reader : Reader} {m mid : Machine}
    {outcome : Except Unit (Option String)}
    (hreader : ∀ reader' ∈ m.opened[name]?, reader' = reader)
    (h : readOn name reader m = .ok outcome mid) : ReadsFile name m mid := by
  obtain ⟨input, hafter, hdrawn, hapart⟩ := after_readRecord (isInputName name) reader m
  obtain ⟨read, m₁, hread, h⟩ := bind_ok_inv h
  rw [after_of_ok hread] at hafter
  subst hafter
  cases h
  refine ⟨⟨_, _, rfl⟩, fun other hother => ?_, hdrawn, hapart.imp id fun ⟨hname, hshort⟩ => ?_⟩
  · exact Std.TreeMap.getElem?_insert.trans
      (if_neg fun heq => hother (Std.LawfulEqCmp.eq_of_compare heq).symm)
  · exact ⟨hname, fun reader' hreader' => hreader reader' hreader' ▸ hshort⟩

theorem readFile_readsFile {name : String} {m mid : Machine}
    {outcome : Except Unit (Option String)} (h : readFile name m = .ok outcome mid) :
    ReadsFile name m mid := by
  unfold readFile at h
  split at h
  · next hfailed =>
    have hafter := after_readerOf name m
    rw [after_of_error hfailed] at hafter
    cases h
    subst hafter
    exact ⟨⟨_, _, rfl⟩, fun _ _ => rfl, .refl _, .inl rfl⟩
  · cases h
  · next hfound =>
    obtain ⟨rfl, hreader⟩ := readerOf_ok hfound
    exact readOn_readsFile hreader h

end Eval

/-! ## Terms that do nothing else -/

namespace Meaning

variable {self : Meaning} {m : Machine}

theorem after_text {e : Expr} (he : after (self.value e) m = m) : after (self.text e) m = m :=
  after_bind_self he fun v => after_textUnder _ v m

theorem after_values {es : List Expr} (h : ∀ e ∈ es, after (self.value e) m = m) :
    after (self.values es) m = m := by
  induction es with
  | nil => rfl
  | cons e es ih =>
    have hrest := ih fun e he => h e (List.mem_cons_of_mem _ he)
    exact after_bind_self (h e List.mem_cons_self) fun _ => after_bind_self hrest fun _ => rfl

theorem after_key {indices : List Expr} (h : ∀ e ∈ indices, after (self.value e) m = m) :
    after (self.key indices) m = m :=
  after_bind_self (after_values h) fun _ => after_bind_self rfl fun _ =>
    after_bind_self (after_requireTexts _ _ m) fun _ => rfl

end Meaning

namespace Expr

/-- A variable without a meaning of its own, or an element whose subscripts change nothing. -/
def Ordinary (self : Meaning) (m : Machine) : Expr → Prop
  | var name _ => Special.ofName? name = none
  | element _ indices _ => ∀ e ∈ indices, after (self.value e) m = m
  | group inner _ => inner.Ordinary self m
  | _ => False

theorem Ordinary.resolve {self : Meaning} {m m₁ : Machine} {t : Target} : ∀ {e : Expr},
    e.Ordinary self m → Target.resolve self e m = .ok t m₁ → m₁ = m ∧ t.Ordinary
  | var name _, he, h => by
    cases h
    exact ⟨rfl, he⟩
  | element array indices _, he, h => by
    obtain ⟨key, m₂, hkey, h⟩ := bind_ok_inv h
    have hkept := Meaning.after_key he
    rw [after_of_ok hkey] at hkept
    cases h
    exact ⟨hkept, trivial⟩
  | group inner _, he, h => Ordinary.resolve (e := inner) he h

/-- What of a machine `getline` changes before it stores anything: the position of the file it is
told to read, or that of the main input, and with a record from there the counters. -/
inductive Moves (self : Meaning) (m : Machine) :
    Option Expr → Except Unit (Option String) → Machine → Prop where
  | file {e : Expr} {name : String} {outcome : Except Unit (Option String)} {mid : Machine} :
      self.text e m = .ok name m → m.ReadsFile name mid → Moves self m (some e) outcome mid
  | main {passed : List Source} {record : Option String} {mid : Machine} :
      m.ReadsMain passed mid →
      Moves self m none (.ok record) (if record.isSome then after countRecord mid else mid)

/-- What of a scope `getline` changes with a record: the record and its fields, or the target. -/
inductive Stores (self : Meaning) (m : Machine) (record : String) :
    Option Expr → Scope → Scope → Prop where
  | whole (s : Scope) : Stores self m record none s (s.setRecord record)
  | target {e : Expr} {t : Target} {s s' : Scope} :
      Target.resolve self e m = .ok t m → t.Stored (.ofText record) s s' →
      Stores self m record (some e) s s'

theorem getlineRecord_moves {self : Meaning} {file : Option Expr} {m mid : Machine}
    {outcome : Except Unit (Option String)}
    (hfile : ∀ e ∈ file, after (self.value e) m = m)
    (hsources : ∀ source ∈ m.sources, source.isAssignment = false)
    (h : getlineRecord self file m = .ok outcome mid) : Moves self m file outcome mid := by
  cases file with
  | some e =>
    obtain ⟨name, m₁, hname, hread⟩ := bind_ok_inv h
    have hkept := Meaning.after_text (hfile e rfl)
    rw [after_of_ok hname] at hkept
    subst hkept
    exact .file hname (readFile_readsFile hread)
  | none =>
    obtain ⟨record, m₁, hrecord, h⟩ := bind_ok_inv h
    obtain ⟨passed, hpassed⟩ := nextRecord_readsMain hsources hrecord
    have hmid : Moves self m none (.ok record) _ := .main hpassed
    cases record with
    | none =>
      cases h
      exact hmid
    | some record =>
      obtain ⟨⟨⟩, m₂, hcount, h⟩ := bind_ok_inv h
      rw [Option.isSome_some, if_pos rfl, after_of_ok hcount] at hmid
      cases h
      exact hmid

end Expr

/-- Settling a target changes nothing. -/
theorem Expr.resolveTarget?_ok {self : Meaning} {target : Option Expr} {t : Option Target}
    {m m₁ : Machine} (htarget : ∀ e ∈ target, e.Ordinary self m)
    (h : resolveTarget? self target m = .ok t m₁) :
    m₁ = m ∧
      Option.Rel (fun e t' => Target.resolve self e m = .ok t' m ∧ t'.Ordinary) target t := by
  cases target with
  | none =>
    cases h
    exact ⟨rfl, .none⟩
  | some e =>
    obtain ⟨t', m₂, hresolve, hreturn⟩ := bind_ok_inv h
    obtain ⟨rfl, ht'⟩ := (htarget e rfl).resolve hresolve
    cases hreturn
    exact ⟨rfl, .some ⟨hresolve, ht'⟩⟩

/-- The forms of `getline`, in any state in which subscripts and the name of the file change
nothing and no operand to come is an assignment.  What a form reads from moves on; `1` says that the
record it found is stored as well, `0` and `-1` that nothing is. -/
theorem getline_changes {p : Program} {fuel : Nat} {target file : Option Expr} {place : Location}
    {m m' : Machine} {v : Value} (htarget : ∀ e ∈ target, e.Ordinary (meaning p fuel) m)
    (hfile : ∀ e ∈ file, after ((meaning p fuel).value e) m = m)
    (hsources : ∀ source ∈ m.sources, source.isAssignment = false)
    (h : eval p (fuel + 1) (.getline target file place) m = .ok v m') :
    ∃ outcome mid, Expr.getlineRecord (meaning p fuel) file m = .ok outcome mid ∧
      Expr.Moves (meaning p fuel) m file outcome mid ∧
      match outcome with
      | .ok (some record) => v = .num 1.0 ∧ ∃ s,
          Expr.Stores (meaning p fuel) m record target mid.scope s ∧ m' = { mid with scope := s }
      | .ok none => v = .num 0.0 ∧ m' = mid
      | .error () => v = .num (-1.0) ∧ file.isSome ∧ m' = mid := by
  have hrule : Expr.evalGetline (meaning p fuel) target file m = .ok v m' := ok_of_located h
  obtain ⟨t, m₁, hresolve, hbehind⟩ := bind_ok_inv hrule
  obtain ⟨rfl, ht⟩ := Expr.resolveTarget?_ok htarget hresolve
  obtain ⟨outcome, mid, hrecord, hend⟩ := bind_ok_inv hbehind
  have hmoves := Expr.getlineRecord_moves hfile hsources hrecord
  refine ⟨outcome, mid, hrecord, hmoves, ?_⟩
  match outcome, hmoves, hend with
  | .error (), .file _ _, hend =>
    cases hend
    exact ⟨rfl, rfl, rfl⟩
  | .ok none, _, hend =>
    cases hend
    exact ⟨rfl, rfl⟩
  | .ok (some record), _, hend =>
    cases ht with
    | none =>
      cases hend
      exact ⟨rfl, _, .whole _, rfl⟩
    | some ht =>
      obtain ⟨_, m₂, hwrite, hreturn⟩ := bind_ok_inv hend
      obtain ⟨s, rfl, hstored⟩ := ht.2.stored hwrite
      cases hreturn
      exact ⟨rfl, s, .target ht.1 hstored, rfl⟩

/-- The value that a computation ends with. -/
def Eval.answer? {α : Type} (x : Eval α) (m : Machine) : Option α :=
  match x m with
  | .ok a _ => some a
  | .error _ _ => none

theorem Eval.ok_of_answer? {α : Type} {x : Eval α} {m : Machine} {a : α}
    (h : x.answer? m = some a) : x m = .ok a (after x m) := by
  unfold answer? at h
  split at h
  · next hrun =>
    cases h
    rw [hrun, after_of_ok hrun]
  · cases h

/-- `getline a["k"]` at the end of one input goes on to the next. -/
theorem getline_changes_element :
    let target : Expr := .element "a" [.string "k" .start] .start
    let m : Machine := { Machine.initial .empty with
      sources := [.stream "one" (.ofBytes []), .stream "two" (.ofBytes [120, 10])] }
    let m' := after (eval ⟨[], []⟩ 3 (.getline (some target) none .start)) m
    (m'.scope.nr, m'.scope.fnr, m'.scope.filename) = (1, 1, "two") ∧
      ∃ passed mid s, m.ReadsMain passed mid ∧
        Target.Stored (.ofText "x") (.element "a" "k") (after countRecord mid).scope s ∧
        m' = { after countRecord mid with scope := s } := by
  intro target m m'
  have hends : ((eval ⟨[], []⟩ 3 (.getline (some target) none .start)).answer? m).isSome := by
    decide +kernel
  have hrecord : ((Expr.getlineRecord (meaning ⟨[], []⟩ 2) none).answer? m) =
      some (.ok (some "x")) := by decide +kernel
  have htarget : ((Target.resolve (meaning ⟨[], []⟩ 2) target).answer? m) =
      some (.element "a" "k") := by decide +kernel
  obtain ⟨v, hv⟩ := Option.isSome_iff_exists.mp hends
  have hordinary : ∀ e ∈ some target, e.Ordinary (meaning ⟨[], []⟩ 2) m := by
    rintro _ ⟨⟩
    exact List.forall_mem_singleton.mpr rfl
  have hfile : ∀ e ∈ (none : Option Expr), after ((meaning ⟨[], []⟩ 2).value e) m = m := nofun
  have hsources : ∀ source ∈ m.sources, source.isAssignment = false := by
    simp [m, Source.isAssignment]
  obtain ⟨outcome, mid, hread, hmoves, hstored⟩ :=
    getline_changes hordinary hfile hsources (ok_of_answer? hv)
  obtain rfl : outcome = .ok (some "x") := by
    rw [ok_of_answer? hrecord] at hread
    cases hread
    rfl
  cases hmoves with
  | main hpassed =>
    obtain ⟨-, s, hstores, hm'⟩ := hstored
    cases hstores with
    | target hresolve hs =>
      rw [ok_of_answer? htarget] at hresolve
      cases hresolve
      exact ⟨by decide +kernel, _, _, s, hpassed, hs, hm'⟩

/-- Standard input is the main input as well as the file that is read, and the file has taken its
only block: without the read there would be a record, and behind it there is none. -/
theorem getline_shares_input :
    let file : Expr := .getline (some (.var "x" .start)) (some (.string "-" .start)) .start
    let m : Machine := { Machine.initial { World.empty with input := some [[97, 10, 98, 10]] } with
      sources := [.operand "-"] }
    ∃ v m' before behind, (Expr.var "x" .start).Ordinary (meaning ⟨[], []⟩ 2) m ∧
      after ((meaning ⟨[], []⟩ 2).value (.string "-" .start)) m = m ∧
      (∀ source ∈ m.sources, source.isAssignment = false) ∧
      eval ⟨[], []⟩ 3 file m = .ok v m' ∧
      nextRecord m = .ok (some "a") before ∧ nextRecord m' = .ok none behind := by
  intro file m
  have hends : ((eval ⟨[], []⟩ 3 file).answer? m).isSome := by decide +kernel
  obtain ⟨v, hv⟩ := Option.isSome_iff_exists.mp hends
  have hbefore : nextRecord.answer? m = some (some "a") := by decide +kernel
  have hbehind : nextRecord.answer? (after (eval ⟨[], []⟩ 3 file) m) = some none := by
    decide +kernel
  have hordinary : Special.ofName? "x" = none := by decide
  have hsource : Assignment.isOperand "-" = false := by decide +kernel
  exact ⟨v, _, _, _, hordinary, rfl, List.forall_mem_singleton.mpr hsource, ok_of_answer? hv,
    ok_of_answer? hbefore, ok_of_answer? hbehind⟩

end Awk
