import Awk.Proofs.Computation
import Awk.Scope

/-!
# Access by name

What a program does to its variables and arrays it does by name.  There are only three
things such an access can do to the names of a scope: nothing, binding a name to a
scalar, and turning a name into an array.  `Access.effect` says so once for all
accesses, and what holds of scopes is proved from there.  `Access.onlyNames` is the other
side: beyond the names, only an assignment to a special variable changes anything.
-/

namespace Awk

namespace Bindings

theorem getElem?_insert (m : Bindings) (name other : String) (b : Binding) :
    (m.insert name b)[other]? = if name = other then some b else m[other]? := by
  rw [Std.TreeMap.getElem?_insert]
  simp only [Std.LawfulEqCmp.compare_eq_iff_eq]

end Bindings

theorem Special.eq_name_of_ofName? {name : String} {v : Special} (h : ofName? name = some v) :
    name = v.name := by
  have hfound := List.find?_some h
  exact (eq_of_beq hfound).symm

namespace Scope

/-- The accesses to variables and arrays that a program can make. -/
inductive Access : Type → Type where
  | getVar (name : String) : Access Value
  | setVar (name : String) (v : Value) : Access Unit
  | arrayId (name : String) : Access Nat
  | getElement (array key : String) : Access Value
  | setElement (array key : String) (v : Value) : Access Unit
  | deleteElement (array key : String) : Access Unit
  | clearArray (array : String) : Access Unit
  | arrayKeys (array : String) : Access (List String)
  | hasElement (array key : String) : Access Bool
  | arraySize (array : String) : Access Nat

def Access.op {α : Type} : Access α → Op α
  | getVar name => Scope.getVar name
  | setVar name v => Scope.setVar name v
  | arrayId name => Scope.arrayId name
  | getElement array key => Scope.getElement array key
  | setElement array key v => Scope.setElement array key v
  | deleteElement array key => Scope.deleteElement array key
  | clearArray array => Scope.clearArray array
  | arrayKeys array => Scope.arrayKeys array
  | hasElement array key => Scope.hasElement array key
  | arraySize array => Scope.arraySize array

/-- Two scopes in which every name stands for the same. -/
structure SameNames (s s' : Scope) : Prop where
  globals : s'.globals = s.globals
  frames : s'.frames = s.frames
  arena : s'.arena = s.arena

theorem SameNames.refl (s : Scope) : SameNames s s := ⟨rfl, rfl, rfl⟩

theorem setRecord_sameNames (text : String) (s : Scope) : SameNames s (s.setRecord text) :=
  ⟨rfl, rfl, rfl⟩

theorem setField_sameNames (i : Nat) (text : String) (s : Scope) :
    SameNames s (s.setField i text) := by
  unfold setField
  split
  · exact setRecord_sameNames text s
  · exact ⟨rfl, rfl, rfl⟩

/-! ## Special variables

They have fields of their own, so setting one leaves all names alone. -/

theorem setFieldCount_after (n : Double) (s : Scope) :
    ∃ record, after (setFieldCount n) s = { s with record } := by
  by_cases hneg : n < 0.0
  · simp only [setFieldCount, hneg, if_true]
    exact ⟨s.record, rfl⟩
  · by_cases hmax : Double.ofNat maxFields < n
    · simp only [setFieldCount, hneg, hmax, if_true, if_false]
      exact ⟨s.record, rfl⟩
    · simp only [setFieldCount, hneg, hmax, if_false]
      exact ⟨_, rfl⟩

theorem setFieldSeparator_after (fs : String) (s : Scope) :
    ∃ fs' splitter, after (setFieldSeparator fs) s = { s with fs := fs', splitter } := by
  unfold after setFieldSeparator
  cases FieldSplitter.ofSeparator fs s.ignoresCase with
  | ok splitter => exact ⟨fs, splitter, rfl⟩
  | error fault => exact ⟨s.fs, s.splitter, rfl⟩

theorem setIgnoreCase_after (v : Value) (s : Scope) :
    ∃ splitter, after (setIgnoreCase v) s = { s with ignoreCase := v, splitter } := by
  unfold after setIgnoreCase
  dsimp only
  generalize FieldSplitter.ofSeparator _ _ = made
  cases made with
  | ok splitter => exact ⟨splitter, rfl⟩
  | error fault => exact ⟨s.splitter, rfl⟩

theorem setRecordSeparator_after (rs : String) (s : Scope) :
    ∃ rs' separator, after (setRecordSeparator rs) s = { s with rs := rs', separator } := by
  unfold after setRecordSeparator
  cases RecordSeparator.ofSeparator rs with
  | ok separator => exact ⟨rs, separator, rfl⟩
  | error fault => exact ⟨s.rs, s.separator, rfl⟩

theorem setSpecial_sameNames (name : Special) (v : Value) (s : Scope) :
    SameNames s (after (setSpecial name v) s) := by
  cases name with
  | nf =>
    obtain ⟨record, h⟩ := setFieldCount_after v.toNumber s
    exact h ▸ ⟨rfl, rfl, rfl⟩
  | fs =>
    obtain ⟨fs, splitter, h⟩ := setFieldSeparator_after (v.toText s.convfmt) s
    exact h ▸ ⟨rfl, rfl, rfl⟩
  | ignoreCase =>
    obtain ⟨splitter, h⟩ := setIgnoreCase_after v s
    exact h ▸ ⟨rfl, rfl, rfl⟩
  | rs =>
    obtain ⟨rs, separator, h⟩ := setRecordSeparator_after (v.toText s.convfmt) s
    exact h ▸ ⟨rfl, rfl, rfl⟩
  | _ => exact ⟨rfl, rfl, rfl⟩

/-! ## Names that become arrays -/

/-- How a name comes to stand for array `id`: it already does, or it was not set in the
innermost frame, or it stood for nothing and becomes global. -/
inductive Resolved (name : String) (s : Scope) : Nat → Scope → Prop where
  | found {id : Nat} : s.lookup? name = some (.array id) → Resolved name s id s
  | inFrame {frame : Frame} {frames : List Frame} {id : Nat} {arena : Arena} :
      s.frames = frame :: frames → frame.locals[name]? = some (.scalar .uninit) →
      s.arena.alloc = (id, arena) →
      Resolved name s id
        { s with
          arena
          frames := { locals := frame.locals.insert name (.array id)
                      owned := frame.owned ++ [id] } :: frames }
  | asGlobal {id : Nat} {arena : Arena} :
      (∀ b, s.globals[name]? = some b → b = .scalar .uninit) →
      s.arena.alloc = (id, arena) →
      Resolved name s id { s with arena, globals := s.globals.insert name (.array id) }

theorem arrayId_resolved {name : String} {s s' : Scope} {id : Nat}
    (h : arrayId name s = .ok id s') : Resolved name s id s' := by
  unfold arrayId at h
  split at h
  · next found hl =>
    cases h
    exact .found (by simp only [lookup?, hl])
  · next hl =>
    obtain ⟨frame, frames, hf, hu⟩ :
        ∃ frame frames, s.frames = frame :: frames ∧
          frame.locals[name]? = some (.scalar .uninit) := by
      unfold local? at hl
      split at hl
      · cases hl
      · next frame frames hf => exact ⟨frame, frames, hf, hl⟩
    rw [hf] at h
    cases h
    exact .inFrame hf hu rfl
  · cases h
  · next hl =>
    split at h
    · cases h
    · split at h
      · next found hg =>
        cases h
        exact .found (by simp only [lookup?, hl, hg])
      · next hg =>
        cases h
        exact .asGlobal (fun b hb => by rw [hg] at hb; exact (Option.some.inj hb).symm) rfl
      · next hg =>
        cases h
        exact .asGlobal (fun b hb => by rw [hg] at hb; cases hb) rfl
      · cases h

/-- A name that cannot be an array changes nothing. -/
theorem arrayId_error {name : String} {s s' : Scope} {fault : Fault}
    (h : arrayId name s = .error fault s') : s' = s := by
  unfold arrayId at h
  split at h
  · cases h
  · dsimp only at h
    split at h <;> cases h
  · cases h
    rfl
  · split at h
    · cases h
      rfl
    · split at h <;> cases h
      rfl

/-! ## All accesses -/

/-- What an access does to the names and the arrays of a scope. -/
inductive Effect (s : Scope) : Scope → Prop where
  | none {s' : Scope} : SameNames s s' → Effect s s'
  | assigned (name : String) (v : Value) :
      (∀ id, s.assigned? name ≠ some (.array id)) → Effect s (s.bind name (.scalar v))
  | resolved {name : String} {id : Nat} {s₁ : Scope} :
      Resolved name s id s₁ → Effect s s₁
  | changed {name : String} {id : Nat} {s₁ : Scope} (f : Table → Table) :
      Resolved name s id s₁ → Effect s { s₁ with arena := s₁.arena.modify id f }

/-- An operation that first asks for an array, from what it does with the answer. -/
theorem effect_arrayId_bind {α : Type} {name : String} {k : Nat → Op α} {s : Scope}
    (hk : ∀ id s₁, (∃ f, after (k id) s₁ = { s₁ with arena := s₁.arena.modify id f }) ∨
      after (k id) s₁ = s₁) :
    Effect s (after (arrayId name >>= k) s) := by
  cases h : arrayId name s with
  | error fault s₁ =>
    rw [after_bind_of_error h, arrayId_error h]
    exact .none (.refl s)
  | ok id s₁ =>
    rw [after_bind_of_ok h]
    rcases hk id s₁ with ⟨f, hf⟩ | hf
    · rw [hf]
      exact .changed f (arrayId_resolved h)
    · rw [hf]
      exact .resolved (arrayId_resolved h)

theorem setVar_effect (name : String) (v : Value) (s : Scope) :
    Effect s (after (setVar name v) s) := by
  unfold setVar
  split
  · next special _ => exact .none (setSpecial_sameNames special v s)
  · unfold after
    split
    · next h =>
      dsimp only at h
      split at h
      · cases h
      · next hna =>
        cases h
        exact .assigned name v fun id hid => hna id hid
    · next h =>
      dsimp only at h
      split at h
      · cases h
        exact .none (.refl s)
      · cases h

theorem getVar_after (name : String) (s : Scope) : after (getVar name) s = s := by
  unfold after getVar
  cases s.value name <;> rfl

theorem Access.effect {α : Type} (a : Access α) (s : Scope) : Effect s (after a.op s) := by
  cases a with
  | getVar name =>
    rw [Access.op, getVar_after]
    exact .none (.refl s)
  | setVar name v => exact setVar_effect name v s
  | arrayId name =>
    show Effect s (after (Scope.arrayId name) s)
    cases h : Scope.arrayId name s with
    | ok id s₁ =>
      rw [after_of_ok h]
      exact .resolved (arrayId_resolved h)
    | error fault s₁ =>
      rw [after_of_error h, arrayId_error h]
      exact .none (.refl s)
  | getElement array key =>
    refine effect_arrayId_bind fun id s₁ => ?_
    rw [after_bind_of_ok (get_run s₁)]
    cases h : (s₁.table id)[key]? with
    | some v => exact .inr rfl
    | none => exact .inl ⟨fun t => t.insert key .uninit, rfl⟩
  | setElement array key v => exact effect_arrayId_bind fun _ _ => .inl ⟨_, rfl⟩
  | deleteElement array key => exact effect_arrayId_bind fun _ _ => .inl ⟨_, rfl⟩
  | clearArray array => exact effect_arrayId_bind fun _ _ => .inl ⟨_, rfl⟩
  | arrayKeys array => exact effect_arrayId_bind fun _ _ => .inr rfl
  | hasElement array key => exact effect_arrayId_bind fun _ _ => .inr rfl
  | arraySize array => exact effect_arrayId_bind fun _ _ => .inr rfl

/-! ## What accesses leave alone

Special variables, the record and what the separators are made into have fields of their own.
No access touches these unless it assigns to a special variable. -/

/-- At most names and arrays differ. -/
def OnlyNames (s s' : Scope) : Prop :=
  ∃ globals frames arena, s' = { s with globals, frames, arena }

theorem OnlyNames.refl (s : Scope) : OnlyNames s s := ⟨s.globals, s.frames, s.arena, rfl⟩

theorem OnlyNames.trans {s₁ s₂ s₃ : Scope} (h : OnlyNames s₁ s₂) (h' : OnlyNames s₂ s₃) :
    OnlyNames s₁ s₃ := by
  obtain ⟨globals, frames, arena, rfl⟩ := h
  obtain ⟨globals', frames', arena', rfl⟩ := h'
  exact ⟨globals', frames', arena', rfl⟩

theorem arrayId_onlyNames (name : String) (s : Scope) : OnlyNames s (after (arrayId name) s) := by
  cases h : arrayId name s with
  | ok id s₁ =>
    rw [after_of_ok h]
    cases arrayId_resolved h with
    | found => exact .refl s
    | inFrame => exact ⟨s.globals, _, _, rfl⟩
    | asGlobal => exact ⟨_, s.frames, _, rfl⟩
  | error fault s₁ =>
    rw [after_of_error h, arrayId_error h]
    exact .refl s

theorem onArray_onlyNames {α : Type} (name : String) {k : Nat → Op α}
    (hk : ∀ id s, OnlyNames s (after (k id) s)) (s : Scope) :
    OnlyNames s (after (arrayId name >>= k) s) :=
  after_bind_trans (fun _ _ _ => .trans) (arrayId_onlyNames name) hk s

theorem bind_onlyNames (name : String) (b : Binding) (s : Scope) :
    OnlyNames s (s.bind name b) := by
  unfold bind
  split
  · exact ⟨_, s.frames, s.arena, rfl⟩
  · exact ⟨s.globals, _, s.arena, rfl⟩

theorem modifyTable_onlyNames (id : Nat) (f : Table → Table) (s : Scope) :
    OnlyNames s (after (modifyTable id f) s) :=
  ⟨s.globals, s.frames, _, rfl⟩

theorem popFrame_onlyNames (s : Scope) : OnlyNames s s.popFrame := by
  unfold popFrame
  split
  · exact .refl s
  · exact ⟨s.globals, _, _, rfl⟩

theorem popAll_onlyNames (s : Scope) : OnlyNames s s.popAll := by
  have hall : ∀ (frames : List Frame) (s : Scope),
      OnlyNames s (frames.foldl (fun s _ => s.popFrame) s) := by
    intro frames
    induction frames with
    | nil => exact .refl
    | cons frame rest ih => exact fun s => (popFrame_onlyNames s).trans (ih s.popFrame)
  exact hall s.frames s

theorem setArgs_after (args : List String) (s : Scope) :
    ∃ globals arena argc, s.setArgs args = { s with globals, arena, argc } := by
  unfold setArgs
  dsimp only
  split <;> exact ⟨_, _, _, rfl⟩

/-- The special variable to which an access assigns. -/
def Access.special? {α : Type} : Access α → Option Special
  | setVar name _ => Special.ofName? name
  | _ => none

theorem setVar_onlyNames {name : String} (hname : Special.ofName? name = none) (v : Value)
    (s : Scope) : OnlyNames s (after (setVar name v) s) := by
  simp only [setVar, hname]
  cases hassigned : s.assigned? name with
  | none =>
    simp only [after, hassigned]
    exact bind_onlyNames name (.scalar v) s
  | some b =>
    cases b with
    | scalar u =>
      simp only [after, hassigned]
      exact bind_onlyNames name (.scalar v) s
    | array id =>
      simp only [after, hassigned]
      exact .refl s

theorem Access.onlyNames {α : Type} {a : Access α} (ha : a.special? = none) (s : Scope) :
    OnlyNames s (after a.op s) := by
  cases a with
  | getVar name =>
    rw [Access.op, getVar_after]
    exact .refl s
  | setVar name v => exact setVar_onlyNames ha v s
  | arrayId name => exact arrayId_onlyNames name s
  | getElement array key =>
    refine onArray_onlyNames array (fun id s => ?_) s
    rw [after_bind_of_ok (get_run s)]
    cases (s.table id)[key]? with
    | some v => exact .refl s
    | none => exact ⟨s.globals, s.frames, _, rfl⟩
  | setElement | deleteElement | clearArray =>
    exact onArray_onlyNames _ (fun id s => modifyTable_onlyNames id _ s) s
  | arrayKeys | hasElement | arraySize =>
    refine onArray_onlyNames _ (fun id s => ?_) s
    exact .refl s

end Scope
end Awk
