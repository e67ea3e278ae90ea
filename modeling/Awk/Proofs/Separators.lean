import Awk.Proofs.Access
import Awk.Proofs.PatternSize

/-!
# Separators and what they are made into

A scope keeps the field and the record separator twice: as the texts that a program assigns,
and as the splitter and the separator made from them.  Making the splitter looks at
`IGNORECASE` as well, and compiles a pattern, which can fail.  `separators_follow` says what
is left of the agreement of both after any history, failed operations included, and whatever
patterns can be compiled.  `FS` and `RS` are made into something before they are stored, so
that an assignment to them that fails changes nothing.  `IGNORECASE` is stored first: if it
fails, the splitter stays that of the other setting until an assignment to `FS` or
`IGNORECASE` goes through (`ignoreCase_kept_after_failure`).
-/

namespace Awk

/-- A way to compile a pattern, with case ignored or not. -/
abbrev Compiler := String → Bool → Except RegexFault Regex

/-! ## With any compiler

The functions that compile a separator, with the compiler as a parameter. -/

def FieldSplitter.ofSeparatorBy (compile : Compiler) (fs : String) (ignoreCase : Bool) :
    Except Fault FieldSplitter :=
  let regexOf (pattern : String) : Except Fault FieldSplitter :=
    match compile pattern ignoreCase with
    | .ok re => .ok (.regex re)
    | .error cause => .error (.fieldSeparator fs cause)
  match fs.toList with
  | [] => .ok .characters
  | [c] =>
    if c = ' ' then .ok .blanks
    else if c = '\\' || (ignoreCase && Text.isAlphabetic c) then regexOf (Regex.quote fs)
    else .ok (.literal c)
  | _ => regexOf fs

theorem FieldSplitter.ofSeparatorBy_blank (compile : Compiler) (ignoreCase : Bool) :
    FieldSplitter.ofSeparatorBy compile " " ignoreCase = .ok .blanks := by
  have hchars : " ".toList = [' '] := rfl
  rw [ofSeparatorBy]
  simp only [hchars, if_true]

def RecordSeparator.ofSeparatorBy (compile : Compiler) (rs : String) :
    Except Fault RecordSeparator :=
  match rs.toList with
  | [] => .ok .paragraph
  | [c] => .ok (.char c)
  | _ =>
    match compile rs false with
    | .ok re => .ok (.regex re)
    | .error cause => .error (.recordSeparator rs cause)

theorem RecordSeparator.ofSeparatorBy_newline (compile : Compiler) :
    RecordSeparator.ofSeparatorBy compile "\n" = .ok (.char '\n') := by
  have hchars : "\n".toList = ['\n'] := rfl
  rw [ofSeparatorBy]
  simp only [hchars]

/-! Two characters and more are a pattern. -/

theorem FieldSplitter.ofSeparator_of_ok {fs : String} {c d : Char} {rest : List Char}
    {ignoreCase : Bool} {re : Regex} (h : fs.toList = c :: d :: rest)
    (hre : Regex.compile fs ignoreCase = .ok re) :
    FieldSplitter.ofSeparator fs ignoreCase = .ok (.regex re) := by
  rw [ofSeparator]
  simp only [h, hre]

theorem FieldSplitter.ofSeparator_of_error {fs : String} {c d : Char} {rest : List Char}
    {ignoreCase : Bool} {cause : RegexFault} (h : fs.toList = c :: d :: rest)
    (hcause : Regex.compile fs ignoreCase = .error cause) :
    FieldSplitter.ofSeparator fs ignoreCase = .error (.fieldSeparator fs cause) := by
  rw [ofSeparator]
  simp only [h, hcause]

namespace Scope

def setFieldSeparatorBy (compile : Compiler) (fs : String) : Op Unit := fun s =>
  match FieldSplitter.ofSeparatorBy compile fs s.ignoresCase with
  | .ok splitter => .ok () { s with fs, splitter }
  | .error fault => .error fault s

def setIgnoreCaseBy (compile : Compiler) (v : Value) : Op Unit := fun s =>
  match FieldSplitter.ofSeparatorBy compile s.fs v.isTruthy with
  | .ok splitter => .ok () { s with ignoreCase := v, splitter }
  | .error fault => .error fault { s with ignoreCase := v }

def setRecordSeparatorBy (compile : Compiler) (rs : String) : Op Unit := fun s =>
  match RecordSeparator.ofSeparatorBy compile rs with
  | .ok separator => .ok () { s with rs, separator }
  | .error fault => .error fault s

def setSpecialBy (compile : Compiler) (name : Special) (v : Value) : Op Unit :=
  match name with
  | .fs => fun s => setFieldSeparatorBy compile (v.toText s.convfmt) s
  | .ignoreCase => setIgnoreCaseBy compile v
  | .rs => fun s => setRecordSeparatorBy compile (v.toText s.convfmt) s
  | name => setSpecial name v

def setVarBy (compile : Compiler) (name : String) (v : Value) : Op Unit :=
  match Special.ofName? name with
  | some special => setSpecialBy compile special v
  | none => setVar name v

theorem setSpecialBy_compile (name : Special) (v : Value) :
    setSpecialBy Regex.compile name v = setSpecial name v := by
  cases name <;> rfl

theorem setVarBy_compile (name : String) (v : Value) :
    setVarBy Regex.compile name v = setVar name v := by
  unfold setVarBy
  split
  · next special h => rw [setSpecialBy_compile, setVar, h]
  · rfl

def Access.opBy {α : Type} (compile : Compiler) : Access α → Op α
  | setVar name v => setVarBy compile name v
  | a => a.op

theorem Access.opBy_compile {α : Type} (a : Access α) : a.opBy Regex.compile = a.op := by
  cases a with
  | setVar name v => exact setVarBy_compile name v
  | _ => rfl

/-- Only an assignment to a special variable compiles a pattern. -/
theorem Access.opBy_of_special?_eq_none {α : Type} {a : Access α} (ha : a.special? = none)
    (compile : Compiler) : a.opBy compile = a.op := by
  cases a with
  | setVar name v =>
    change Special.ofName? name = none at ha
    show setVarBy compile name v = Scope.setVar name v
    simp only [setVarBy, ha]
  | _ => rfl

/-! ## Histories -/

/-- What can be done to a scope: the accesses of a program by name, and what an evaluator
does on the side. -/
inductive Operation where
  | access {α : Type} (a : Access α)
  | newArray
  | changeTable (id : Nat) (f : Table → Table)
  | push (bindings : List (String × Binding)) (owned : List Nat)
  | pop
  | setRecord (text : String)
  | setField (i : Nat) (text : String)
  | setArgs (args : List String)
  | openInput (filename : String)
  | countRecord
  | noteMatch (rstart rlength : Double)

namespace Operation

def opBy (compile : Compiler) : Operation → Op Unit
  | access a => do let _ ← a.opBy compile
  | newArray => do let _ ← Scope.newArray
  | changeTable id f => modifyTable id f
  | push bindings owned => modify (pushFrame bindings owned)
  | pop => modify popFrame
  | setRecord text => modify (Scope.setRecord text)
  | setField i text => modify (Scope.setField i text)
  | setArgs args => modify (Scope.setArgs args)
  | openInput filename => modify fun s => { s with filename, fnr := 0, fnrExact := 0 }
  | countRecord => modify fun s =>
    { s with nr := s.nr + 1, fnr := s.fnr + 1
             nrExact := s.nrExact + 1, fnrExact := s.fnrExact + 1 }
  | noteMatch rstart rlength => modify fun s => { s with rstart, rlength }

/-- The variable with a meaning of its own to which an operation assigns. -/
def assigned? : Operation → Option Special
  | access a => a.special?
  | _ => none

def Fails (compile : Compiler) (o : Operation) (s : Scope) : Prop :=
  ∃ fault s', o.opBy compile s = .error fault s'

end Operation

/-- The scope behind a history, whose latest operation stands first. -/
def behindBy (compile : Compiler) (s : Scope) : List Operation → Scope
  | [] => s
  | o :: earlier => after (o.opBy compile) (behindBy compile s earlier)

/-- An assignment to `IGNORECASE` has failed, and none to it or to `FS` has gone through
since. -/
def Lapsed (compile : Compiler) (s : Scope) : List Operation → Prop
  | [] => False
  | o :: earlier =>
    if o.assigned? = some .ignoreCase then o.Fails compile (behindBy compile s earlier)
    else if o.assigned? = some .fs then
      o.Fails compile (behindBy compile s earlier) ∧ Lapsed compile s earlier
    else Lapsed compile s earlier

/-! ## What leaves the separators alone -/

/-- Two scopes with the same separators and what they are made into. -/
structure SameSeparators (s s' : Scope) : Prop where
  fs : s'.fs = s.fs
  ignoreCase : s'.ignoreCase = s.ignoreCase
  splitter : s'.splitter = s.splitter
  rs : s'.rs = s.rs
  separator : s'.separator = s.separator

namespace SameSeparators

theorem refl (s : Scope) : SameSeparators s s := ⟨rfl, rfl, rfl, rfl, rfl⟩

theorem onlyNames {s s' : Scope} (h : OnlyNames s s') : SameSeparators s s' := by
  obtain ⟨globals, frames, arena, rfl⟩ := h
  exact ⟨rfl, rfl, rfl, rfl, rfl⟩

theorem setField (i : Nat) (text : String) (s : Scope) :
    SameSeparators s (s.setField i text) := by
  unfold Scope.setField
  split <;> exact ⟨rfl, rfl, rfl, rfl, rfl⟩

theorem setArgs (args : List String) (s : Scope) : SameSeparators s (s.setArgs args) := by
  obtain ⟨globals, arena, argc, h⟩ := setArgs_after args s
  exact h ▸ ⟨rfl, rfl, rfl, rfl, rfl⟩

theorem setSpecialBy {compile : Compiler} {special : Special} {v : Value} {s : Scope}
    (hfs : special ≠ .fs) (hcase : special ≠ .ignoreCase) (hrs : special ≠ .rs) :
    SameSeparators s (after (Scope.setSpecialBy compile special v) s) := by
  cases special with
  | fs => exact absurd rfl hfs
  | ignoreCase => exact absurd rfl hcase
  | rs => exact absurd rfl hrs
  | nf =>
    obtain ⟨record, h⟩ := setFieldCount_after v.toNumber s
    exact (show after (Scope.setSpecialBy compile .nf v) s = _ from h) ▸ ⟨rfl, rfl, rfl, rfl, rfl⟩
  | _ => exact ⟨rfl, rfl, rfl, rfl, rfl⟩

end SameSeparators

theorem Operation.opBy_access {α : Type} (compile : Compiler) (a : Access α) (s : Scope) :
    after ((Operation.access a).opBy compile) s = after (a.opBy compile) s := by
  show after (a.opBy compile >>= fun _ => pure ()) s = _
  cases h : a.opBy compile s with
  | ok x s₁ =>
    rw [after_bind_of_ok h, after_of_ok h]
    rfl
  | error fault s₁ => rw [after_bind_of_error h, after_of_error h]

/-- What assigns to a special variable is that assignment. -/
theorem Operation.opBy_of_assigned (compile : Compiler) {o : Operation} {special : Special}
    (h : o.assigned? = some special) :
    ∃ v, ∀ s, o.opBy compile s = setSpecialBy compile special v s := by
  cases o with
  | access a =>
    cases a with
    | setVar name v =>
      change Special.ofName? name = some special at h
      refine ⟨v, fun s => ?_⟩
      show (Scope.setVarBy compile name v >>= fun _ => pure ()) s = _
      simp only [bind_run, Scope.setVarBy, h]
      cases setSpecialBy compile special v s <;> rfl
    | _ => cases h
  | _ => cases h

/-- Only assignments to `FS`, `IGNORECASE` and `RS` touch the separators. -/
theorem Operation.sameSeparators {compile : Compiler} {o : Operation} {s : Scope}
    (hfs : o.assigned? ≠ some .fs) (hcase : o.assigned? ≠ some .ignoreCase)
    (hrs : o.assigned? ≠ some .rs) : SameSeparators s (after (o.opBy compile) s) := by
  cases hassigned : o.assigned? with
  | some special =>
    obtain ⟨v, hv⟩ := Operation.opBy_of_assigned compile hassigned
    rw [hassigned] at hfs hcase hrs
    rw [after_congr (hv s)]
    exact .setSpecialBy (fun h => hfs (h ▸ rfl)) (fun h => hcase (h ▸ rfl))
      fun h => hrs (h ▸ rfl)
  | none =>
    cases o with
    | access a =>
      rw [Operation.opBy_access, Access.opBy_of_special?_eq_none hassigned]
      exact .onlyNames (Access.onlyNames hassigned s)
    | pop => exact .onlyNames (popFrame_onlyNames s)
    | setField i text => exact .setField i text s
    | setArgs args => exact .setArgs args s
    | _ => exact ⟨rfl, rfl, rfl, rfl, rfl⟩

/-! ## Assignments that fail -/

/-- A special variable that cannot be set is as before, but for `IGNORECASE`. -/
theorem setSpecialBy_error {compile : Compiler} {name : Special} {v : Value} {fault : Fault}
    {s s' : Scope} (h : setSpecialBy compile name v s = .error fault s') :
    s' = if name = .ignoreCase then { s with ignoreCase := v } else s := by
  cases name with
  | nf =>
    change setFieldCount v.toNumber s = _ at h
    unfold setFieldCount at h
    by_cases hneg : v.toNumber < 0.0
    · simp only [hneg, if_true] at h
      cases h
      rfl
    · by_cases hmax : Double.ofNat maxFields < v.toNumber
      · simp only [hneg, hmax, if_true, if_false] at h
        cases h
        rfl
      · simp only [hneg, hmax, if_false] at h
        cases h
  | fs =>
    change setFieldSeparatorBy compile (v.toText s.convfmt) s = _ at h
    cases hmade : FieldSplitter.ofSeparatorBy compile (v.toText s.convfmt) s.ignoresCase with
    | ok splitter =>
      simp only [setFieldSeparatorBy, hmade, reduceCtorEq] at h
    | error cause =>
      simp only [setFieldSeparatorBy, hmade, EStateM.Result.error.injEq] at h
      exact h.2.symm
  | ignoreCase =>
    change setIgnoreCaseBy compile v s = _ at h
    cases hmade : FieldSplitter.ofSeparatorBy compile s.fs v.isTruthy with
    | ok splitter => simp only [setIgnoreCaseBy, hmade, reduceCtorEq] at h
    | error cause =>
      simp only [setIgnoreCaseBy, hmade, EStateM.Result.error.injEq] at h
      exact h.2.symm
  | rs =>
    change setRecordSeparatorBy compile (v.toText s.convfmt) s = _ at h
    cases hmade : RecordSeparator.ofSeparatorBy compile (v.toText s.convfmt) with
    | ok separator => simp only [setRecordSeparatorBy, hmade, reduceCtorEq] at h
    | error cause =>
      simp only [setRecordSeparatorBy, hmade, EStateM.Result.error.injEq] at h
      exact h.2.symm
  | _ =>
    change EStateM.Result.ok () _ = _ at h
    cases h

theorem setVarBy_error {compile : Compiler} {name : String} {v : Value} {fault : Fault}
    {s s' : Scope} (h : setVarBy compile name v s = .error fault s') :
    s' = if name = "IGNORECASE" then { s with ignoreCase := v } else s := by
  cases hname : Special.ofName? name with
  | some special =>
    simp only [setVarBy, hname] at h
    have hiff : special = .ignoreCase ↔ name = "IGNORECASE" := by
      rw [Special.eq_name_of_ofName? hname]
      cases special <;> decide
    rw [setSpecialBy_error h]
    simp only [hiff]
  | none =>
    have hne : name ≠ "IGNORECASE" := by
      rintro rfl
      revert hname
      decide
    rw [if_neg hne]
    simp only [setVarBy, setVar, hname] at h
    split at h
    · cases h
      rfl
    · cases h

/-! ## After any history -/

/-- How the separators of a scope agree with what they are made into.  A splitter that has
lapsed is that of the other setting of `IGNORECASE`, and there is none for the setting that
holds. -/
structure Agrees (compile : Compiler) (s : Scope) (lapsed : Prop) : Prop where
  separator : RecordSeparator.ofSeparatorBy compile s.rs = .ok s.separator
  current : ¬lapsed → FieldSplitter.ofSeparatorBy compile s.fs s.ignoresCase = .ok s.splitter
  other : lapsed →
    (∃ fault, FieldSplitter.ofSeparatorBy compile s.fs s.ignoresCase = .error fault) ∧
      FieldSplitter.ofSeparatorBy compile s.fs (!s.ignoresCase) = .ok s.splitter

namespace Agrees

variable {compile : Compiler} {s s' : Scope} {lapsed : Prop}

theorem congr (h : SameSeparators s s') (hs : Agrees compile s lapsed) :
    Agrees compile s' lapsed := by
  obtain ⟨hfs, hcase, hsplitter, hrs, hseparator⟩ := h
  have hignores : s'.ignoresCase = s.ignoresCase := by rw [ignoresCase, hcase, ignoresCase]
  exact ⟨by rw [hrs, hseparator]; exact hs.separator,
    by rw [hfs, hignores, hsplitter]; exact hs.current,
    by rw [hfs, hignores, hsplitter]; exact hs.other⟩

/-- The one form that the field separator has is that of the splitter. -/
theorem eq_ignoresCase_not (hs : Agrees compile s lapsed) {b : Bool} {fault : Fault}
    (hb : FieldSplitter.ofSeparatorBy compile s.fs b = .error fault) :
    FieldSplitter.ofSeparatorBy compile s.fs (!b) = .ok s.splitter := by
  by_cases hlapsed : lapsed
  · have hother := (hs.other hlapsed).2
    cases b <;> cases hcase : s.ignoresCase <;> rw [hcase] at hother <;> simp_all
  · have hcurrent := hs.current hlapsed
    cases b <;> cases hcase : s.ignoresCase <;> rw [hcase] at hcurrent <;> simp_all

/-- Making the field separator into a splitter again mends it. -/
theorem mend (hs : Agrees compile s lapsed) (hrs : s'.rs = s.rs)
    (hseparator : s'.separator = s.separator)
    (hmade : FieldSplitter.ofSeparatorBy compile s'.fs s'.ignoresCase = .ok s'.splitter) :
    Agrees compile s' False :=
  ⟨by rw [hrs, hseparator]; exact hs.separator, fun _ => hmade, False.elim⟩

theorem setFieldSeparator (hs : Agrees compile s lapsed) (fs : String) :
    Agrees compile (after (setFieldSeparatorBy compile fs) s)
      ((∃ fault s', setFieldSeparatorBy compile fs s = .error fault s') ∧ lapsed) := by
  cases hmade : FieldSplitter.ofSeparatorBy compile fs s.ignoresCase with
  | ok splitter =>
    have hrun : setFieldSeparatorBy compile fs s = .ok () { s with fs, splitter } := by
      rw [setFieldSeparatorBy, hmade]
    have hmended : Agrees compile { s with fs, splitter } False := hs.mend rfl rfl hmade
    rw [after_of_ok hrun]
    simpa [hrun] using hmended
  | error fault =>
    have hrun : setFieldSeparatorBy compile fs s = .error fault s := by
      rw [setFieldSeparatorBy, hmade]
    rw [after_of_error hrun]
    simpa [hrun] using hs

theorem setIgnoreCase (hs : Agrees compile s lapsed) (v : Value) :
    Agrees compile (after (setIgnoreCaseBy compile v) s)
      (∃ fault s', setIgnoreCaseBy compile v s = .error fault s') := by
  cases hmade : FieldSplitter.ofSeparatorBy compile s.fs v.isTruthy with
  | ok splitter =>
    have hrun : setIgnoreCaseBy compile v s = .ok () { s with ignoreCase := v, splitter } := by
      rw [setIgnoreCaseBy, hmade]
    have hmended : Agrees compile { s with ignoreCase := v, splitter } False :=
      hs.mend rfl rfl hmade
    rw [after_of_ok hrun]
    simpa [hrun] using hmended
  | error fault =>
    have hrun : setIgnoreCaseBy compile v s = .error fault { s with ignoreCase := v } := by
      rw [setIgnoreCaseBy, hmade]
    rw [after_of_error hrun]
    exact ⟨hs.separator, fun h => absurd ⟨fault, _, hrun⟩ h,
      fun _ => ⟨⟨fault, hmade⟩, hs.eq_ignoresCase_not hmade⟩⟩

theorem setRecordSeparator (hs : Agrees compile s lapsed) (rs : String) :
    Agrees compile (after (setRecordSeparatorBy compile rs) s) lapsed := by
  cases hmade : RecordSeparator.ofSeparatorBy compile rs with
  | ok separator =>
    have hrun : setRecordSeparatorBy compile rs s = .ok () { s with rs, separator } := by
      rw [setRecordSeparatorBy, hmade]
    rw [after_of_ok hrun]
    exact ⟨hmade, hs.current, hs.other⟩
  | error fault =>
    have hrun : setRecordSeparatorBy compile rs s = .error fault s := by
      rw [setRecordSeparatorBy, hmade]
    rw [after_of_error hrun]
    exact hs

/-- One more operation. -/
theorem step {s₀ : Scope} {o : Operation} {earlier : List Operation}
    (hs : Agrees compile (behindBy compile s₀ earlier) (Lapsed compile s₀ earlier)) :
    Agrees compile (behindBy compile s₀ (o :: earlier)) (Lapsed compile s₀ (o :: earlier)) := by
  simp only [behindBy, Lapsed, Operation.Fails]
  by_cases hcase : o.assigned? = some .ignoreCase
  · obtain ⟨v, hv⟩ := Operation.opBy_of_assigned compile hcase
    rw [if_pos hcase, after_congr (hv _), hv]
    exact hs.setIgnoreCase v
  · rw [if_neg hcase]
    by_cases hfs : o.assigned? = some .fs
    · obtain ⟨v, hv⟩ := Operation.opBy_of_assigned compile hfs
      rw [if_pos hfs, after_congr (hv _), hv]
      exact hs.setFieldSeparator _
    · rw [if_neg hfs]
      by_cases hrs : o.assigned? = some .rs
      · obtain ⟨v, hv⟩ := Operation.opBy_of_assigned compile hrs
        rw [after_congr (hv _)]
        exact hs.setRecordSeparator _
      · exact hs.congr (Operation.sameSeparators hfs hcase hrs)

end Agrees

theorem initial_agrees (compile : Compiler) (environment : List (String × String)) :
    Agrees compile (initial environment) False := by
  unfold initial
  refine Agrees.congr (SameSeparators.setArgs _ _) ?_
  exact ⟨RecordSeparator.ofSeparatorBy_newline compile,
    fun _ => FieldSplitter.ofSeparatorBy_blank compile _, False.elim⟩

theorem behindBy_agrees (compile : Compiler) (environment : List (String × String))
    (history : List Operation) :
    Agrees compile (behindBy compile (initial environment) history)
      (Lapsed compile (initial environment) history) := by
  induction history with
  | nil => exact initial_agrees compile environment
  | cons o earlier ih => exact ih.step

/-- After any history, failed operations included, and with any compiler of patterns: the
record separator is what `RS` makes; the splitter is what `FS` and `IGNORECASE` make, unless
it has lapsed; and an assignment that fails changes nothing but, if it is to `IGNORECASE`,
that setting.  The accesses of a program are those with the compiler of patterns. -/
theorem separators_follow (compile : Compiler) (environment : List (String × String))
    (history : List Operation) :
    let s := behindBy compile (initial environment) history
    let lapsed := Lapsed compile (initial environment) history
    RecordSeparator.ofSeparatorBy compile s.rs = .ok s.separator ∧
      (FieldSplitter.ofSeparatorBy compile s.fs s.ignoresCase = .ok s.splitter ↔ ¬lapsed) ∧
      (lapsed → FieldSplitter.ofSeparatorBy compile s.fs (!s.ignoresCase) = .ok s.splitter) ∧
      (∀ name v fault s', setVarBy compile name v s = .error fault s' →
        s' = if name = "IGNORECASE" then { s with ignoreCase := v } else s) ∧
      ∀ (α : Type) (a : Access α), a.opBy Regex.compile = a.op := by
  have hagrees := behindBy_agrees compile environment history
  refine ⟨hagrees.separator, ⟨fun hmade hlapsed => ?_, hagrees.current⟩,
    fun hlapsed => (hagrees.other hlapsed).2, fun _ _ _ _ h => setVarBy_error h,
    fun _ a => a.opBy_compile⟩
  obtain ⟨⟨fault, hfault⟩, -⟩ := hagrees.other hlapsed
  rw [hmade] at hfault
  cases hfault

theorem ofText_toText (s format : String) : (Value.ofText s).toText format = s := by
  unfold Value.ofText
  split <;> rfl

theorem setVar_fs_of_ok {fs : String} {s : Scope} {splitter : FieldSplitter}
    (h : FieldSplitter.ofSeparator fs s.ignoresCase = .ok splitter) :
    setVar "FS" (.ofText fs) s = .ok () { s with fs, splitter } := by
  have hname : Special.ofName? "FS" = some .fs := by decide
  simp only [setVar, hname]
  show setFieldSeparator ((Value.ofText fs).toText s.convfmt) s = _
  rw [ofText_toText, setFieldSeparator, h]

theorem setVar_ignoreCase_of_error {v : Value} {s : Scope} {fault : Fault}
    (h : FieldSplitter.ofSeparator s.fs v.isTruthy = .error fault) :
    setVar "IGNORECASE" v s = .error fault { s with ignoreCase := v } := by
  have hname : Special.ofName? "IGNORECASE" = some .ignoreCase := by decide
  simp only [setVar, hname]
  show setIgnoreCase v s = _
  simp only [setIgnoreCase, ignoresCase, h]

theorem value_ignoreCase (s : Scope) : s.value "IGNORECASE" = .ok s.ignoreCase := by
  have hname : Special.ofName? "IGNORECASE" = some .ignoreCase := by decide
  simp only [value, hname, special]

theorem initial_ignoreCase (environment : List (String × String)) :
    (initial environment).ignoreCase = .num 0.0 :=
  (SameSeparators.setArgs _ _).ignoreCase

/-- Where the field separator has a form only if case is not ignored, the setting that was
refused holds all the same. -/
theorem exists_ignoreCase_kept {s : Scope} {fs : String} {splitter : FieldSplitter} {fault : Fault}
    (hcase : s.ignoreCase = .num 0.0) (hmade : FieldSplitter.ofSeparator fs false = .ok splitter)
    (hfails : FieldSplitter.ofSeparator fs true = .error fault) :
    ∃ s₁ fault s₂, setVar "FS" (.ofText fs) s = .ok () s₁ ∧
      setVar "IGNORECASE" (.num 1.0) s₁ = .error fault s₂ ∧
      s₁.value "IGNORECASE" = .ok (.num 0.0) ∧ s₂.value "IGNORECASE" = .ok (.num 1.0) ∧
      ∀ splitter, FieldSplitter.ofSeparator s₂.fs s₂.ignoresCase ≠ .ok splitter := by
  have hfalse : (Value.num 0.0).isTruthy = false := by decide
  have htrue : (Value.num 1.0).isTruthy = true := by decide
  rw [← hfalse, ← hcase] at hmade
  rw [← htrue] at hfails
  refine ⟨_, fault, _, setVar_fs_of_ok hmade, setVar_ignoreCase_of_error hfails, ?_,
    value_ignoreCase _, fun other h => ?_⟩
  · rw [value_ignoreCase, hcase]
  · cases hfails.symm.trans h

/-- The field separator matches the letter k many times in a row.  With both its cases the
pattern is too large, so the assignment to `IGNORECASE` fails; but the new setting holds,
with a splitter that `FS` does not make under it. -/
theorem ignoreCase_kept_after_failure :
    ∃ s fault s', setVar "FS" (.ofText "k\x7b300000\x7d") (initial []) = .ok () s ∧
      setVar "IGNORECASE" (.num 1.0) s = .error fault s' ∧
      s.value "IGNORECASE" = .ok (.num 0.0) ∧ s'.value "IGNORECASE" = .ok (.num 1.0) ∧
      ∀ splitter, FieldSplitter.ofSeparator s'.fs s'.ignoresCase ≠ .ok splitter := by
  obtain ⟨re, hre⟩ := Regex.exists_compile_k_repeated
  have hchars : "k\x7b300000\x7d".toList =
      'k' :: '\x7b' :: ['3', '0', '0', '0', '0', '0', '\x7d'] := rfl
  exact exists_ignoreCase_kept (initial_ignoreCase []) (FieldSplitter.ofSeparator_of_ok hchars hre)
    (FieldSplitter.ofSeparator_of_error hchars Regex.compile_k_repeated_caseless)

end Scope
end Awk
