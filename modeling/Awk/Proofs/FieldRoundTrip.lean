import Awk.Evaluation.Target
import Awk.Proofs.LiteralSearch
import Awk.Proofs.Separators

/-!
# Fields and the record they make

Splitting a text into fields and joining fields to a text undo each other.  So a record that was
made from its fields is divided into the same fields again, if the separator between fields is the
one at which they are found.
-/

namespace Awk

open Eval FieldSplitter

/-! ## Assignments to fields -/

/-- What an assignment to fields writes: one of them, or how many there are. -/
inductive FieldTarget where
  | field (i : Nat)
  | count

def FieldTarget.target : FieldTarget → Target
  | field i => .field i
  | count => .var "NF"

/-- Assignments to fields, one after the other. -/
def assignFields : List (FieldTarget × Value) → Eval Unit
  | [] => return ()
  | (t, v) :: later => do
    t.target.write v
    assignFields later

/-- The assignment of the record to itself. -/
def reassignRecord : Eval Unit := do
  let v ← (Target.field 0).read
  (Target.field 0).write v

/-- The record is what its fields make, or its fields are what it is divided into. -/
def Scope.Coherent (s : Scope) : Prop :=
  s.record.text = s.ofs.intercalate s.record.fields ∨ s.setRecord s.record.text = s

theorem Scope.setFieldCount_of_ok {n : Double} {s s' : Scope} (h : setFieldCount n s = .ok () s') :
    s' = { s with record := s.record.setFieldCount n.toNat64 s.ofs } := by
  unfold setFieldCount at h
  by_cases hneg : n < 0.0
  · simp only [hneg, if_true] at h
    cases h
  · by_cases hmax : Double.ofNat maxFields < n
    · simp only [hneg, hmax, if_true, if_false] at h
      cases h
    · simp only [hneg, hmax, if_false] at h
      cases h
      rfl

/-- One assignment changes nothing but the record. -/
theorem FieldTarget.write_coherent {t : FieldTarget} {v : Value} {m m' : Machine}
    (h : t.target.write v m = .ok () m') :
    (∃ record, m'.scope = { m.scope with record }) ∧ m'.scope.Coherent := by
  cases t with
  | field i =>
    obtain ⟨text, m₁, htext, hset⟩ := bind_ok_inv h
    rw [textOf, textUnder_run] at htext
    split at htext
    · cases htext
      cases hset
      cases i with
      | zero => exact ⟨⟨_, rfl⟩, .inr rfl⟩
      | succ i => exact ⟨⟨_, rfl⟩, .inl rfl⟩
    · cases htext
  | count =>
    change onScope (Scope.setFieldCount v.toNumber) m = .ok () m' at h
    unfold onScope at h
    split at h
    · next s hs =>
      cases h
      rw [Scope.setFieldCount_of_ok hs]
      exact ⟨⟨_, rfl⟩, .inl rfl⟩
    · cases h

theorem assignFields_coherent {assignments : List (FieldTarget × Value)} {m m' : Machine}
    (h : assignFields assignments m = .ok () m') :
    (∃ record, m'.scope = { m.scope with record }) ∧
      (assignments ≠ [] ∨ m.scope.Coherent → m'.scope.Coherent) := by
  induction assignments generalizing m with
  | nil =>
    cases h
    exact ⟨⟨m'.scope.record, rfl⟩, fun hsome => hsome.resolve_left fun hne => hne rfl⟩
  | cons assignment later ih =>
    obtain ⟨⟨⟩, m₁, hfirst, hlater⟩ := bind_ok_inv h
    obtain ⟨⟨record, hscope⟩, hcoherent⟩ := FieldTarget.write_coherent hfirst
    obtain ⟨⟨record', hscope'⟩, hcoherent'⟩ := ih hlater
    exact ⟨⟨record', by rw [hscope', hscope]⟩, fun _ => hcoherent' (.inr hcoherent)⟩

/-! ## The record that fields make -/

/-- Fields that can be found again in the text that they make with a character between them. -/
def Rejoin (c : Char) (fields : List String) : Prop :=
  if c = ' ' then ∀ field ∈ fields, field ≠ "" ∧ ∀ d ∈ field.toList, isBlank d = false
  else fields ≠ [""] ∧ ∀ field ∈ fields, c ∉ field.toList

instance (c : Char) (fields : List String) : Decidable (Rejoin c fields) :=
  inferInstanceAs (Decidable (if c = ' ' then _ else _))

theorem split_rejoined {c : Char} {ignoreCase : Bool}
    (hcase : (ignoreCase && Text.isAlphabetic c) = false) {s : FieldSplitter}
    (hs : ofSeparator (String.singleton c) ignoreCase = .ok s) {fields : List String}
    (h : Rejoin c fields) : s.split ((String.singleton c).intercalate fields) = fields := by
  by_cases hblank : c = ' '
  · subst hblank
    cases hs
    exact blanks_intercalate (by simpa [Rejoin] using h)
  · rw [Rejoin, if_neg hblank] at h
    rw [split_of_isLiteral ⟨hblank, hcase⟩ hs]
    exact literal_intercalate h.1 h.2

/-- A coherent record is divided into its fields. -/
theorem Scope.setRecord_of_coherent {s : Scope} {c : Char} (hofs : s.ofs = String.singleton c)
    (hparagraph : s.separator.isParagraph = false)
    (hcase : (s.ignoresCase && Text.isAlphabetic c) = false)
    (hsplitter : ofSeparator (String.singleton c) s.ignoresCase = .ok s.splitter)
    (hfields : Rejoin c s.record.fields) (hcoherent : s.Coherent) :
    s.setRecord s.record.text = s := by
  rcases hcoherent with hjoined | hdivided
  · have hsplit : s.splitter.split s.record.text = s.record.fields := by
      rw [hjoined, hofs]
      exact split_rejoined hcase hsplitter hfields
    simp only [setRecord, hparagraph, Bool.false_eq_true, if_false, hsplit]
  · exact hdivided

theorem reassignRecord_run (m : Machine) :
    reassignRecord m = .ok () { m with scope := m.scope.setRecord m.scope.record.text } := by
  have htext : textOf (m.scope.getField 0) m = .ok m.scope.record.text m := by
    have hends : (m.scope.getField 0).hasText m.scope.convfmt = true := Value.hasText_ofText _ _
    rw [textOf, textUnder_run, if_pos hends]
    exact congrArg (EStateM.Result.ok · m) (Scope.ofText_toText _ _)
  show (textOf (m.scope.getField 0) >>= fun text => modifyScope (Scope.setField 0 text)) m = _
  rw [bind_of_ok htext]
  rfl

/-! ## After any history -/

/-- A character that is not a letter whose case is ignored can always be a separator. -/
theorem exists_ofSeparator {c : Char} {ignoreCase : Bool}
    (hcase : (ignoreCase && Text.isAlphabetic c) = false) :
    ∃ s, ofSeparator (String.singleton c) ignoreCase = .ok s := by
  simp only [ofSeparator, String.toList_singleton, hcase, Bool.or_false, decide_eq_true_iff]
  by_cases hblank : c = ' '
  · exact ⟨.blanks, if_pos hblank⟩
  · rw [if_neg hblank]
    by_cases hslash : c = '\\'
    · subst hslash
      rw [if_pos rfl, show String.singleton '\\' = "\\" from rfl, Regex.compile_quote_backslash]
      exact ⟨_, rfl⟩
    · exact ⟨.literal c, if_neg hslash⟩

namespace Scope

variable {environment : List (String × String)} {history : List Operation} {s : Scope}

theorem ofSeparatorBy_compile (fs : String) (ignoreCase : Bool) :
    ofSeparatorBy Regex.compile fs ignoreCase = ofSeparator fs ignoreCase := by
  unfold ofSeparatorBy ofSeparator
  -- Else the compiler of patterns is unfolded to see that it is the same.
  generalize Regex.compile = compile
  rfl

theorem splitter_of_history (hs : s = behindBy Regex.compile (initial environment) history)
    {c : Char} (hfs : s.fs = String.singleton c)
    (hcase : (s.ignoresCase && Text.isAlphabetic c) = false) :
    ofSeparator (String.singleton c) s.ignoresCase = .ok s.splitter := by
  have hagrees := behindBy_agrees Regex.compile environment history
  rw [← hs] at hagrees
  rw [← hfs]
  by_cases hlapsed : Lapsed Regex.compile (initial environment) history
  · obtain ⟨⟨fault, hfault⟩, -⟩ := hagrees.other hlapsed
    obtain ⟨made, hmade⟩ := exists_ofSeparator hcase
    rw [ofSeparatorBy_compile, hfs, hmade] at hfault
    cases hfault
  · have hmade := hagrees.current hlapsed
    rwa [ofSeparatorBy_compile] at hmade

theorem isParagraph_of_history (hs : s = behindBy Regex.compile (initial environment) history)
    (hrs : s.rs ≠ "") : s.separator.isParagraph = false := by
  have hmade := (behindBy_agrees Regex.compile environment history).separator
  rw [← hs] at hmade
  unfold RecordSeparator.ofSeparatorBy at hmade
  split at hmade
  · next hnil => exact absurd (String.toList_eq_nil_iff.mp hnil) hrs
  · rw [← Except.ok.inj hmade]
    rfl
  · split at hmade
    · rw [← Except.ok.inj hmade]
      rfl
    · cases hmade

end Scope

/-- Outside of paragraph mode, with one character as the separator of fields in both directions and
unless it is a letter whose case is ignored, assignments to fields that can be found again leave a
record that may be assigned to itself without any effect. -/
theorem reassignRecord_idle {environment : List (String × String)} {history : List Scope.Operation}
    {m m' : Machine} {c : Char} {assignments : List (FieldTarget × Value)}
    (hm : m.scope = Scope.behindBy Regex.compile (.initial environment) history)
    (hfs : m.scope.fs = String.singleton c) (hofs : m.scope.ofs = String.singleton c)
    (hrs : m.scope.rs ≠ "") (hcase : (m.scope.ignoresCase && Text.isAlphabetic c) = false)
    (hrun : assignFields assignments m = .ok () m') (hsome : assignments ≠ [] ∨ m.scope.Coherent)
    (hfields : Rejoin c m'.scope.record.fields) : reassignRecord m' = .ok () m' := by
  obtain ⟨⟨record, hscope⟩, hcoherent⟩ := assignFields_coherent hrun
  have hsplitter := Scope.splitter_of_history hm hfs hcase
  have hparagraph := Scope.isParagraph_of_history hm hrs
  have hidle : m'.scope.setRecord m'.scope.record.text = m'.scope := by
    refine Scope.setRecord_of_coherent (c := c) ?_ ?_ ?_ ?_ hfields (hcoherent hsome)
    · rw [hscope]
      exact hofs
    · rw [hscope]
      exact hparagraph
    · rw [hscope]
      exact hcase
    · rw [hscope]
      exact hsplitter
  rw [reassignRecord_run, hidle]

/-! ## Both directions -/

/-- Splitting at a character and joining with it undo each other, as do splitting into characters
and putting these together, and splitting at blanks and joining with a blank.  So after assignments
to fields the record may be assigned to itself without any effect. -/
theorem splitting_undoes_joining :
    (∀ (c : Char) (text : String),
      (String.singleton c).intercalate ((literal c).split text) = text) ∧
    (∀ text : String, characters.split text = text.toList.map String.singleton ∧
      String.join (characters.split text) = text) ∧
    (∀ text : String, ∃ runs : List (Nat × Nat), runs.Pairwise (fun s t => s.2 < t.1) ∧
      (∀ i j, (i, j) ∈ runs ↔ i < j ∧ Text.IsMaximal isBlank text.toList i j) ∧
      blanks.split text = runs.map fun s => String.ofList (Text.part text.toList s)) ∧
    (∀ (c : Char) (fields : List String), fields ≠ [""] → (∀ field ∈ fields, c ∉ field.toList) →
      (literal c).split ((String.singleton c).intercalate fields) = fields) ∧
    (∀ fields : List String,
      (∀ field ∈ fields, field ≠ "" ∧ ∀ c ∈ field.toList, isBlank c = false) →
      blanks.split (" ".intercalate fields) = fields) ∧
    ∀ (environment : List (String × String)) (history : List Scope.Operation) (m m' : Machine)
      (c : Char) (assignments : List (FieldTarget × Value)),
      m.scope = Scope.behindBy Regex.compile (.initial environment) history →
      m.scope.fs = String.singleton c → m.scope.ofs = String.singleton c → m.scope.rs ≠ "" →
      (m.scope.ignoresCase && Text.isAlphabetic c) = false →
      assignFields assignments m = .ok () m' → assignments ≠ [] ∨ m.scope.Coherent →
      Rejoin c m'.scope.record.fields → reassignRecord m' = .ok () m' :=
  ⟨intercalate_literal, fun text => ⟨characters_split text, join_characters text⟩, blanks_runs,
    fun _ _ => literal_intercalate, fun _ => blanks_intercalate,
    fun _ _ _ _ _ _ => reassignRecord_idle⟩

/-- Assignments of a character to `FS` and `OFS`. -/
def separatedBy (c : Char) : List Scope.Operation :=
  [.access (.setVar "OFS" (.str (String.singleton c))),
    .access (.setVar "FS" (.str (String.singleton c)))]

/-- A record that grows by empty fields and one that is assigned. -/
theorem reassigned_after_growth :
    let m := { Machine.initial .empty with
      scope := Scope.behindBy Regex.compile (.initial []) (separatedBy ':') }
    ∃ m', assignFields [(.field 3, .str "v")] m = .ok () m' ∧
      m'.scope.record.fields = ["", "", "v"] ∧ reassignRecord m' = .ok () m' := by
  intro m
  have hfs : m.scope.fs = ":" := rfl
  have hofs : m.scope.ofs = ":" := rfl
  have hrs : m.scope.rs = "\n" := rfl
  have hcase : m.scope.ignoreCase = .num 0.0 := rfl
  have hrecord : m.scope.record = .empty := rfl
  have hfields : (m.scope.setField 3 "v").record.fields = ["", "", "v"] := by
    show (m.scope.record.setField 3 "v" m.scope.ofs).fields = _
    rw [hrecord]
    rfl
  refine ⟨{ m with scope := m.scope.setField 3 "v" }, rfl, hfields, ?_⟩
  refine splitting_undoes_joining.2.2.2.2.2 [] _ m _ ':' [(.field 3, .str "v")] rfl hfs hofs ?_ ?_
    rfl (.inl (List.cons_ne_nil _ _)) ?_
  · rw [hrs]
    decide
  · rw [Scope.ignoresCase, hcase]
    decide
  · show Rejoin ':' (m.scope.setField 3 "v").record.fields
    rw [hfields]
    decide

theorem Scope.setVar_ignoreCase_of_ok {v : Value} {s : Scope} {splitter : FieldSplitter}
    (h : ofSeparator s.fs v.isTruthy = .ok splitter) :
    setVar "IGNORECASE" v s = .ok () { s with ignoreCase := v, splitter } := by
  have hname : Special.ofName? "IGNORECASE" = some .ignoreCase := by decide
  simp only [setVar, hname]
  show setIgnoreCase v s = _
  simp only [setIgnoreCase, ignoresCase, h]

/-- A letter whose case is ignored. -/
theorem exists_splitter_x : ∃ splitter, ofSeparator "x" true = .ok splitter ∧
    splitter.split "aXb" = ["a", "b"] := by
  have hquoted : Regex.quote "x" = "x" := by decide
  have hletter : Text.isAlphabetic 'x' = true := by decide
  have hmade : (Regex.compile "x" true).toOption.map (·.split "aXb".toList) =
      some [['a'], ['b']] := by decide +kernel
  cases hre : Regex.compile "x" true with
  | error fault =>
    rw [hre] at hmade
    cases hmade
  | ok re =>
    rw [hre] at hmade
    refine ⟨.regex re, ?_, ?_⟩
    · have hchars : "x".toList = ['x'] := rfl
      simp only [ofSeparator, hchars, hletter, hquoted, hre]
      rfl
    · rw [split_eq_iff]
      exact Option.some.inj hmade

/-- Behind some assignments the fields could be found again at a character, but the assignment of
the record to itself changes how many there are. -/
def DividedAnew (assignments : Eval Unit) (c : Char) : Prop :=
  ∃ m m', assignments (Machine.initial .empty) = .ok () m ∧ m.scope.fs = String.singleton c ∧
    m.scope.ofs = String.singleton c ∧ Rejoin c m.scope.record.fields ∧
    reassignRecord m = .ok () m' ∧ m'.scope.record.fieldCount ≠ m.scope.record.fieldCount

/-- A field that holds the other case of a letter at which records are divided. -/
def assignCaselessly : Eval Unit := do
  onScope (Scope.setVar "IGNORECASE" (.num 1.0))
  onScope (Scope.setVar "FS" (.ofText "x"))
  onScope (Scope.setVar "OFS" (.ofText "x"))
  assignFields [(.field 1, .ofText "aXb")]

/-- A record that is divided before the separator is assigned, and no field after that. -/
def assignSeparatorLate : Eval Unit := do
  (Target.field 0).write (.ofText "a b")
  onScope (Scope.setVar "FS" (.ofText ":"))
  onScope (Scope.setVar "OFS" (.ofText ":"))

theorem assignCaselessly_dividedAnew : DividedAnew assignCaselessly 'x' := by
  obtain ⟨splitter, hsplitter, hsplit⟩ := exists_splitter_x
  let m₀ : Machine := Machine.initial .empty
  let m₁ : Machine :=
    { m₀ with scope := { m₀.scope with ignoreCase := .num 1.0, splitter := .blanks } }
  let m₂ : Machine := { m₁ with scope := { m₁.scope with fs := "x", splitter } }
  let m₃ : Machine := { m₂ with scope := { m₂.scope with ofs := "x" } }
  let m₄ : Machine := { m₃ with scope := m₃.scope.setField 1 "aXb" }
  have hcase : onScope (Scope.setVar "IGNORECASE" (.num 1.0)) m₀ = .ok () m₁ := by
    have hblank : m₀.scope.fs = " " := rfl
    have hmade : ofSeparator m₀.scope.fs (Value.num 1.0).isTruthy = .ok .blanks := by
      rw [hblank]
      rfl
    rw [onScope, Scope.setVar_ignoreCase_of_ok hmade]
  have hfs : onScope (Scope.setVar "FS" (.ofText "x")) m₁ = .ok () m₂ := by
    have hignores : m₁.scope.ignoresCase = true := by decide
    rw [onScope, Scope.setVar_fs_of_ok (hignores ▸ hsplitter)]
  have hofs : onScope (Scope.setVar "OFS" (.ofText "x")) m₂ = .ok () m₃ := rfl
  have hrecord : m₄.scope.record = .ofFields ["aXb"] "x" := rfl
  have hdivided : (m₄.scope.setRecord "aXb").record.fields = ["a", "b"] := hsplit
  refine ⟨m₄, _, ?_, rfl, rfl, ?_, reassignRecord_run m₄, ?_⟩
  · rw [assignCaselessly, bind_of_ok hcase, bind_of_ok hfs, bind_of_ok hofs]
    rfl
  · rw [hrecord]
    decide
  · show (m₄.scope.setRecord m₄.scope.record.text).record.fieldCount ≠ m₄.scope.record.fieldCount
    rw [hrecord]
    show (m₄.scope.setRecord "aXb").record.fields.length ≠ 1
    rw [hdivided]
    decide

theorem assignSeparatorLate_dividedAnew : DividedAnew assignSeparatorLate ':' := by
  let m₀ : Machine := Machine.initial .empty
  let m₁ : Machine := { m₀ with scope := m₀.scope.setRecord "a b" }
  let m₂ : Machine := { m₁ with scope := { m₁.scope with fs := ":", splitter := .literal ':' } }
  let m₃ : Machine := { m₂ with scope := { m₂.scope with ofs := ":" } }
  have hwrite : (Target.field 0).write (.ofText "a b") m₀ = .ok () m₁ := rfl
  have hfs : onScope (Scope.setVar "FS" (.ofText ":")) m₁ = .ok () m₂ := by
    have hcase : m₁.scope.ignoresCase = false := by decide
    have hmade : ofSeparator ":" m₁.scope.ignoresCase = .ok (.literal ':') := by
      rw [hcase]
      rfl
    rw [onScope, Scope.setVar_fs_of_ok hmade]
  have hrecord : m₃.scope.record = { text := "a b", fields := ["a", "b"] } := rfl
  refine ⟨m₃, _, ?_, rfl, rfl, ?_, reassignRecord_run m₃, ?_⟩
  · rw [assignSeparatorLate, bind_of_ok hwrite, bind_of_ok hfs]
    rfl
  · rw [hrecord]
    decide
  · show (m₃.scope.setRecord m₃.scope.record.text).record.fieldCount ≠ m₃.scope.record.fieldCount
    rw [hrecord]
    decide

/-- A letter whose case is ignored divides fields that do not hold it, and a separator that comes
late divides fields that were found at another. -/
theorem record_divided_anew :
    DividedAnew assignCaselessly 'x' ∧ DividedAnew assignSeparatorLate ':' :=
  ⟨assignCaselessly_dividedAnew, assignSeparatorLate_dividedAnew⟩

end Awk
