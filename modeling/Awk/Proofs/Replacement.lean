import Awk.Evaluation.Builtin
import Awk.Proofs.Access
import Awk.Proofs.LongerText
import Awk.Proofs.Spans

/-!
# The laws of substitution

All matches in a text lie one behind the other, so that they cut it into pieces.  A substitution
puts the pieces together again and changes those alone that matched; what it makes of them is the
same for any spans one behind the other (`replaced_iff_rebuild`).  An ampersand gives back what
matched, and a text can be written so that it stands for itself.
-/

namespace Awk

/-! ## Matches one behind the other -/

namespace Regex

/-- Spans from left to right between two positions, none of which overlap. -/
inductive Ordered (high : Nat) : Nat → List Span → Prop where
  | nil {low : Nat} : Ordered high low []
  | cons {low : Nat} {m : Span} {ms : List Span} : m.Between low high → Ordered high m.stop ms →
      Ordered high low (m :: ms)

theorem Ordered.mono {high low low' : Nat} {ms : List Span} (h : Ordered high low ms)
    (hle : low' ≤ low) : Ordered high low' ms := by
  cases h with
  | nil => exact .nil
  | cons hm hms => exact .cons ⟨Nat.le_trans hle hm.low_le, hm.start_le, hm.stop_le⟩ hms

theorem Ordered.take {high low : Nat} {ms : List Span} (h : Ordered high low ms) (n : Nat) :
    Ordered high low (ms.take n) := by
  induction h generalizing n with
  | nil =>
    rw [List.take_nil]
    exact .nil
  | cons hm hms ih =>
    cases n with
    | zero => exact .nil
    | succ n => exact .cons hm (ih n)

/-- Each search begins where the match before it ended, or further on. -/
theorem findAllFrom_ordered (re : Regex) (fuel : Nat) (p : Point) (last : Option Nat) :
    Ordered (p.index + p.rest.length) p.index (findAllFrom re fuel p last) := by
  fun_induction findAllFrom re fuel p last with
  | case1 => exact .nil
  | case2 => exact .nil
  | case3 => exact .nil
  | case4 fuel p last m hfound hempty hrest ih =>
    rw [p.skip_end 1] at ih
    exact ih.mono (p.index_le_skip 1)
  | case5 fuel p last m hfound hnew ih =>
    have hm := re.between hfound
    have hlow := hm.low_le
    have hstart := hm.start_le
    have hstop := hm.stop_le
    have hindex : (p.skip (m.stop - p.index)).index = m.stop := by
      rw [Point.skip_index (by omega)]
      omega
    rw [p.skip_end, hindex] at ih
    exact .cons hm ih

theorem findAll_ordered (re : Regex) (text : List Char) :
    Ordered text.length 0 (re.findAll text) := by
  have h := findAllFrom_ordered re (2 * text.length + 2) (.start text) none
  rw [show (Point.start text).index + (Point.start text).rest.length = text.length from
    Nat.zero_add _] at h
  exact h

/-- The first of all matches is the one that is looked for alone. -/
theorem take_findAll (re : Regex) (text : List Char) :
    (re.findAll text).take 1 = (re.find? text).toList := by
  rw [findAll, find?, findAllFrom]
  cases re.findFrom? (.start text) with
  | none => rfl
  | some m =>
    have hfirst : ¬(m.isEmpty && (none : Option Nat) == some m.stop) = true := by
      simp
    dsimp only
    rw [if_neg hfirst]
    rfl

end Regex

/-! ## Pieces of a text -/

namespace Substitution

/-- A text from a position on, and what becomes of it: what lies between the spans is kept, and
each span gives way to what the replacement makes of its text. -/
inductive Replaced (replacement : List Char) :
    Nat → List Regex.Span → List Char → List Char → Prop where
  | behind {position : Nat} {text : List Char} : Replaced replacement position [] text text
  | span {position : Nat} {m : Regex.Span} {ms : List Regex.Span}
      {gap matched text result : List Char} :
      position + gap.length = m.start → m.start + matched.length = m.stop →
      Replaced replacement m.stop ms text result →
      Replaced replacement position (m :: ms) (gap ++ (matched ++ text))
        (gap ++ (expand matched replacement ++ result))

/-- A span within a text divides it in three. -/
theorem exists_pieces {position : Nat} {m : Regex.Span} {text : List Char}
    (h : m.Between position (position + text.length)) :
    ∃ gap matched rest, text = gap ++ (matched ++ rest) ∧ position + gap.length = m.start ∧
      m.start + matched.length = m.stop := by
  obtain ⟨hlow, hstart, hstop⟩ := h
  refine ⟨text.take (m.start - position), (text.drop (m.start - position)).take (m.stop - m.start),
    (text.drop (m.start - position)).drop (m.stop - m.start), ?_, ?_, ?_⟩
  · rw [List.take_append_drop, List.take_append_drop]
  · rw [List.length_take]
    omega
  · rw [List.length_take, List.length_drop]
    omega

/-- A text is cut where its first span lies. -/
theorem cutAt_pieces {position : Nat} {m : Regex.Span} {ms : List Regex.Span}
    {gap matched rest : List Char} (hgap : position + gap.length = m.start)
    (hmatched : m.start + matched.length = m.stop) :
    Regex.cutAt position (m :: ms) (gap ++ (matched ++ rest)) =
      ((gap, matched) :: (Regex.cutAt m.stop ms rest).1, (Regex.cutAt m.stop ms rest).2) := by
  have hstart : m.start - position = gap.length := by omega
  have hstop : m.stop - m.start = matched.length := by omega
  rw [Regex.cutAt, hstart, hstop]
  dsimp only
  rw [List.take_left, List.drop_left, List.take_left, List.drop_left]

/-- Spans one behind the other are replaced where they lie. -/
theorem replaced_rebuild (replacement : List Char) {position : Nat} {ms : List Regex.Span}
    {text : List Char} (h : Regex.Ordered (position + text.length) position ms) :
    Replaced replacement position ms text
      (rebuild replacement (Regex.cutAt position ms text).1 (Regex.cutAt position ms text).2) := by
  induction ms generalizing position text with
  | nil => exact .behind
  | cons m ms ih =>
    cases h with
    | cons hm hms =>
      obtain ⟨gap, matched, rest, rfl, hgap, hmatched⟩ := exists_pieces hm
      have hlength : position + (gap ++ (matched ++ rest)).length = m.stop + rest.length := by
        rw [List.length_append, List.length_append]
        omega
      rw [hlength] at hms
      rw [cutAt_pieces hgap hmatched, rebuild, List.append_assoc]
      exact .span hgap hmatched (ih hms)

/-- The matches that a substitution replaces lie one behind the other. -/
theorem chosen_ordered (re : Regex) (everywhere : Bool) (text : List Char) :
    Regex.Ordered text.length 0 (chosen re everywhere text) := by
  unfold chosen
  cases everywhere
  · rw [if_neg Bool.false_ne_true, ← Regex.take_findAll]
    exact (Regex.findAll_ordered re text).take 1
  · rw [if_pos rfl]
    exact Regex.findAll_ordered re text

/-! ## Replacements -/

/-- An ampersand alone gives back what matched. -/
theorem Replaced.ampersand {position : Nat} {ms : List Regex.Span} {text result : List Char}
    (h : Replaced ['&'] position ms text result) : result = text := by
  induction h with
  | behind => rfl
  | @span position m ms gap matched text result hgap hmatched hrest ih =>
    have hexpand : expand matched ['&'] = matched := List.append_nil matched
    rw [hexpand, ih]

/-- Writes a text so that it stands for itself in a replacement. -/
def escape (text : List Char) : List Char :=
  text.flatMap fun c => if c = '\\' ∨ c = '&' then ['\\', c] else [c]

theorem expand_of_plain {c : Char} (h : ¬(c = '\\' ∨ c = '&')) (matched cs : List Char) :
    expand matched (c :: cs) = c :: expand matched cs := by
  rw [not_or] at h
  rw [expand]
  · exact fun _ hc => absurd hc h.1
  · exact fun _ hc => absurd hc h.1
  · exact fun hc => absurd hc h.2

theorem expand_escape (matched text : List Char) : expand matched (escape text) = text := by
  induction text with
  | nil => rfl
  | cons c cs ih =>
    rw [escape, List.flatMap_cons]
    by_cases hc : c = '\\' ∨ c = '&'
    · rw [if_pos hc]
      rcases hc with rfl | rfl
      · exact congrArg _ ih
      · exact congrArg _ ih
    · rw [if_neg hc]
      exact (expand_of_plain hc matched _).trans (congrArg _ ih)

/-- Lengths settle what the pieces are, and so what becomes of the text. -/
theorem Replaced.unique {replacement : List Char} {position : Nat} {ms : List Regex.Span}
    {text result result' : List Char} (h : Replaced replacement position ms text result)
    (h' : Replaced replacement position ms text result') : result = result' := by
  induction h generalizing result' with
  | behind =>
    cases h'
    rfl
  | @span position m ms gap matched text result hgap hmatched hrest ih =>
    generalize htext : gap ++ (matched ++ text) = whole at h'
    cases h' with
    | @span _ _ _ gap' matched' text' result' hgap' hmatched' hrest' =>
      obtain ⟨rfl, hbehind⟩ := List.append_inj htext (by omega)
      obtain ⟨rfl, rfl⟩ := List.append_inj hbehind (by omega)
      rw [ih hrest']

/-- Without a match nothing is replaced, and only then. -/
theorem count_eq_zero_iff {re : Regex} {everywhere : Bool} {text replacement : String} :
    (substitute re everywhere text replacement).2 = 0 ↔ re.find? text.toList = none := by
  show (chosen re everywhere text.toList).length = 0 ↔ _
  rw [List.length_eq_zero_iff, ← Option.toList_eq_nil_iff, ← Regex.take_findAll]
  cases everywhere
  · show (re.find? text.toList).toList = [] ↔ _
    rw [Regex.take_findAll]
  · show re.findAll text.toList = [] ↔ _
    cases re.findAll text.toList with
    | nil => exact ⟨fun _ => rfl, fun _ => rfl⟩
    | cons m ms => exact ⟨nofun, nofun⟩

/-- What becomes of a text with spans one behind the other, wherever they come from. -/
theorem replaced_iff_rebuild {replacement text result : List Char} {ms : List Regex.Span}
    (h : Regex.Ordered text.length 0 ms) :
    Replaced replacement 0 ms text result ↔
      result = rebuild replacement (Regex.cutAt 0 ms text).1 (Regex.cutAt 0 ms text).2 := by
  rw [← Nat.zero_add text.length] at h
  have hreplaced := replaced_rebuild replacement h
  constructor
  · exact fun hresult => hresult.unique hreplaced
  · rintro rfl
    exact hreplaced

theorem rebuild_ampersand {text : List Char} {ms : List Regex.Span}
    (h : Regex.Ordered text.length 0 ms) :
    rebuild ['&'] (Regex.cutAt 0 ms text).1 (Regex.cutAt 0 ms text).2 = text :=
  ((replaced_iff_rebuild h).mpr rfl).ampersand

theorem replaced_iff {re : Regex} {everywhere : Bool} {text replacement : String}
    {result : List Char} :
    Replaced replacement.toList 0 (chosen re everywhere text.toList) text.toList result ↔
      result = (substitute re everywhere text replacement).1.toList := by
  rw [replaced_iff_rebuild (chosen_ordered re everywhere text.toList), substitute]
  dsimp only
  rw [String.toList_ofList]

theorem substitute_ampersand (re : Regex) (everywhere : Bool) (text : String) :
    (substitute re everywhere text "&").1 = text := by
  have hkept := rebuild_ampersand (chosen_ordered re everywhere text.toList)
  exact (congrArg String.ofList hkept).trans String.ofList_toList

end Substitution

/-! ## Calls -/

/-- Reading a target writes nothing, but for an element that is created. -/
theorem Target.read_onlyNames {t : Target} {m m' : Machine} {v : Value} (h : t.read m = .ok v m') :
    m' = { m with scope := m'.scope } ∧ m.scope.OnlyNames m'.scope := by
  have hscope : ∀ {a : Scope.Access Value}, a.special? = none → Eval.onScope a.op m = .ok v m' →
      m' = { m with scope := m'.scope } ∧ m.scope.OnlyNames m'.scope := by
    intro a ha hrun
    have honly := Scope.Access.onlyNames ha m.scope
    rw [Eval.onScope] at hrun
    cases hop : a.op m.scope with
    | ok u s =>
      rw [hop] at hrun
      rw [after_of_ok hop] at honly
      cases hrun
      exact ⟨rfl, honly⟩
    | error fault s =>
      rw [hop] at hrun
      cases hrun
  cases t with
  | var name => exact @hscope (.getVar name) rfl h
  | element array key => exact @hscope (.getElement array key) rfl h
  | field i =>
    cases h
    exact ⟨rfl, .refl _⟩

namespace Builtin

open Eval

variable {self : Meaning} {b : Builtin} {everywhere : Bool} {pattern replacement : Expr}
  {target : Option Expr} {m m₁ : Machine}

/-- What a substitution works on: the target, its text, the replacement and the regular
expression. -/
def substitutionOperands (self : Meaning) (b : Builtin) (pattern replacement : Expr)
    (target : Option Expr) : Eval (Target × String × String × Regex) := do
  let pattern ← self.pattern pattern
  let replacement ← self.text replacement
  let target ← substitutionTarget self b target
  let text ← textOf (← target.read)
  let re ← regexOf pattern
  return (target, text, replacement, re)

/-- Replaces in the target if there is something to replace. -/
def replaceIn (everywhere : Bool) : Target × String × String × Regex → Eval Value
  | (target, text, replacement, re) => do
    let (result, count) := Substitution.substitute re everywhere text replacement
    if 0 < count then target.write (.ofText result)
    return .ofNat count

theorem callSubstitute_eq :
    callSubstitute self b everywhere pattern replacement target =
      substitutionOperands self b pattern replacement target >>= replaceIn everywhere := by
  simp only [callSubstitute, substitutionOperands, bind_assoc, pure_bind]
  rfl

theorem callSubstitute_of_error {e : Stop}
    (h : substitutionOperands self b pattern replacement target m = .error e m₁) :
    callSubstitute self b everywhere pattern replacement target m = .error e m₁ := by
  rw [callSubstitute_eq, bind_of_error h]

variable {t : Target} {text word : String} {re : Regex}

/-- Without a match the target stays as it was read. -/
theorem callSubstitute_unmatched
    (h : substitutionOperands self b pattern replacement target m = .ok (t, text, word, re) m₁)
    (hnone : re.find? text.toList = none) :
    callSubstitute self b everywhere pattern replacement target m = .ok (.ofNat 0) m₁ := by
  have hcount := (@Substitution.count_eq_zero_iff re everywhere text word).mpr hnone
  rw [callSubstitute_eq, bind_of_ok h, replaceIn]
  dsimp only
  rw [hcount]
  rfl

/-- With a match the target takes the new text, and may refuse it. -/
theorem callSubstitute_matched
    (h : substitutionOperands self b pattern replacement target m = .ok (t, text, word, re) m₁)
    (hsome : re.find? text.toList ≠ none) :
    callSubstitute self b everywhere pattern replacement target m =
      (t.write (.ofText (Substitution.substitute re everywhere text word).1) >>= fun _ =>
        pure (.ofNat (Substitution.substitute re everywhere text word).2)) m₁ := by
  have hcount : 0 < (Substitution.substitute re everywhere text word).2 :=
    Nat.pos_of_ne_zero fun hzero => hsome (Substitution.count_eq_zero_iff.mp hzero)
  rw [callSubstitute_eq, bind_of_ok h, replaceIn]
  dsimp only
  rw [if_pos hcount]

end Builtin

/-- Spans one behind the other cut a text, and each of them gives way to what the replacement makes
of it, or to itself if that is an ampersand; nothing else becomes of the text.  The matches in a
text are such spans: a substitution changes all of them or the first alone, and gives their number
back.  An ampersand keeps the text, and an escaped text stands for itself.  A call writes its target
if something matched, and else leaves it as it was read. -/
theorem substitutions_replace :
    (∀ (text replacement : List Char) (spans : List Regex.Span),
      Regex.Ordered text.length 0 spans →
        let cut := Regex.cutAt 0 spans text
        (∀ result, Substitution.Replaced replacement 0 spans text result ↔
          result = Substitution.rebuild replacement cut.1 cut.2) ∧
        Substitution.rebuild ['&'] cut.1 cut.2 = text) ∧
    (∀ (re : Regex) (text : List Char), Regex.Ordered text.length 0 (re.findAll text)) ∧
    (∀ (re : Regex) (everywhere : Bool) (text replacement : String),
      let spans := if everywhere then re.findAll text.toList else (re.findAll text.toList).take 1
      (∀ result, Substitution.Replaced replacement.toList 0 spans text.toList result ↔
        result = (Substitution.substitute re everywhere text replacement).1.toList) ∧
      (Substitution.substitute re everywhere text replacement).2 = spans.length) ∧
    (∀ (re : Regex) (everywhere : Bool) (text : String),
      (Substitution.substitute re everywhere text "&").1 = text) ∧
    (∀ matched text : List Char,
      Substitution.expand matched (Substitution.escape text) = text) ∧
    (∀ (self : Meaning) (b : Builtin) (everywhere : Bool) (pattern replacement : Expr)
        (target : Option Expr) (m : Machine),
      (∀ e m₁, Builtin.substitutionOperands self b pattern replacement target m = .error e m₁ →
        Builtin.callSubstitute self b everywhere pattern replacement target m = .error e m₁) ∧
      ∀ t text word re m₁,
        Builtin.substitutionOperands self b pattern replacement target m =
          .ok (t, text, word, re) m₁ →
        (re.find? text.toList = none →
          Builtin.callSubstitute self b everywhere pattern replacement target m =
            .ok (.ofNat 0) m₁) ∧
        (re.find? text.toList ≠ none →
          Builtin.callSubstitute self b everywhere pattern replacement target m =
            (t.write (.ofText (Substitution.substitute re everywhere text word).1) >>= fun _ =>
              pure (.ofNat (Substitution.substitute re everywhere text word).2)) m₁)) ∧
    (∀ (t : Target) (m m' : Machine) (v : Value), t.read m = .ok v m' →
      m' = { m with scope := m'.scope } ∧ m.scope.OnlyNames m'.scope) ∧
    ∀ (self : Meaning) (pattern replacement : Expr) (target : Option Expr) (place : Location),
      Builtin.call self .sub (pattern :: replacement :: target.toList) place =
          Builtin.callSubstitute self .sub false pattern replacement target ∧
        Builtin.call self .gsub (pattern :: replacement :: target.toList) place =
          Builtin.callSubstitute self .gsub true pattern replacement target := by
  refine ⟨fun text replacement spans h =>
      ⟨fun result => Substitution.replaced_iff_rebuild h, Substitution.rebuild_ampersand h⟩,
    Regex.findAll_ordered, fun re everywhere text replacement => ?_,
    Substitution.substitute_ampersand, Substitution.expand_escape,
    fun self b everywhere pattern replacement target m => ⟨fun e m₁ => ?_,
      fun t text word re m₁ h => ⟨?_, ?_⟩⟩,
    fun t m m' v => Target.read_onlyNames, fun self pattern replacement target place => ?_⟩
  · have hspans : Substitution.chosen re everywhere text.toList =
        if everywhere then re.findAll text.toList else (re.findAll text.toList).take 1 := by
      rw [Substitution.chosen, Regex.take_findAll]
    dsimp only
    rw [← hspans]
    exact ⟨fun result => Substitution.replaced_iff, rfl⟩
  · exact Builtin.callSubstitute_of_error
  · exact Builtin.callSubstitute_unmatched h
  · exact Builtin.callSubstitute_matched h
  · cases target <;> exact ⟨rfl, rfl⟩

end Awk
