import Awk.Evaluation
import Awk.Proofs.ByteOrder
import Awk.Proofs.Computation

/-!
# Comparisons of numbers with texts

A comparison of a number with a text that is not numeric writes the number with six digits, whatever
`CONVFMT` is, and compares bytes.  That is the comparison of the text that the number has elsewhere,
if it has one there, exactly if both texts stand on the same side of the other one.
-/

namespace Awk

open Format (numberText defaultNumberFormat)
open Text (bytes)

/-! ## Texts of numbers -/

theorem numberText_of_writesItself {x : Double} (h : x.writesItself) (format format' : String) :
    numberText format x = numberText format' x := by
  unfold Double.writesItself at h
  simp only [numberText, Format.numberChars]
  split
  · rfl
  · rfl
  · next d hview =>
    rw [hview] at h
    rw [if_pos h, if_pos h]

theorem conversion?_eq_text {letter : Char} (h : Format.conversion? letter = some .text) :
    letter = 's' := by
  unfold Format.conversion? at h
  split at h <;> first | rfl | cases h

theorem textArguments_eq_nil {items : List Format.Item}
    (h : ∀ spec source, .conversion spec 's' source ∉ items) (args : List Value) :
    Format.textArguments items args = [] := by
  induction items generalizing args with
  | nil => rfl
  | cons item rest ih =>
    have hrest : ∀ spec source, .conversion spec 's' source ∉ rest :=
      fun spec source hmem => h spec source (.tail _ hmem)
    have hitem : Format.textArgument? item args = none := by
      unfold Format.textArgument?
      split
      · next spec letter source =>
        refine if_neg fun hletter => h spec source ?_
        rw [← conversion?_eq_text hletter]
        exact .head _
      · rfl
    rw [Format.textArguments, hitem, ih hrest]
    rfl

/-- Only an `s` conversion can make a number format ask for itself. -/
theorem endless_eq_false {format : String}
    (h : ∀ spec source, .conversion spec 's' source ∉ Format.items format.toList) (x : Double) :
    Format.endless format x = false := by
  rw [Format.endless, textArguments_eq_nil h]
  exact Bool.and_false _

theorem endless_default (x : Double) : Format.endless defaultNumberFormat x = false :=
  Bool.and_false _

theorem endless_of_writesItself {x : Double} (h : x.writesItself) (format : String) :
    Format.endless format x = false := by
  rw [Format.endless, h]
  rfl

/-! ## Texts that `CONVFMT` gives -/

theorem textOf_num_of_ends {m : Machine} {x : Double}
    (h : Format.endless m.scope.convfmt x = false) :
    Eval.textOf (.num x) m = .ok (numberText m.scope.convfmt x) m := by
  have hhas : (Value.num x).hasText m.scope.convfmt = true := by rw [Value.hasText, h]; rfl
  exact (Eval.textUnder_run _ _ _).trans (if_pos hhas)

theorem textOf_num_of_endless {m : Machine} {x : Double}
    (h : Format.endless m.scope.convfmt x = true) :
    Eval.textOf (.num x) m = .error (.crashed .recursion) m := by
  have hhas : ¬ (Value.num x).hasText m.scope.convfmt = true := by rw [Value.hasText, h]; decide
  exact (Eval.textUnder_run _ _ _).trans (if_neg hhas)

/-! ## Operators -/

theorem ofBool_inj {b b' : Bool} (h : Value.ofBool b = .ofBool b') : b = b' := by
  have hne : (1.0 : Double) ≠ 0.0 := by decide
  cases b <;> cases b' <;> simp_all [Value.ofBool]

/-- The six operators tell all orderings apart. -/
theorem Relation.holds_inj {o o' : Ordering} (h : ∀ op : Relation, op.holds o = op.holds o') :
    o = o' := by
  have hlt := h .lt
  have hgt := h .gt
  revert hlt hgt
  cases o <;> cases o' <;> decide

theorem Value.compare_num_str (x : Double) (s : String) :
    (Value.num x).compare (.str s) =
      Ord.compare (bytes (numberText defaultNumberFormat x)) (bytes s) :=
  Text.compare_eq_bytes _ _

/-! ## Evaluation -/

theorem eval_succ_of_ok {p : Program} {n : Nat} {e : Expr} {m m' : Machine} {v : Value}
    (h : Expr.rule p ⟨eval p n, exec p n⟩ e m = .ok v m') : eval p (n + 1) e m = .ok v m' := by
  rw [eval, Eval.located, h]

theorem eval_succ_of_crashed {p : Program} {n : Nat} {e : Expr} {m m' : Machine} {c : Crash}
    (h : Expr.rule p ⟨eval p n, exec p n⟩ e m = .error (.crashed c) m') :
    eval p (n + 1) e m = .error (.crashed c) m' := by
  rw [eval, Eval.located, h]

theorem eval_relation {p : Program} {n : Nat} {left right : Expr} {m m₁ m₂ : Machine} {l r : Value}
    (hleft : eval p n left m = .ok l m₁) (hright : eval p n right m₁ = .ok r m₂) (op : Relation)
    (place : Location) :
    eval p (n + 1) (.relation op left right place) m =
      .ok (.ofBool (op.holds (l.compare r))) m₂ := by
  apply eval_succ_of_ok
  show (eval p n left >>= fun l => eval p n right >>= fun r =>
    pure (Value.ofBool (op.holds (l.compare r)))) m = _
  rw [bind_of_ok hleft, bind_of_ok hright]
  rfl

/-- What a number is made into by the concatenation with an empty text, if it has a text. -/
theorem eval_concat_empty {p : Program} {n : Nat} {e : Expr} {m m' : Machine} {x : Double}
    (he : eval p n e m = .ok (.num x) m') (hends : Format.endless m'.scope.convfmt x = false)
    (place : Location) :
    eval p (n + 1) (.concat e (.string "" place) place) m =
      .ok (.ofText (numberText m'.scope.convfmt x)) m' := by
  cases n with
  | zero => cases he
  | succ n =>
    have hleft : Meaning.text ⟨eval p (n + 1), exec p (n + 1)⟩ e m =
        .ok (numberText m'.scope.convfmt x) m' := by
      rw [Meaning.text, bind_of_ok he]
      exact textOf_num_of_ends hends
    have hright : Meaning.text ⟨eval p (n + 1), exec p (n + 1)⟩ (.string "" place) m' =
        .ok "" m' := rfl
    apply eval_succ_of_ok
    rw [Expr.rule, bind_of_ok hleft, bind_of_ok hright, String.append_empty]
    rfl

/-- A number whose text asks for itself takes the concatenation down. -/
theorem eval_concat_empty_endless {p : Program} {n : Nat} {e : Expr} {m m' : Machine} {x : Double}
    (he : eval p n e m = .ok (.num x) m') (hends : Format.endless m'.scope.convfmt x = true)
    (place : Location) :
    eval p (n + 1) (.concat e (.string "" place) place) m = .error (.crashed .recursion) m' := by
  have hleft : Meaning.text ⟨eval p n, exec p n⟩ e m = .error (.crashed .recursion) m' := by
    rw [Meaning.text, bind_of_ok he]
    exact textOf_num_of_endless hends
  apply eval_succ_of_crashed
  rw [Expr.rule, bind_of_error hleft]

/-- Two expressions, the first with a number as its value and the second with a text that is not
numeric.  Comparing them writes the number with six digits and compares bytes.  The concatenation of
the number with an empty text gives the text that the number has under `CONVFMT`, or never ends if
that text asks for itself, which it can only under a format with an `s` conversion.  If there is the
text, the comparison is as if the number were written so, for all six operators, exactly if both
texts of the number stand on the same side of the other text.  They do if `CONVFMT` has its default,
and for numbers that need no format. -/
theorem number_compared_with_text {p : Program} {n : Nat} {left right : Expr}
    {m m₁ m₂ : Machine} {x : Double} {s : String} (hleft : eval p n left m = .ok (.num x) m₁)
    (hright : eval p n right m₁ = .ok (.str s) m₂) :
    (∀ op place, eval p (n + 1) (.relation op left right place) m =
      .ok (.ofBool (op.holds (compare (bytes (numberText defaultNumberFormat x)) (bytes s)))) m₂) ∧
    (∀ e place, eval p n e m₂ = .ok (.num x) m₂ →
      eval p (n + 1) (.concat e (.string "" place) place) m₂ =
        if Format.endless m₂.scope.convfmt x then .error (.crashed .recursion) m₂
        else .ok (.ofText (numberText m₂.scope.convfmt x)) m₂) ∧
    ((∀ spec source, .conversion spec 's' source ∉ Format.items m₂.scope.convfmt.toList) →
      Format.endless m₂.scope.convfmt x = false) ∧
    (Format.endless m₂.scope.convfmt x = false →
      ((∀ op place, eval p (n + 1) (.relation op left right place) m =
        .ok (.ofBool (op.holds (compare (bytes (numberText m₂.scope.convfmt x)) (bytes s)))) m₂) ↔
        compare (bytes (numberText defaultNumberFormat x)) (bytes s) =
          compare (bytes (numberText m₂.scope.convfmt x)) (bytes s))) ∧
    (m₂.scope.convfmt = defaultNumberFormat ∨ x.writesItself →
      Format.endless m₂.scope.convfmt x = false ∧
        numberText m₂.scope.convfmt x = numberText defaultNumberFormat x) := by
  have hrelation : ∀ op place, eval p (n + 1) (.relation op left right place) m =
      .ok (.ofBool (op.holds (compare (bytes (numberText defaultNumberFormat x)) (bytes s))))
        m₂ := by
    intro op place
    rw [eval_relation hleft hright, Value.compare_num_str]
  refine ⟨hrelation, fun e place he => ?_, fun hformat => endless_eq_false hformat x,
    fun _ => ⟨fun h => ?_, fun h => ?_⟩, ?_⟩
  · split
    · next hends => exact eval_concat_empty_endless he hends place
    · next hends => exact eval_concat_empty he (Bool.not_eq_true _ ▸ hends) place
  · refine Relation.holds_inj fun op => ofBool_inj ?_
    have hsame := (hrelation op .start).symm.trans (h op .start)
    injection hsame
  · rw [← h]
    exact hrelation
  · rintro (hformat | hwhole)
    · rw [hformat]
      exact ⟨endless_default x, rfl⟩
    · exact ⟨endless_of_writesItself hwhole _, numberText_of_writesItself hwhole _ _⟩

theorem eval_string_of_not_numeric {p : Program} {n : Nat} {s : String} {place : Location}
    (h : Value.numericText? s = none) (m : Machine) :
    eval p (n + 1) (.string s place) m = .ok (.str s) m := by
  have htext : Value.ofText s = .str s := by rw [Value.ofText, h]
  rw [← htext]
  rfl

/-- The machine behind an assignment to `CONVFMT`. -/
def convertedBy (format : String) : Machine :=
  after (Eval.onScope (Scope.setVar "CONVFMT" (.ofText format))) (Machine.initial .empty)

/-- Under a format with one digit concatenation makes `2` of a number.  The comparison makes `2.5`
of it, which stands on the same side of the text. -/
theorem half_compared_with_text :
    let p : Program := { rules := [], functions := [] }
    let m := convertedBy "%.1g"
    eval p 2 (.concat (.number 2.5 .start) (.string "" .start) .start) m = .ok (.ofText "2") m ∧
      eval p 2 (.relation .lt (.number 2.5 .start) (.string "3a" .start) .start) m =
        .ok (.ofBool (Relation.holds .lt (compare (bytes "2") (bytes "3a")))) m := by
  intro p m
  have hconvfmt : m.scope.convfmt = "%.1g" := rfl
  have hone : numberText "%.1g" 2.5 = "2" := by decide +kernel
  have hsix : numberText defaultNumberFormat 2.5 = "2.5" := by decide +kernel
  have hends : Format.endless m.scope.convfmt 2.5 = false := by rw [hconvfmt]; decide +kernel
  have hright : eval p 1 (.string "3a" .start) m = .ok (.str "3a") m :=
    eval_string_of_not_numeric (by decide +kernel) m
  have hleft : eval p 1 (.number 2.5 .start) m = .ok (.num 2.5) m := rfl
  obtain ⟨-, hconcat, -, hsame, -⟩ := number_compared_with_text hleft hright
  rw [hconvfmt, hone] at hsame
  refine ⟨?_, (hsame hends).2 ?_ .lt .start⟩
  · have hvalue := hconcat (.number 2.5 .start) .start hleft
    rw [hends, hconvfmt, hone] at hvalue
    exact hvalue
  · rw [hsix]
    decide +kernel

/-- Under a format with two digits concatenation makes `3.1` of a number, which comes before
`3.12x`.  The comparison makes `3.14159` of it, which does not. -/
theorem number_compared_beyond_format :
    let p : Program := { rules := [], functions := [] }
    let m := convertedBy "%.2g"
    eval p 2 (.concat (.number 3.14159 .start) (.string "" .start) .start) m =
        .ok (.ofText "3.1") m ∧
      Relation.holds .lt (compare (bytes "3.1") (bytes "3.12x")) = true ∧
      eval p 2 (.relation .lt (.number 3.14159 .start) (.string "3.12x" .start) .start) m =
        .ok (.ofBool false) m := by
  intro p m
  have hconvfmt : m.scope.convfmt = "%.2g" := rfl
  have htwo : numberText "%.2g" 3.14159 = "3.1" := by decide +kernel
  have hsix : (Value.num 3.14159).compare (.str "3.12x") = .gt := by decide +kernel
  have hnumber : eval p 1 (.number 3.14159 .start) m = .ok (.num 3.14159) m := rfl
  have hright : eval p 1 (.string "3.12x" .start) m = .ok (.str "3.12x") m :=
    eval_string_of_not_numeric (by decide +kernel) m
  refine ⟨?_, by decide +kernel, ?_⟩
  · have hends : Format.endless m.scope.convfmt 3.14159 = false := by rw [hconvfmt]; decide +kernel
    rw [eval_concat_empty hnumber hends, hconvfmt, htwo]
  · rw [eval_relation hnumber hright, hsix]
    rfl

end Awk
