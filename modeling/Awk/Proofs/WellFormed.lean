import Awk.Proofs.ArrayMarks
import Awk.Proofs.Cursors
import Awk.Proofs.Subterms
import Awk.Run

/-!
# Programs that are read are well formed

Whatever tokens a program is read from, what is assigned in it can be assigned, lists of subscripts
are not empty, and functions and parameters have names of their own.  Each parser builds its node
from parts that are well formed already, so there is one lemma for each of them; parsers of nested
phrases are taken together, by induction on the steps they have.
-/

namespace Awk

namespace Expr

/-- What holds of every node that is read: what it assigns can be assigned, and its subscripts are
there. -/
def isFormed : Expr → Bool
  | assign _ target _ _ | step _ target _ | getline (some target) _ _ => target.isAssignable
  | element _ indices _ => !indices.isEmpty
  | contains key _ _ => !key.isEmpty
  | _ => true

def Formed (e : Expr) : Prop := e.Everywhere (·.isFormed)

theorem Formed.node {e : Expr} (h : e.isFormed) (hparts : ∀ part ∈ e.parts, part.Formed) :
    e.Formed :=
  .intro h hparts

end Expr

namespace Stmt

def Formed (s : Stmt) : Prop := s.Everywhere (·.isFormed) fun _ => True

theorem Formed.node {s : Stmt} (hexprs : ∀ e ∈ s.exprs, e.Formed)
    (hparts : ∀ part ∈ s.parts, part.Formed) : s.Formed :=
  .intro trivial hexprs hparts

end Stmt

/-! ## What parsers yield -/

def Cursor.All (T : Token → Prop) (c : Cursor) : Prop := ∀ t ∈ c.rest, T t

/-- What the parser yields has the property `P` if all tokens have the property `T`, which those
that it leaves have then as well. -/
def Yields (T : Token → Prop) {α : Type} (P : α → Prop) (x : Parser α) : Prop :=
  ∀ c a c', c.All T → x c = .ok a c' → P a ∧ c'.All T

theorem Cursor.All.suffix {T : Token → Prop} {c c' : Cursor} (h : c.All T)
    (hc : c'.rest <:+ c.rest) : c'.All T :=
  fun t ht => h t (hc.subset ht)

namespace Yields

variable {T : Token → Prop} {α β : Type} {P : α → Prop} {R : β → Prop}

theorem pure {a : α} (h : P a) : Yields T P (pure a) := by
  intro c a' c' hc hrun
  cases hrun
  exact ⟨h, hc⟩

theorem bind {x : Parser α} {f : α → Parser β} (hx : Yields T P x)
    (hf : ∀ a, P a → Yields T R (f a)) : Yields T R (x >>= f) := by
  intro c b c' hc hrun
  obtain ⟨a, c₁, hx', hf'⟩ := bind_ok_inv hrun
  obtain ⟨ha, hc₁⟩ := hx c a c₁ hc hx'
  exact hf a ha c₁ b c' hc₁ hf'

theorem mono {P' : α → Prop} {x : Parser α} (hx : Yields T P x) (h : ∀ a, P a → P' a) :
    Yields T P' x := by
  intro c a c' hc hrun
  obtain ⟨ha, hc'⟩ := hx c a c' hc hrun
  exact ⟨h a ha, hc'⟩

theorem failing {x : Parser α} (hx : ∀ c, ∃ e c', x c = .error e c') : Yields T P x := by
  intro c a c' hc hrun
  obtain ⟨e, c₁, he⟩ := hx c
  rw [he] at hrun
  cases hrun

theorem fail (fault : ParseFault) : Yields T P (Parser.fail fault) :=
  failing fun _ => ⟨_, _, rfl⟩

theorem failAt (fault : ParseFault) (place : Location) : Yields T P (Parser.failAt fault place) :=
  failing fun _ => ⟨_, _, rfl⟩

theorem unexpected (what : String) : Yields T P (Parser.unexpected what) :=
  failing fun _ => ⟨_, _, rfl⟩

theorem get : Yields T (fun c : Cursor => c.All T) get := by
  intro c a c' hc hrun
  cases hrun
  exact ⟨hc, hc⟩

theorem set {c : Cursor} (h : c.All T) : Yields T (fun _ => True) (set c) := by
  intro c₁ a c' hc hrun
  cases hrun
  exact ⟨trivial, h⟩

theorem place : Yields T (fun _ => True) Parser.place := bind get fun _ _ => pure trivial

theorem optional {x : Parser α} (hx : Yields T P x) :
    Yields T (fun a? : Option α => ∀ a ∈ a?, P a) (some <$> x) := by
  rw [map_eq_pure_bind]
  refine hx.bind fun a ha => pure fun a' ha' => ?_
  cases ha'
  exact ha

/-- To drop tokens. -/
theorem skipping {f : Cursor → Cursor} (hf : ∀ c, (f c).rest <:+ c.rest) :
    Yields T (fun _ => True) (modify f) := by
  intro c a c' hc hrun
  cases hrun
  exact ⟨trivial, hc.suffix (hf c)⟩

theorem advance_suffix (c : Cursor) : c.advance.rest <:+ c.rest := by
  unfold Cursor.advance
  split
  · exact List.suffix_refl _
  · exact List.tail_suffix _

theorem advance : Yields T (fun _ => True) Parser.advance := skipping advance_suffix

theorem skipNewlines : Yields T (fun _ => True) Parser.skipNewlines :=
  skipping fun _ => List.dropWhile_suffix _

theorem skipTerminators : Yields T (fun _ => True) Parser.skipTerminators :=
  skipping fun _ => List.dropWhile_suffix _

theorem accept (m : Mark) : Yields T (fun _ => True) (Parser.accept m) := by
  refine bind get fun c _ => ?_
  split
  · exact bind advance fun _ _ => pure trivial
  · exact pure trivial

theorem acceptKeyword (w : Keyword) : Yields T (fun _ => True) (Parser.acceptKeyword w) := by
  refine bind get fun c _ => ?_
  split
  · exact bind advance fun _ _ => pure trivial
  · exact pure trivial

theorem expect (m : Mark) : Yields T (fun _ => True) (Parser.expect m) := by
  refine bind (accept m) fun taken _ => ?_
  split
  · exact pure trivial
  · exact unexpected _

theorem expectKeyword (w : Keyword) : Yields T (fun _ => True) (Parser.expectKeyword w) := by
  refine bind (acceptKeyword w) fun taken _ => ?_
  split
  · exact pure trivial
  · exact unexpected _

theorem expectIdentifier : Yields T (fun _ => True) Parser.expectIdentifier := by
  refine bind get fun c _ => ?_
  split
  · exact bind advance fun _ _ => pure trivial
  · exact unexpected _

theorem withPrint {x : Parser α} (flag : Bool) (hx : Yields T P x) :
    Yields T P (Parser.withPrint flag x) := by
  intro c a c' hc hrun
  unfold Parser.withPrint at hrun
  split at hrun
  · next a₁ c₁ heq =>
    cases hrun
    exact hx { c with inPrint := flag } a c₁ hc heq
  · cases hrun

theorem nested {x : Parser α} (hx : Yields T P x) : Yields T P (Parser.nested x) :=
  hx.withPrint false

/-! ## Expressions -/

def AllFormed (es : List Expr) : Prop := ∀ e ∈ es, e.Formed

theorem moreExpressions {x : Parser Expr} (hx : Yields T Expr.Formed x) (n : Nat) :
    Yields T AllFormed (Grammar.moreExpressions x n) := by
  induction n with
  | zero => exact pure fun e he => by cases he
  | succ n ih =>
    refine bind (accept .comma) fun taken _ => ?_
    split
    · refine bind skipNewlines fun _ _ => bind hx fun e he => bind ih fun es hes => pure ?_
      exact List.forall_mem_cons.mpr ⟨he, hes⟩
    · exact pure fun e he => by cases he

theorem expressionList {x : Parser Expr} (hx : Yields T Expr.Formed x) (n : Nat) :
    Yields T (fun es => es ≠ [] ∧ AllFormed es) (Grammar.expressionList x n) := by
  refine bind hx fun e he => bind (moreExpressions hx n) fun es hes => pure ?_
  exact ⟨List.cons_ne_nil e es, List.forall_mem_cons.mpr ⟨he, hes⟩⟩

end Yields

/-- The token can start a target. -/
def Cursor.atTarget (c : Cursor) : Prop :=
  (∃ name, c.kind? = some (.identifier name)) ∨ c.kind? = some (.mark .dollar)

/-- Parsers of nested phrases that yield well-formed terms. -/
structure Grammar.Phrases.Forms (T : Token → Prop) (phrases : Phrases) : Prop where
  expression : Yields T Expr.Formed phrases.expression
  unary : Yields T Expr.Formed phrases.unary
  increment : Yields T Expr.Formed phrases.increment
  field : Yields T Expr.Formed phrases.field
  target : ∀ c e c', c.atTarget → phrases.field c = .ok e c' → e.isAssignable
  statement : Yields T Stmt.Formed phrases.statement

namespace Grammar.Phrases.Forms

open Yields

variable {T : Token → Prop} {self : Phrases} (h : self.Forms T)

include h

theorem subscripts (n : Nat) :
    Yields T (fun es => es ≠ [] ∧ AllFormed es) (Grammar.subscripts self n) := by
  refine (Yields.expressionList h.expression n).nested.bind fun es hes => ?_
  exact (expect .rightBracket).bind fun _ _ => .pure hes

theorem callArguments (n : Nat) : Yields T AllFormed (Grammar.callArguments self n) := by
  refine (expect .leftParen).bind fun _ _ => (accept .rightParen).bind fun taken _ => ?_
  split
  · exact .pure fun e he => by cases he
  · refine (Yields.expressionList h.expression n).nested.bind fun es hes => ?_
    exact (expect .rightParen).bind fun _ _ => .pure hes.2

theorem builtinCall (n : Nat) (b : Builtin) (place : Location) :
    Yields T Expr.Formed (Grammar.builtinCall self n b place) := by
  refine Yields.get.bind fun c _ => ?_
  split
  · exact (h.callArguments n).bind fun args hargs => .pure (.node rfl hargs)
  · split
    · exact .pure (.node rfl fun e he => by cases he)
    · exact .failAt _ _

theorem groupOrMember (n : Nat) (place : Location) :
    Yields T Expr.Formed (Grammar.groupOrMember self n place) := by
  refine (Yields.expressionList h.expression n).nested.bind fun es hes => ?_
  refine (expect .rightParen).bind fun _ _ => ?_
  split
  · exact .pure (.node rfl hes.2)
  · refine (acceptKeyword .in_).bind fun taken _ => ?_
    split
    · refine expectIdentifier.bind fun array _ => .pure (.node ?_ hes.2)
      simpa [Expr.isFormed] using hes.1
    · exact .fail _

theorem getlineFile (target : Option Expr) (htarget : ∀ t ∈ target, t.Formed ∧ t.isAssignable)
    (place : Location) :
    Yields T Expr.Formed (do
      let file ← if ← Parser.accept .less then some <$> self.increment else pure none
      return .getline target file place) := by
  have hfile : ∀ file : Option Expr, (∀ f ∈ file, f.Formed) →
      (Expr.getline target file place).Formed := by
    intro file hfile
    refine .node ?_ fun part hpart => ?_
    · cases target with
      | none => rfl
      | some t => exact (htarget t rfl).2
    · rcases List.mem_append.mp hpart with hpart | hpart
      · exact (htarget part (Option.mem_toList.mp hpart)).1
      · exact hfile part (Option.mem_toList.mp hpart)
  refine (accept .less).bind fun taken _ => ?_
  dsimp only
  split
  · exact h.increment.optional.bind fun file hf => .pure (hfile file hf)
  · exact (Yields.pure (by simp)).bind fun file hf => .pure (hfile file hf)

/-- A target is read only where one can start. -/
theorem getlineForm (place : Location) : Yields T Expr.Formed (Grammar.getlineForm self place) := by
  intro c e c' hc hrun
  obtain ⟨d, c₁, hd, hrun⟩ := bind_ok_inv hrun
  cases hd
  have hread : c.atTarget → (do
      let target ← some <$> self.field
      let file ← if ← Parser.accept .less then some <$> self.increment else pure none
      return Expr.getline target file place) c = .ok e c' → e.Formed ∧ c'.All T := by
    intro hat hrun
    obtain ⟨target, c₁, htarget, hrun⟩ := bind_ok_inv hrun
    rw [map_eq_pure_bind] at htarget
    obtain ⟨t, c₂, ht, hpure⟩ := bind_ok_inv htarget
    cases hpure
    obtain ⟨hformed, hc₁⟩ := h.field c t c₁ hc ht
    refine h.getlineFile (some t) (fun t' ht' => ?_) place c₁ e c' hc₁ hrun
    cases ht'
    exact ⟨hformed, h.target c t c₁ hat ht⟩
  have hnone := h.getlineFile none (fun t ht => by cases ht) place c e c' hc
  dsimp only at hrun
  cases hk : c.kind? with
  | none => rw [hk] at hrun; exact hnone hrun
  | some k =>
    rw [hk] at hrun
    cases k with
    | identifier name => exact hread (.inl ⟨name, hk⟩) hrun
    | mark m =>
      cases m with
      | dollar => exact hread (.inr hk) hrun
      | _ => exact hnone hrun
    | _ => exact hnone hrun

theorem signed (op : UnaryOp) (place : Location) :
    Yields T Expr.Formed (Grammar.signed self op place) := by
  refine advance.bind fun _ _ => h.unary.bind fun e he => .pure (.node rfl ?_)
  exact List.forall_mem_singleton.mpr he

theorem primary (n : Nat) : Yields T Expr.Formed (Grammar.primary self n) := by
  have hleaf : ∀ {e : Expr}, e.isFormed → e.parts = [] → e.Formed := by
    intro e hnode hparts
    refine .node hnode fun part hpart => ?_
    rw [hparts] at hpart
    cases hpart
  refine Yields.get.bind fun c _ => ?_
  cases c.kind? with
  | none => exact .unexpected _
  | some k =>
    cases k with
    | number x => exact advance.bind fun _ _ => .pure (hleaf rfl rfl)
    | string s => exact advance.bind fun _ _ => .pure (hleaf rfl rfl)
    | regex r => exact advance.bind fun _ _ => .pure (hleaf rfl rfl)
    | identifier name =>
      refine advance.bind fun _ _ => (accept .leftBracket).bind fun taken _ => ?_
      split
      · refine (h.subscripts n).bind fun es hes => .pure (.node ?_ hes.2)
        simpa [Expr.isFormed] using hes.1
      · exact .pure (hleaf rfl rfl)
    | funcName name =>
      exact advance.bind fun _ _ => (h.callArguments n).bind fun args hargs =>
        .pure (.node rfl hargs)
    | builtin b => exact advance.bind fun _ _ => h.builtinCall n b c.place
    | keyword w =>
      cases w with
      | getline => exact advance.bind fun _ _ => h.getlineForm c.place
      | _ => exact .unexpected _
    | mark m =>
      cases m with
      | leftParen => exact advance.bind fun _ _ => h.groupOrMember n c.place
      | not | minus | plus => exact h.signed _ _
      | _ => exact .unexpected _
    | newline => exact .unexpected _
    | eof => exact .unexpected _

theorem fieldLevel (n : Nat) : Yields T Expr.Formed (Grammar.field self n) := by
  have hfield : ∀ {e : Expr} {place : Location}, e.Formed → (Expr.field e place).Formed :=
    fun he => .node rfl (List.forall_mem_singleton.mpr he)
  refine Yields.get.bind fun c _ => (accept .dollar).bind fun taken _ => ?_
  split
  · refine Yields.get.bind fun d _ => ?_
    have hplain : Yields T Expr.Formed (do return .field (← self.field) c.place) :=
      h.field.bind fun _ he => .pure (hfield he)
    cases d.kind? with
    | none => exact hplain
    | some k =>
      cases k with
      | mark m =>
        cases m with
        | increment | decrement => exact h.increment.bind fun _ he => .pure (hfield he)
        | minus =>
          refine advance.bind fun _ _ => h.field.bind fun _ he => .pure (hfield (.node rfl ?_))
          exact List.forall_mem_singleton.mpr he
        | _ => exact hplain
      | _ => exact hplain
  · exact h.primary n

omit h in
/-- What is read where a target can start is one. -/
theorem field_isAssignable {n : Nat} {c c' : Cursor} {e : Expr} (hat : c.atTarget)
    (hrun : Grammar.field self n c = .ok e c') : e.isAssignable := by
  rw [Grammar.field, bind_of_ok (get_run c)] at hrun
  obtain ⟨taken, c₁, htaken, hrun⟩ := bind_ok_inv hrun
  rcases hat with ⟨name, hk⟩ | hk
  · have hother : c.isMark .dollar = false := by rw [Cursor.isMark, hk]; rfl
    rw [accept_other hother] at htaken
    cases htaken
    simp only [Bool.false_eq_true, if_false] at hrun
    rw [Grammar.primary, bind_of_ok (get_run c)] at hrun
    simp only [hk] at hrun
    obtain ⟨-, c₂, -, hrun⟩ := bind_ok_inv hrun
    obtain ⟨bracket, c₃, -, hrun⟩ := bind_ok_inv hrun
    split at hrun
    · obtain ⟨es, c₄, -, hrun⟩ := bind_ok_inv hrun
      cases hrun
      rfl
    · cases hrun
      rfl
  · obtain ⟨t, ts, hc, ht⟩ := kind?_eq_some hk
    rw [accept_run hc ht] at htaken
    cases htaken
    simp only [if_true] at hrun
    obtain ⟨d, c₂, -, hrun⟩ := bind_ok_inv hrun
    have hfield : ∀ {x : Parser Expr} {make : Expr → Expr} {c₂ : Cursor},
        (do return .field (make (← x)) c.place : Parser Expr) c₂ = .ok e c' → e.isAssignable := by
      intro x make c₂ hrun
      obtain ⟨index, c₃, -, hrun⟩ := bind_ok_inv hrun
      cases hrun
      rfl
    cases hd : d.kind? with
    | none => rw [hd] at hrun; exact hfield hrun
    | some k =>
      rw [hd] at hrun
      cases k with
      | mark m =>
        cases m with
        | minus =>
          obtain ⟨-, c₃, -, hrun⟩ := bind_ok_inv hrun
          exact hfield hrun
        | _ => exact hfield hrun
      | _ => exact hfield hrun

theorem postfixStep (n : Nat) : Yields T Expr.Formed (Grammar.postfixStep self n) := by
  refine (h.fieldLevel n).bind fun e he => ?_
  split
  · next htarget =>
    have hstep : ∀ how place, (Expr.step how e place).Formed :=
      fun _ _ => .node htarget (List.forall_mem_singleton.mpr he)
    refine Yields.place.bind fun place _ => (accept .increment).bind fun taken _ => ?_
    split
    · exact .pure (hstep _ _)
    · refine (accept .decrement).bind fun taken _ => ?_
      split
      · exact .pure (hstep _ _)
      · exact .pure he
  · exact .pure he

theorem prefixStep (mark : Mark) (how : Step) (place : Location) :
    Yields T Expr.Formed (Grammar.prefixStep self mark how place) := by
  refine advance.bind fun _ _ => h.increment.bind fun e he => ?_
  split
  · next htarget => exact .pure (.node htarget (List.forall_mem_singleton.mpr he))
  · exact .failAt _ _

theorem incrementLevel (n : Nat) : Yields T Expr.Formed (Grammar.increment self n) := by
  refine Yields.get.bind fun c _ => ?_
  cases c.kind? with
  | none => exact h.postfixStep n
  | some k =>
    cases k with
    | mark m =>
      cases m with
      | increment | decrement => exact h.prefixStep _ _ _
      | _ => exact h.postfixStep n
    | _ => exact h.postfixStep n

theorem power (n : Nat) : Yields T Expr.Formed (Grammar.power self n) := by
  refine (h.incrementLevel n).bind fun base hbase => Yields.place.bind fun place _ => ?_
  refine (accept .caret).bind fun taken _ => ?_
  split
  · exact h.unary.bind fun e he => .pure (.node rfl (by simpa [Expr.parts] using ⟨hbase, he⟩))
  · exact .pure hbase

theorem unaryLevel (n : Nat) : Yields T Expr.Formed (Grammar.unary self n) := by
  refine Yields.get.bind fun c _ => ?_
  split
  · exact h.signed _ _
  · exact h.power n

end Grammar.Phrases.Forms

/-- An operator makes a well-formed expression of two. -/
def Joins (make : Expr → Expr → Location → Expr) : Prop :=
  ∀ l r place, l.Formed → r.Formed → (make l r place).Formed

theorem Joins.of_parts {make : Expr → Expr → Location → Expr}
    (hnode : ∀ l r place, (make l r place).isFormed)
    (hparts : ∀ l r place, (make l r place).parts = [l, r]) : Joins make := by
  intro l r place hl hr
  refine .node (hnode l r place) ?_
  rw [hparts]
  simpa using ⟨hl, hr⟩

namespace Yields

variable {T : Token → Prop}

theorem leftAssoc {operand : Parser Expr} {afterOperator : Parser Unit}
    {read : Token.Kind → Option (Expr → Expr → Location → Expr)}
    (hoperand : Yields T Expr.Formed operand) (hafter : Yields T (fun _ => True) afterOperator)
    (hread : ∀ {k make}, read k = some make → Joins make) (n : Nat) {left : Expr}
    (hleft : left.Formed) :
    Yields T Expr.Formed (Grammar.leftAssoc operand read afterOperator n left) := by
  induction n generalizing left with
  | zero => exact .pure hleft
  | succ n ih =>
    refine Yields.get.bind fun c _ => ?_
    split
    · exact .pure hleft
    · next make hmake =>
      obtain ⟨k, -, hk⟩ := Option.bind_eq_some_iff.mp hmake
      refine advance.bind fun _ _ => hafter.bind fun _ _ => hoperand.bind fun right hright => ?_
      exact ih (hread hk left right c.place hleft hright)

theorem concatenated {operand : Parser Expr} (hoperand : Yields T Expr.Formed operand) (n : Nat)
    {left : Expr} (hleft : left.Formed) :
    Yields T Expr.Formed (Grammar.concatenated operand n left) := by
  induction n generalizing left with
  | zero => exact .pure hleft
  | succ n ih =>
    refine Yields.get.bind fun c _ => ?_
    split
    · exact hoperand.bind fun right hright =>
        ih (.node rfl (by simpa [Expr.parts] using ⟨hleft, hright⟩))
    · exact .pure hleft

theorem memberships (n : Nat) {e : Expr} (he : e.Formed) :
    Yields T Expr.Formed (Grammar.memberships n e) := by
  induction n generalizing e with
  | zero => exact .pure he
  | succ n ih =>
    refine Yields.place.bind fun place _ => (acceptKeyword .in_).bind fun taken _ => ?_
    split
    · exact expectIdentifier.bind fun array _ => ih (.node rfl (List.forall_mem_singleton.mpr he))
    · exact .pure he

end Yields

namespace Grammar

theorem productOf?_forms {k : Token.Kind} {make} (h : productOf? k = some make) : Joins make := by
  unfold productOf? at h
  split at h
  case h_4 => cases h
  all_goals
    cases h
    exact .of_parts (fun _ _ _ => rfl) fun _ _ _ => rfl

theorem sumOf?_forms {k : Token.Kind} {make} (h : sumOf? k = some make) : Joins make := by
  unfold sumOf? at h
  split at h
  case h_3 => cases h
  all_goals
    cases h
    exact .of_parts (fun _ _ _ => rfl) fun _ _ _ => rfl

theorem andOf?_forms {k : Token.Kind} {make} (h : andOf? k = some make) : Joins make := by
  unfold andOf? at h
  split at h
  · cases h
    exact .of_parts (fun _ _ _ => rfl) fun _ _ _ => rfl
  · cases h

theorem orOf?_forms {k : Token.Kind} {make} (h : orOf? k = some make) : Joins make := by
  unfold orOf? at h
  split at h
  · cases h
    exact .of_parts (fun _ _ _ => rfl) fun _ _ _ => rfl
  · cases h

theorem relationOf?_forms {inPrint : Bool} {k : Token.Kind} {make}
    (h : relationOf? inPrint k = some make) : Joins make := by
  unfold relationOf? at h
  split at h
  case h_3 =>
    split at h
    · cases h
    · cases h
      exact .of_parts (fun _ _ _ => rfl) fun _ _ _ => rfl
  case h_9 => cases h
  all_goals
    cases h
    exact .of_parts (fun _ _ _ => rfl) fun _ _ _ => rfl

namespace Phrases.Forms

open Yields

variable {T : Token → Prop} {self : Phrases} (h : self.Forms T)

include h

theorem multiplicative (n : Nat) : Yields T Expr.Formed (Grammar.multiplicative self n) :=
  (h.unaryLevel n).bind fun _ he =>
    Yields.leftAssoc (h.unaryLevel n) (.pure trivial) productOf?_forms n he

theorem additive (n : Nat) : Yields T Expr.Formed (Grammar.additive self n) :=
  (h.multiplicative n).bind fun _ he =>
    Yields.leftAssoc (h.multiplicative n) (.pure trivial) sumOf?_forms n he

theorem concatenation (n : Nat) : Yields T Expr.Formed (Grammar.concatenation self n) :=
  (h.additive n).bind fun _ he => Yields.concatenated (h.additive n) n he

theorem relational (n : Nat) : Yields T Expr.Formed (Grammar.relational self n) := by
  refine (h.concatenation n).bind fun left hleft => Yields.get.bind fun c _ => ?_
  split
  · exact .pure hleft
  · next make hmake =>
    obtain ⟨k, -, hk⟩ := Option.bind_eq_some_iff.mp hmake
    refine advance.bind fun _ _ => (h.concatenation n).bind fun right hright => .pure ?_
    exact relationOf?_forms hk left right c.place hleft hright

theorem membership (n : Nat) : Yields T Expr.Formed (Grammar.membership self n) :=
  (h.relational n).bind fun _ he => Yields.memberships n he

theorem conjunction (n : Nat) : Yields T Expr.Formed (Grammar.conjunction self n) :=
  (h.membership n).bind fun _ he =>
    Yields.leftAssoc (h.membership n) skipNewlines andOf?_forms n he

theorem disjunction (n : Nat) : Yields T Expr.Formed (Grammar.disjunction self n) :=
  (h.conjunction n).bind fun _ he =>
    Yields.leftAssoc (h.conjunction n) skipNewlines orOf?_forms n he

theorem ternary (n : Nat) : Yields T Expr.Formed (Grammar.ternary self n) := by
  refine (h.disjunction n).bind fun test htest => Yields.place.bind fun place _ => ?_
  refine (accept .question).bind fun taken _ => ?_
  split
  · refine skipNewlines.bind fun _ _ => h.expression.bind fun ifTrue htrue => ?_
    refine skipNewlines.bind fun _ _ => (expect .colon).bind fun _ _ => ?_
    refine skipNewlines.bind fun _ _ => h.expression.bind fun ifFalse hfalse => .pure ?_
    exact .node rfl (by simpa [Expr.parts] using ⟨htest, htrue, hfalse⟩)
  · exact .pure htest

theorem assignment (n : Nat) : Yields T Expr.Formed (Grammar.assignment self n) := by
  refine (h.ternary n).bind fun target htarget => Yields.get.bind fun c _ => ?_
  split
  · exact .pure htarget
  · split
    · next hassignable =>
      refine advance.bind fun _ _ => skipNewlines.bind fun _ _ =>
        h.expression.bind fun value hvalue => .pure (.node hassignable ?_)
      simpa [Expr.parts] using ⟨htarget, hvalue⟩
    · exact .fail _

/-! ## Statements -/

omit h in
theorem endOfStatement : Yields T (fun _ => True) Grammar.endOfStatement := by
  refine Yields.get.bind fun c _ => ?_
  have hother : Yields T (fun _ => True)
      (do unless c.atEnd do Parser.unexpected "end of statement" : Parser Unit) := by
    split
    · exact .pure trivial
    · exact .unexpected _
  cases c.kind? with
  | none => exact hother
  | some k =>
    cases k with
    | mark m =>
      cases m with
      | semicolon => exact advance
      | rightBrace => exact .pure trivial
      | _ => exact hother
    | newline => exact advance
    | _ => exact hother

theorem optionalExpression :
    Yields T (fun e? : Option Expr => ∀ e ∈ e?, e.Formed) (Grammar.optionalExpression self) := by
  refine Yields.get.bind fun c _ => ?_
  split
  · exact h.expression.optional
  · exact .pure (by simp)

/-- An attempt that is given up leaves the tokens as they were. -/
theorem printGroup? (n : Nat) :
    Yields T (fun es? : Option (List Expr) => ∀ es ∈ es?, AllFormed es)
      (Grammar.printGroup? self n) := by
  intro c es? c' hc hrun
  have hgiven : ∀ {c' : Cursor} {es? : Option (List Expr)},
      (.ok none c : EStateM.Result Error Cursor _) = .ok es? c' →
      (∀ es ∈ es?, AllFormed es) ∧ c'.All T := by
    intro c' es? heq
    cases heq
    exact ⟨by simp, hc⟩
  unfold Grammar.printGroup? at hrun
  split at hrun
  · split at hrun
    · exact hgiven hrun
    · next es d hes =>
      obtain ⟨hformed, hd⟩ := (Yields.expressionList h.expression n).nested c.advance es d
        (hc.suffix (advance_suffix c)) hes
      split at hrun
      · cases hrun
        refine ⟨fun es' hes' => ?_, hd.suffix (advance_suffix d)⟩
        cases hes'
        exact hformed.2
      · exact hgiven hrun
  · exact hgiven hrun

omit h in
theorem rejectRedirection : Yields T (fun _ => True) Grammar.rejectRedirection := by
  refine Yields.get.bind fun c _ => ?_
  split
  · exact .fail _
  · exact .fail _
  · exact .fail _
  · exact .pure trivial

theorem printArguments (n : Nat) : Yields T AllFormed (Grammar.printArguments self n) := by
  refine (h.printGroup? n).bind fun es? hes => ?_
  cases es? with
  | some es => exact rejectRedirection.bind fun _ _ => .pure (hes es rfl)
  | none =>
    refine Yields.get.bind fun c _ => ?_
    dsimp only
    split
    · refine ((Yields.expressionList h.expression n).withPrint true).bind fun es hes => ?_
      exact rejectRedirection.bind fun _ _ => .pure hes.2
    · refine (Yields.pure (P := AllFormed) fun e he => by cases he).bind fun es hes => ?_
      exact rejectRedirection.bind fun _ _ => .pure hes

omit h in
theorem leaf {s : Stmt} (hexprs : s.exprs = []) (hparts : s.parts = []) : s.Formed := by
  refine .node (fun e he => ?_) fun part hpart => ?_
  · rw [hexprs] at he
    cases he
  · rw [hparts] at hpart
    cases hpart

theorem keywordStatement? (n : Nat) (k : Keyword) (place : Location) :
    ∀ x ∈ Grammar.keywordStatement? self n k place, Yields T Stmt.Formed x := by
  intro x hx
  unfold Grammar.keywordStatement? at hx
  cases k with
  | break_ | continue_ | next | nextFile => cases hx; exact .pure (leaf rfl rfl)
  | exit | return_ =>
    cases hx
    refine h.optionalExpression.bind fun e he =>
      .pure (.node (fun e' he' => ?_) fun s hs => by cases hs)
    exact he e' (Option.mem_toList.mp he')
  | delete =>
    cases hx
    refine expectIdentifier.bind fun array _ => (accept .leftBracket).bind fun taken _ => ?_
    have hnode : ∀ index, AllFormed index → (Stmt.delete array index place).Formed :=
      fun index hindex => .node hindex fun s hs => by cases hs
    dsimp only
    split
    · exact (h.subscripts n).bind fun index hindex => .pure (hnode index hindex.2)
    · exact (Yields.pure (P := AllFormed) fun e he => by cases he).bind fun index hindex =>
        .pure (hnode index hindex)
  | print =>
    cases hx
    exact (h.printArguments n).bind fun args hargs => .pure (.node hargs fun s hs => by cases hs)
  | printf =>
    cases hx
    refine (h.printArguments n).bind fun args hargs => ?_
    cases args with
    | nil => exact .fail _
    | cons format args => exact .pure (.node hargs fun s hs => by cases hs)
  | _ => cases hx

theorem simpleStatement (n : Nat) : Yields T Stmt.Formed (Grammar.simpleStatement self n) := by
  have hexpr : Yields T Stmt.Formed (do return .expr (← Grammar.assignment self n)) :=
    (h.assignment n).bind fun e he =>
      .pure (.node (List.forall_mem_singleton.mpr he) fun s hs => by cases hs)
  refine Yields.get.bind fun c _ => ?_
  cases c.kind? with
  | none => exact .unexpected _
  | some k =>
    cases k with
    | keyword w =>
      dsimp only
      split
      · next x hx => exact advance.bind fun _ _ => h.keywordStatement? n w c.place x hx
      · exact hexpr
    | _ => exact hexpr

theorem blockBody (n : Nat) :
    Yields T (fun body => ∀ s ∈ body, s.Formed) (Grammar.blockBody self.statement n) := by
  induction n with
  | zero => exact .pure fun s hs => by cases hs
  | succ n ih =>
    refine Yields.get.bind fun c _ => ?_
    split
    · exact .pure fun s hs => by cases hs
    · split
      · exact .fail _
      · refine h.statement.bind fun s hs => skipTerminators.bind fun _ _ => ih.bind fun ss hss => ?_
        exact .pure (List.forall_mem_cons.mpr ⟨hs, hss⟩)

theorem block (n : Nat) :
    Yields T (fun b : Block => ∀ s ∈ b.body, s.Formed) (Grammar.block self n) := by
  refine Yields.place.bind fun place _ => (expect .leftBrace).bind fun _ _ => ?_
  refine skipTerminators.bind fun _ _ => (h.blockBody n).bind fun body hbody => ?_
  exact (expect .rightBrace).bind fun _ _ => .pure hbody

theorem condition : Yields T Expr.Formed (Grammar.condition self) := by
  refine (expect .leftParen).bind fun _ _ => h.expression.nested.bind fun e he => ?_
  exact (expect .rightParen).bind fun _ _ => .pure he

theorem loopBody : Yields T Stmt.Formed (Grammar.loopBody self) := by
  refine (accept .semicolon).bind fun taken _ => ?_
  split
  · exact .pure (leaf rfl rfl)
  · exact skipNewlines.bind fun _ _ => h.statement

theorem ifStatement (place : Location) :
    Yields T Stmt.Formed (Grammar.ifStatement self place) := by
  refine h.condition.bind fun test htest => skipNewlines.bind fun _ _ => ?_
  refine h.statement.bind fun ifTrue htrue => Yields.get.bind fun before hbefore => ?_
  refine skipTerminators.bind fun _ _ => (acceptKeyword .else_).bind fun taken _ => ?_
  have htest' : ∀ e ∈ [test], e.Formed := List.forall_mem_singleton.mpr htest
  split
  · refine skipNewlines.bind fun _ _ => h.statement.bind fun ifFalse hfalse => ?_
    exact .pure (.node htest' (by simpa [Stmt.parts] using ⟨htrue, hfalse⟩))
  · exact (Yields.set hbefore).bind fun _ _ =>
      .pure (.node htest' (by simpa [Stmt.parts] using htrue))

theorem whileStatement (place : Location) :
    Yields T Stmt.Formed (Grammar.whileStatement self place) :=
  h.condition.bind fun _ htest => h.loopBody.bind fun _ hbody =>
    .pure (.node (List.forall_mem_singleton.mpr htest) (List.forall_mem_singleton.mpr hbody))

theorem doStatement (place : Location) :
    Yields T Stmt.Formed (Grammar.doStatement self place) := by
  refine skipNewlines.bind fun _ _ => h.statement.bind fun body hbody => ?_
  refine skipTerminators.bind fun _ _ => (expectKeyword .while_).bind fun _ _ => ?_
  refine h.condition.bind fun test htest => endOfStatement.bind fun _ _ => ?_
  exact .pure (.node (List.forall_mem_singleton.mpr htest) (List.forall_mem_singleton.mpr hbody))

theorem forClause (terminator : Mark) :
    Yields T (fun e? : Option Expr => ∀ e ∈ e?, e.Formed) (Grammar.forClause self terminator) := by
  refine Yields.get.bind fun c _ => ?_
  have hend : ∀ clause : Option Expr, (∀ e ∈ clause, e.Formed) →
      Yields T (fun e? : Option Expr => ∀ e ∈ e?, e.Formed) (do
        Parser.expect terminator
        Parser.skipNewlines
        return clause) :=
    fun clause hclause => (expect terminator).bind fun _ _ => skipNewlines.bind fun _ _ =>
      .pure hclause
  dsimp only
  split
  · exact (Yields.pure (by simp)).bind hend
  · exact h.expression.nested.optional.bind hend

omit h in
theorem forInHeader?_suffix {c c' : Cursor} {var array : String}
    (hc : Grammar.forInHeader? c = some (var, array, c')) : c'.rest <:+ c.rest := by
  unfold Grammar.forInHeader? at hc
  split at hc
  · next hrest =>
    cases hc
    rw [hrest]
    exact List.suffix_append [_, _, _, _] _
  · cases hc

theorem forStatement (place : Location) :
    Yields T Stmt.Formed (Grammar.forStatement self place) := by
  refine (expect .leftParen).bind fun _ _ => Yields.get.bind fun c hc => ?_
  split
  · next var array c' hheader =>
    refine (Yields.set (hc.suffix (forInHeader?_suffix hheader))).bind fun _ _ => ?_
    refine h.loopBody.bind fun body hbody => .pure (.node (fun e he => by cases he) ?_)
    exact List.forall_mem_singleton.mpr hbody
  · refine (h.forClause .semicolon).bind fun init hinit => ?_
    refine (h.forClause .semicolon).bind fun test htest => ?_
    refine (h.forClause .rightParen).bind fun update hupdate => ?_
    refine h.loopBody.bind fun body hbody => .pure (.node (fun e he => ?_) ?_)
    · simp only [Stmt.exprs, List.mem_append, Option.mem_toList] at he
      rcases he with (he | he) | he
      · exact hinit e he
      · exact htest e he
      · exact hupdate e he
    · exact List.forall_mem_singleton.mpr hbody

theorem statementLevel (n : Nat) : Yields T Stmt.Formed (Grammar.statement self n) := by
  have hsimple : Yields T Stmt.Formed (do
      let s ← Grammar.simpleStatement self n
      Grammar.endOfStatement
      return s) :=
    (h.simpleStatement n).bind fun _ hs => endOfStatement.bind fun _ _ => .pure hs
  refine skipNewlines.bind fun _ _ => Yields.get.bind fun c _ => ?_
  cases c.kind? with
  | none => exact hsimple
  | some k =>
    cases k with
    | mark m =>
      cases m with
      | semicolon => exact advance.bind fun _ _ => .pure (leaf rfl rfl)
      | leftBrace =>
        exact (h.block n).bind fun b hb => .pure (.node (fun e he => by cases he) hb)
      | _ => exact hsimple
    | keyword w =>
      cases w with
      | if_ => exact advance.bind fun _ _ => h.ifStatement c.place
      | while_ => exact advance.bind fun _ _ => h.whileStatement c.place
      | for_ => exact advance.bind fun _ _ => h.forStatement c.place
      | do_ => exact advance.bind fun _ _ => h.doStatement c.place
      | _ => exact hsimple
    | _ => exact hsimple

omit h in
/-- Phrases of any depth are well formed. -/
theorem all (n : Nat) : (phrases n).Forms T := by
  induction n with
  | zero =>
    exact ⟨.unexpected _, .unexpected _, .unexpected _, .unexpected _,
      fun _ _ _ _ hrun => (by cases hrun), .unexpected _⟩
  | succ n ih =>
    exact ⟨ih.assignment n, ih.unaryLevel n, ih.incrementLevel n, ih.fieldLevel n,
      fun c e c' hat hrun => field_isAssignable hat hrun, ih.statementLevel n⟩

end Phrases.Forms
end Grammar

/-! ## Rules and functions -/

/-- A token of these spells the name where no built-in function is meant. -/
def Token.Names (T : Token → Prop) (name : String) : Prop :=
  ∃ t, T t ∧ (t.kind = .identifier name ∨ t.kind = .funcName name)

theorem Token.Names.mono {T T' : Token → Prop} {name : String} (h : Names T name)
    (hT : ∀ ⦃t⦄, T t → T' t) : Names T' name :=
  let ⟨t, ht, hkind⟩ := h
  ⟨t, hT ht, hkind⟩

namespace Function

/-- The parameters have names of their own, and each has a mark. -/
structure WellFormed (f : Function) : Prop where
  distinct : f.params.Nodup
  other : f.name ∉ f.params
  marks : f.arrayParams.length = f.params.length

end Function

namespace Rule

/-- Rules that no record selects have an action. -/
def Acts (r : Rule) : Prop := r.isBegin ∨ r.isEnd → r.action.isSome

end Rule

namespace Program

/-- What can be relied on in a program that has been read.  That the ends of a range are tests, and
nothing else that stands before an action, is in the type of patterns. -/
structure WellFormed (p : Program) : Prop where
  terms : p.Everywhere (·.isFormed) fun _ => True
  acts : ∀ r ∈ p.rules, r.Acts
  names : (p.functions.map (·.name)).Nodup
  functions : ∀ f ∈ p.functions, f.WellFormed

end Program

namespace Grammar

open Yields

variable {T : Token → Prop}

theorem parameters_yields {function : String} (n : Nat) {seen : List String}
    (hseen : seen.Nodup ∧ function ∉ seen) :
    Yields T (fun params => params.Nodup ∧ function ∉ params) (parameters function n seen) := by
  induction n generalizing seen with
  | zero => exact .pure hseen
  | succ n ih =>
    refine expectIdentifier.bind fun param _ => ?_
    split
    · exact .fail _
    · next hnew =>
      simp only [Bool.or_eq_true, beq_iff_eq, List.contains_iff_mem, not_or] at hnew
      have hmore : (seen ++ [param]).Nodup ∧ function ∉ seen ++ [param] := by
        refine ⟨List.nodup_append.mpr ⟨hseen.1, List.nodup_singleton param, ?_⟩, ?_⟩
        · rintro a ha b hb rfl
          rw [List.mem_singleton.mp hb] at ha
          exact hnew.2 ha
        · simpa using ⟨hseen.2, Ne.symm hnew.1⟩
      refine (accept .comma).bind fun taken _ => ?_
      split
      · exact ih hmore
      · exact .pure hmore

/-- The name of a function is not taken from a token of a built-in one. -/
theorem functionName_yields : Yields T (Token.Names T) functionName := by
  intro c name c' hc hrun
  obtain ⟨d, c₁, hd, hrun⟩ := bind_ok_inv hrun
  cases hd
  have htaken : ∀ {k : Token.Kind}, c.kind? = some k → (∃ t, T t ∧ t.kind = k) := by
    intro k hk
    obtain ⟨t, ts, hrest, ht⟩ := kind?_eq_some hk
    exact ⟨t, hc t (by rw [hrest]; exact List.mem_cons_self ..), ht⟩
  cases hk : c.kind? with
  | none =>
    rw [hk] at hrun
    cases hrun
  | some k =>
    rw [hk] at hrun
    cases k with
    | identifier spelled =>
      obtain ⟨⟨⟩, c₂, hadvance, hrun⟩ := bind_ok_inv hrun
      cases hrun
      obtain ⟨t, ht, hkind⟩ := htaken hk
      exact ⟨⟨t, ht, .inl hkind⟩, (advance c () c' hc hadvance).2⟩
    | funcName spelled =>
      obtain ⟨⟨⟩, c₂, hadvance, hrun⟩ := bind_ok_inv hrun
      cases hrun
      obtain ⟨t, ht, hkind⟩ := htaken hk
      exact ⟨⟨t, ht, .inr hkind⟩, (advance c () c' hc hadvance).2⟩
    | _ => cases hrun

namespace Phrases.Forms

variable {self : Phrases} (h : self.Forms T)

include h

theorem functionDefinition (n : Nat) :
    Yields T (fun f : Function => Token.Names T f.name ∧ f.WellFormed ∧ ∀ s ∈ f.body.body, s.Formed)
      (Grammar.functionDefinition self n) := by
  refine Yields.place.bind fun place _ => (expectKeyword .function).bind fun _ _ => ?_
  refine functionName_yields.bind fun name hname => (expect .leftParen).bind fun _ _ => ?_
  refine Yields.get.bind fun c _ => ?_
  have hrest : ∀ params : List String, params.Nodup ∧ name ∉ params →
      Yields T (fun f : Function =>
        Token.Names T f.name ∧ f.WellFormed ∧ ∀ s ∈ f.body.body, s.Formed) (do
          Parser.expect .rightParen
          Parser.skipNewlines
          let body ← Grammar.block self n
          return { name, params, arrayParams := params.map fun _ => false, body, place }) := by
    intro params hparams
    refine (expect .rightParen).bind fun _ _ => skipNewlines.bind fun _ _ => ?_
    exact (h.block n).bind fun body hbody =>
      .pure ⟨hname, ⟨hparams.1, hparams.2, List.length_map _⟩, hbody⟩
  dsimp only
  split
  · exact (Yields.pure (by simp)).bind hrest
  · exact (parameters_yields n (by simp)).bind hrest

theorem test : Yields T (fun t => ∀ e ∈ Pattern.exprs.ofTest t, e.Formed) (Grammar.test self) := by
  refine h.expression.bind fun e he => ?_
  split
  · exact .pure fun e he => by cases he
  · exact .pure (List.forall_mem_singleton.mpr he)

theorem testOrRange :
    Yields T (fun pattern : Pattern => (∀ e ∈ pattern.exprs, e.Formed) ∧
      pattern ≠ .begin_ ∧ pattern ≠ .end_) (Grammar.testOrRange self) := by
  refine h.test.bind fun first hfirst => (accept .comma).bind fun taken _ => ?_
  split
  · refine skipNewlines.bind fun _ _ => h.test.bind fun last hlast => .pure ⟨?_, nofun, nofun⟩
    exact List.forall_mem_append.mpr ⟨hfirst, hlast⟩
  · exact .pure ⟨hfirst, nofun, nofun⟩

/-- What is known of a rule that has been read. -/
def FormedRule (r : Rule) : Prop :=
  (∀ pattern ∈ r.pattern, ∀ e ∈ pattern.exprs, e.Formed) ∧
    (∀ action ∈ r.action, ∀ s ∈ action.body, s.Formed) ∧ r.Acts

/-- What follows the pattern of a rule.  Where a brace is next, there is an action. -/
theorem ruleEnd {n : Nat} {pattern : Option Pattern} {place : Location}
    (hpattern : ∀ t ∈ pattern, ∀ e ∈ t.exprs, e.Formed) {c c' : Cursor} {r : Rule} (hc : c.All T)
    (hacts : (Rule.mk pattern none place).Acts ∨ c.isMark .leftBrace)
    (hrun : (do
      if (← get).isMark .leftBrace then
        return { pattern, action := some (← Grammar.block self n), place }
      else
        Grammar.endOfStatement
        return { pattern, action := none, place } : Parser Rule) c = .ok r c') :
    FormedRule r ∧ c'.All T := by
  rw [bind_of_ok (get_run c)] at hrun
  split at hrun
  · obtain ⟨action, c₁, haction, hrun⟩ := bind_ok_inv hrun
    cases hrun
    obtain ⟨hbody, hc'⟩ := h.block n c action c' hc haction
    refine ⟨⟨hpattern, fun b hb => ?_, fun _ => rfl⟩, hc'⟩
    cases hb
    exact hbody
  · next hbrace =>
    obtain ⟨⟨⟩, c₁, hend, hrun⟩ := bind_ok_inv hrun
    cases hrun
    exact ⟨⟨hpattern, nofun, hacts.resolve_right hbrace⟩, (endOfStatement c () c' hc hend).2⟩

omit h in
theorem special {pattern : Pattern} {keyword : String} {c c' : Cursor} {found : Option Pattern}
    (hc : c.All T) (hrun : Grammar.special pattern keyword c = .ok found c') :
    found = some pattern ∧ c'.isMark .leftBrace ∧ c'.All T := by
  obtain ⟨⟨⟩, c₁, hadvance, hrun⟩ := bind_ok_inv hrun
  obtain ⟨⟨⟩, c₂, hskip, hrun⟩ := bind_ok_inv hrun
  have hc₂ := (skipNewlines c₁ () c₂ (advance c () c₁ hc hadvance).2 hskip).2
  rw [bind_of_ok (get_run c₂)] at hrun
  split at hrun
  · next hbrace =>
    cases hrun
    exact ⟨rfl, hbrace, hc₂⟩
  · cases hrun

theorem rule (n : Nat) : Yields T FormedRule (Grammar.rule self n) := by
  intro c r c' hc hrun
  rw [Grammar.rule, bind_of_ok (get_run c)] at hrun
  have hspecial : ∀ {pattern : Pattern} {keyword : String} {found : Option Pattern} {c₁ : Cursor},
      pattern.exprs = [] → Grammar.special pattern keyword c = .ok found c₁ →
      (∀ t ∈ found, ∀ e ∈ t.exprs, e.Formed) ∧ c₁.isMark .leftBrace ∧ c₁.All T := by
    intro pattern keyword found c₁ hexprs hspecial
    obtain ⟨rfl, hbrace, hc₁⟩ := special hc hspecial
    refine ⟨fun t ht e he => ?_, hbrace, hc₁⟩
    cases ht
    rw [hexprs] at he
    cases he
  have hordinary : ((some <$> Grammar.testOrRange self) >>= fun pattern => (do
        if (← get).isMark .leftBrace then
          return { pattern, action := some (← Grammar.block self n), place := c.place }
        else
          Grammar.endOfStatement
          return { pattern, action := none, place := c.place } : Parser Rule)) c = .ok r c' →
      FormedRule r ∧ c'.All T := by
    intro hrun
    obtain ⟨pattern, c₁, hpattern, hrun⟩ := bind_ok_inv hrun
    rw [map_eq_pure_bind] at hpattern
    obtain ⟨t, c₂, htest, hpure⟩ := bind_ok_inv hpattern
    cases hpure
    obtain ⟨⟨hformed, hbegin, hend⟩, hc₁⟩ := h.testOrRange c t c₁ hc htest
    refine h.ruleEnd (fun t' ht' => by cases ht'; exact hformed) hc₁ (.inl fun hkind => ?_) hrun
    cases t with
    | begin_ => exact absurd rfl hbegin
    | end_ => exact absurd rfl hend
    | test _ | range _ _ => simp [Rule.isBegin, Rule.isEnd] at hkind
  dsimp only at hrun
  cases hk : c.kind? with
  | none =>
    rw [hk] at hrun
    exact hordinary hrun
  | some k =>
    rw [hk] at hrun
    cases k with
    | keyword w =>
      cases w with
      | begin_ | end_ =>
        obtain ⟨pattern, c₁, hpattern, hrun⟩ := bind_ok_inv hrun
        obtain ⟨hformed, hbrace, hc₁⟩ := hspecial rfl hpattern
        exact h.ruleEnd hformed hc₁ (.inr hbrace) hrun
      | _ => exact hordinary hrun
    | mark m =>
      cases m with
      | leftBrace =>
        have hnone : ∀ t ∈ (none : Option Pattern), ∀ e ∈ t.exprs, e.Formed := nofun
        obtain ⟨pattern, c₁, hpattern, hrun⟩ := bind_ok_inv hrun
        cases hpattern
        refine h.ruleEnd hnone hc (.inl fun hkind => ?_) hrun
        simp [Rule.isBegin, Rule.isEnd] at hkind
      | _ => exact hordinary hrun
    | _ => exact hordinary hrun

/-- What is known of a program while it is read. -/
structure FormedItems (T : Token → Prop) (p : Program) : Prop where
  rules : ∀ r ∈ p.rules, FormedRule r
  names : (p.functions.map (·.name)).Nodup
  spelled : ∀ f ∈ p.functions, Token.Names T f.name
  functions : ∀ f ∈ p.functions, f.WellFormed ∧ ∀ s ∈ f.body.body, s.Formed

theorem items (n m : Nat) {p : Program} (hp : FormedItems T p) :
    Yields T (FormedItems T) (Grammar.items self n m p) := by
  induction m generalizing p with
  | zero => exact .pure hp
  | succ m ih =>
    refine Yields.get.bind fun c _ => ?_
    split
    · exact .pure hp
    · split
      · refine (h.functionDefinition n).bind fun f hf => ?_
        split
        · exact .failAt _ _
        · next hnew =>
          refine skipTerminators.bind fun _ _ => ih ⟨hp.rules, ?_, ?_, ?_⟩
          · rw [List.map_append]
            refine List.nodup_append.mpr ⟨hp.names, List.nodup_singleton _, ?_⟩
            rintro a ha b hb rfl
            obtain ⟨g, hg, hname⟩ := List.mem_map.mp ha
            refine hnew (List.find?_isSome.mpr ⟨g, hg, ?_⟩)
            rw [hname, List.mem_singleton.mp hb]
            exact beq_self_eq_true _
          · exact List.forall_mem_append.mpr ⟨hp.spelled, List.forall_mem_singleton.mpr hf.1⟩
          · exact List.forall_mem_append.mpr ⟨hp.functions, List.forall_mem_singleton.mpr hf.2⟩
      · refine (h.rule n).bind fun r hr => skipTerminators.bind fun _ _ =>
          ih ⟨?_, hp.names, hp.spelled, hp.functions⟩
        exact List.forall_mem_append.mpr ⟨hp.rules, List.forall_mem_singleton.mpr hr⟩

omit h in
/-- To mark parameters changes nothing else. -/
theorem FormedItems.marked {p : Program} (hp : FormedItems T p) {mark : Function → Function}
    (hname : ∀ f, (mark f).name = f.name) (hbody : ∀ f, (mark f).body = f.body)
    (hparams : ∀ f, (mark f).params = f.params)
    (hmarks : ∀ f, f.WellFormed → (mark f).arrayParams.length = f.params.length) :
    FormedItems T { p with functions := p.functions.map mark } := by
  refine ⟨hp.rules, ?_, ?_, ?_⟩
  · have hnames : (p.functions.map mark).map (·.name) = p.functions.map (·.name) := by
      rw [List.map_map]
      exact List.map_congr_left fun f _ => hname f
    rw [hnames]
    exact hp.names
  · intro f hf
    obtain ⟨g, hg, rfl⟩ := List.mem_map.mp hf
    rw [hname]
    exact hp.spelled g hg
  · intro f hf
    obtain ⟨g, hg, rfl⟩ := List.mem_map.mp hf
    obtain ⟨hformed, hstatements⟩ := hp.functions g hg
    refine ⟨⟨?_, ?_, ?_⟩, ?_⟩
    · rw [hparams]
      exact hformed.distinct
    · rw [hparams, hname]
      exact hformed.other
    · rw [hparams]
      exact hmarks g hformed
    · rw [hbody]
      exact hstatements

omit h in
theorem FormedItems.resolved {p : Program} (hp : FormedItems T p) :
    FormedItems T p.resolveArrayParams := by
  have hstart : FormedItems T { p with functions := p.functions.map Function.markDirect } :=
    hp.marked (fun _ => rfl) (fun _ => rfl) (fun _ => rfl) fun f _ => f.markDirect_marked.length
  exact Program.closeForwards_keeps (P := fun functions => FormedItems T { p with functions })
    (fun functions hall => hall.marked (fun _ => rfl) (fun _ => rfl) (fun _ => rfl)
      fun f hf => Function.markForwarded_length hf.marks) _ _ hstart

omit h in
theorem FormedItems.wellFormed {p : Program} (hp : FormedItems T p) : p.WellFormed where
  terms := ⟨fun r hr => (hp.rules r hr).1, fun r hr => (hp.rules r hr).2.1,
    fun f hf => (hp.functions f hf).2⟩
  acts r hr := (hp.rules r hr).2.2
  names := hp.names
  functions f hf := (hp.functions f hf).1

end Phrases.Forms
end Grammar

/-- What is read is well formed, and its functions have names that tokens spell. -/
theorem parseTokens_formed {tokens : List Token} {p : Program} (h : parseTokens tokens = .ok p) :
    p.WellFormed ∧ ∀ f ∈ p.functions, Token.Names (· ∈ tokens) f.name := by
  unfold parseTokens at h
  dsimp only at h
  split at h
  · next p₀ c hread =>
    cases h
    obtain ⟨⟨⟩, c₁, hskip, hitems⟩ := bind_ok_inv hread
    have hc₁ : c₁.All (· ∈ tokens) :=
      (Yields.skipTerminators (.ofTokens tokens) () c₁ (fun t ht => ht) hskip).2
    have hempty : Grammar.Phrases.Forms.FormedItems (· ∈ tokens) { rules := [], functions := [] } :=
      ⟨nofun, List.nodup_nil, nofun, nofun⟩
    have hitems' := ((Grammar.Phrases.Forms.all _).items _ _ hempty c₁ p₀ c hc₁ hitems).1.resolved
    exact ⟨hitems'.wellFormed, hitems'.spelled⟩
  · cases h

/-! ## Names that texts spell -/

namespace Scanner

/-- The word of a built-in function is scanned as such. -/
theorem wordKind_name {word name : String} {next : Option Char}
    (h : wordKind word next = .identifier name ∨ wordKind word next = .funcName name) :
    Builtin.ofName? name = none := by
  unfold wordKind at h
  split at h
  · rcases h with h | h <;> cases h
  · rcases h with h | h <;> cases h
  · next hname =>
    split at h <;> rcases h with h | h <;> cases h <;> exact hname

/-- A token spells no name of a built-in function. -/
def NoBuiltin (t : Token) : Prop :=
  ∀ name, t.kind = .identifier name ∨ t.kind = .funcName name → Builtin.ofName? name = none

theorem scanKind_noBuiltin {afterOperand : Bool} {place place' : Location} {cs rest : List Char}
    {kind : Token.Kind} {name : String}
    (h : scanKind afterOperand place cs = .ok (kind, rest, place'))
    (hname : kind = .identifier name ∨ kind = .funcName name) : Builtin.ofName? name = none := by
  unfold scanKind scanNumber at h
  dsimp only at h
  repeat' split at h
  all_goals cases h
  -- Only words spell names.
  all_goals first
    | exact wordKind_name hname
    | rcases hname with hname | hname <;> cases hname

theorem tokensFrom_noBuiltin (fuel : Nat) (previous : Option Token) (s : Scanner) :
    ∀ {ts : List Token}, tokensFrom fuel previous s = .ok ts → ∀ t ∈ ts, NoBuiltin t := by
  have hnext : ∀ {s s' : Scanner} {t : Token}, s.nextToken = .ok (t, s') → NoBuiltin t := by
    intro s s' t h name hname
    unfold nextToken at h
    dsimp only at h
    split at h
    · cases h
    · next hscan =>
      cases h
      exact scanKind_noBuiltin hscan hname
  fun_induction tokensFrom fuel previous s with
  | case1 =>
    intro ts h
    cases h
    exact nofun
  | case2 =>
    intro ts h
    cases h
  | case3 fuel previous s t s' hread heof =>
    intro ts h
    cases h
    exact List.forall_mem_singleton.mpr (hnext hread)
  | case4 fuel previous s t s' hread heof habsorbed ih => exact ih
  | case5 fuel previous s t s' hread heof habsorbed e hrest ih =>
    intro ts h
    cases h
  | case6 fuel previous s t s' hread heof habsorbed rest hrest ih =>
    intro ts h
    cases h
    exact List.forall_mem_cons.mpr ⟨hnext hread, ih hrest⟩

end Scanner

/-- Functions of a text do not have the names of built-in ones. -/
theorem tokenize_names {source : String} {tokens : List Token} (h : tokenize source = .ok tokens)
    {name : String} (hname : Token.Names (· ∈ tokens) name) : Builtin.ofName? name = none := by
  obtain ⟨t, ht, hkind⟩ := hname
  exact Scanner.tokensFrom_noBuiltin _ _ _ h t ht name hkind

end Awk
