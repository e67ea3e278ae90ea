import Awk.Grammar.Expression

/-!
# How expressions are written

The grammar of expressions has levels, from assignments, which bind loosest, to primaries.  A tree
is written by putting parentheses around every operand that is looser than its place allows:
`Expr.grouped` adds a group there and nowhere else, and `Expr.spelling` gives the kinds of the
tokens of a tree in which all groups are present.  Nothing here looks at the parser.
-/

namespace Awk

/-- The levels of the grammar, loosest first. -/
inductive Level where
  | assignment | ternary | disjunction | conjunction | membership | relational | concatenation
  | additive | multiplicative | unary | power | increment | postfixed | field | primary
deriving DecidableEq, Repr

namespace Level

/-- How tightly a level binds. -/
def rank : Level → Nat
  | assignment => 0
  | ternary => 1
  | disjunction => 2
  | conjunction => 3
  | membership => 4
  | relational => 5
  | concatenation => 6
  | additive => 7
  | multiplicative => 8
  | unary => 9
  | power => 10
  | increment => 11
  | postfixed => 12
  | field => 13
  | primary => 14

instance : LE Level := ⟨fun a b => a.rank ≤ b.rank⟩

instance (a b : Level) : Decidable (a ≤ b) := inferInstanceAs (Decidable (a.rank ≤ b.rank))

theorem le_primary (l : Level) : l ≤ primary := by cases l <;> decide

end Level

namespace Arith

def level : Arith → Level
  | add | sub => .additive
  | mul | div | mod => .multiplicative
  | pow => .power

/-- The loosest level that may stand at the left of an operator. -/
def leftLevel : Arith → Level
  | add | sub => .additive
  | mul | div | mod => .multiplicative
  | pow => .increment

def rightLevel : Arith → Level
  | add | sub => .multiplicative
  | mul | div | mod | pow => .unary

def mark : Arith → Mark
  | add => .plus
  | sub => .minus
  | mul => .star
  | div => .slash
  | mod => .percent
  | pow => .caret

/-- The mark of an assignment that combines with the old value. -/
def assignMark : Option Arith → Mark
  | none => .assign
  | some add => .plusAssign
  | some sub => .minusAssign
  | some mul => .starAssign
  | some div => .slashAssign
  | some mod => .percentAssign
  | some pow => .caretAssign

end Arith

namespace Relation

def mark : Relation → Mark
  | lt => .less
  | le => .lessEqual
  | gt => .greater
  | ge => .greaterEqual
  | eq => .equal
  | ne => .notEqual

end Relation

namespace Logic

def level : Logic → Level
  | and => .conjunction
  | or => .disjunction

def rightLevel : Logic → Level
  | and => .membership
  | or => .conjunction

def mark : Logic → Mark
  | and => .and
  | or => .or

end Logic

namespace UnaryOp

def mark : UnaryOp → Mark
  | neg => .minus
  | pos => .plus
  | not => .not

end UnaryOp

namespace Step

def level : Step → Level
  | preIncrement | preDecrement => .increment
  | postIncrement | postDecrement => .postfixed

def mark : Step → Mark
  | preIncrement | postIncrement => .increment
  | preDecrement | postDecrement => .decrement

end Step

namespace Expr

def level : Expr → Level
  | assign .. => .assignment
  | cond .. => .ternary
  | logic op .. => op.level
  | contains .. => .membership
  | relation .. | matching .. => .relational
  | concat .. => .concatenation
  | arith op .. => op.level
  | unary .. => .unary
  | step how .. => how.level
  | field .. => .field
  | number .. | string .. | regex .. | var .. | element .. | call .. | builtin .. | getline ..
  | group .. => .primary

/-- The expression as an operand in a place for level `l`: in parentheses if it is looser. -/
def within (l : Level) (e : Expr) : Expr := if l ≤ e.level then e else .group e e.place

mutual

/-- The tree with a group around every operand that is looser than its place allows.  The operands
of a concatenation and the number of a field have to be primaries. -/
def grouped : Expr → Expr
  | field index l => field (index.grouped.within .primary) l
  | element array indices l => element array (groupedAll indices) l
  | arith op left right l =>
    arith op (left.grouped.within op.leftLevel) (right.grouped.within op.rightLevel) l
  | relation op left right l =>
    relation op (left.grouped.within .concatenation) (right.grouped.within .concatenation) l
  | logic op left right l =>
    logic op (left.grouped.within op.level) (right.grouped.within op.rightLevel) l
  | concat left right l =>
    concat (left.grouped.within .primary) (right.grouped.within .primary) l
  | unary op operand l => unary op (operand.grouped.within .unary) l
  | assign op target value l => assign op target.grouped (value.grouped.within .assignment) l
  | step how target l => step how target.grouped l
  | cond test ifTrue ifFalse l =>
    cond (test.grouped.within .disjunction) (ifTrue.grouped.within .assignment)
      (ifFalse.grouped.within .assignment) l
  | contains [key] array l => contains [key.grouped.within .membership] array l
  | matching subject pattern negated l =>
    matching (subject.grouped.within .concatenation) (pattern.grouped.within .concatenation)
      negated l
  | e => e

/-- Subscripts stand between commas, where anything is allowed. -/
def groupedAll : List Expr → List Expr
  | [] => []
  | e :: es => e.grouped.within .assignment :: groupedAll es

end

mutual

/-- The kinds of the tokens that write an expression with all its groups. -/
def spelling : Expr → List Token.Kind
  | number x _ => [.number x]
  | string s _ => [.string s]
  | regex pattern _ => [.regex pattern]
  | var name _ => [.identifier name]
  | field index _ => .mark .dollar :: index.spelling
  | element array indices _ =>
    .identifier array :: .mark .leftBracket :: spellingOfList indices ++ [.mark .rightBracket]
  | arith op left right _ => left.spelling ++ .mark op.mark :: right.spelling
  | relation op left right _ => left.spelling ++ .mark op.mark :: right.spelling
  | logic op left right _ => left.spelling ++ .mark op.mark :: right.spelling
  | concat left right _ => left.spelling ++ right.spelling
  | unary op operand _ => .mark op.mark :: operand.spelling
  | assign op target value _ => target.spelling ++ .mark (Arith.assignMark op) :: value.spelling
  | step .preIncrement target _ => .mark .increment :: target.spelling
  | step .preDecrement target _ => .mark .decrement :: target.spelling
  | step .postIncrement target _ => target.spelling ++ [.mark .increment]
  | step .postDecrement target _ => target.spelling ++ [.mark .decrement]
  | cond test ifTrue ifFalse _ =>
    test.spelling ++ .mark .question :: ifTrue.spelling ++ .mark .colon :: ifFalse.spelling
  | contains [key] array _ => key.spelling ++ [.keyword .in_, .identifier array]
  | contains key array _ =>
    .mark .leftParen :: spellingOfList key ++
      [.mark .rightParen, .keyword .in_, .identifier array]
  | matching subject pattern negated _ =>
    subject.spelling ++ .mark (if negated then .notTilde else .tilde) :: pattern.spelling
  | call name args _ =>
    .funcName name :: .mark .leftParen :: spellingOfList args ++ [.mark .rightParen]
  | builtin b args _ =>
    .builtin b :: .mark .leftParen :: spellingOfList args ++ [.mark .rightParen]
  | getline target file _ =>
    .keyword .getline :: spellingOf? [] target ++ spellingOf? [.mark .less] file
  | group inner _ => .mark .leftParen :: inner.spelling ++ [.mark .rightParen]

def spellingOf? (before : List Token.Kind) : Option Expr → List Token.Kind
  | none => []
  | some e => before ++ e.spelling

def spellingOfList : List Expr → List Token.Kind
  | [] => []
  | e :: es => e.spelling ++ spellingOfMore es

/-- The rest of a list, a comma before each of its members. -/
def spellingOfMore : List Expr → List Token.Kind
  | [] => []
  | e :: es => .mark .comma :: e.spelling ++ spellingOfMore es

end

mutual

/-- The tree without its places: all of them are the start of the text. -/
def unplaced : Expr → Expr
  | number x _ => number x .start
  | string s _ => string s .start
  | regex pattern _ => regex pattern .start
  | var name _ => var name .start
  | field index _ => field index.unplaced .start
  | element array indices _ => element array (unplacedAll indices) .start
  | arith op left right _ => arith op left.unplaced right.unplaced .start
  | relation op left right _ => relation op left.unplaced right.unplaced .start
  | logic op left right _ => logic op left.unplaced right.unplaced .start
  | concat left right _ => concat left.unplaced right.unplaced .start
  | unary op operand _ => unary op operand.unplaced .start
  | assign op target value _ => assign op target.unplaced value.unplaced .start
  | step how target _ => step how target.unplaced .start
  | cond test ifTrue ifFalse _ => cond test.unplaced ifTrue.unplaced ifFalse.unplaced .start
  | call name args _ => call name (unplacedAll args) .start
  | builtin b args _ => builtin b (unplacedAll args) .start
  | contains key array _ => contains (unplacedAll key) array .start
  | matching subject pattern negated _ =>
    matching subject.unplaced pattern.unplaced negated .start
  | getline target file _ => getline (unplaced? target) (unplaced? file) .start
  | group inner _ => group inner.unplaced .start

def unplaced? : Option Expr → Option Expr
  | none => none
  | some e => some e.unplaced

def unplacedAll : List Expr → List Expr
  | [] => []
  | e :: es => e.unplaced :: unplacedAll es

end

mutual

/-- Trees of numbers, texts, variables, elements, fields, steps, signs, operators, single-key
membership, conditionals and assignments, in which whatever is stepped or assigned is a variable,
an element or a field.  They hold no groups. -/
def Plain : Expr → Prop
  | number .. | string .. | var .. => True
  | field index _ => index.Plain
  | element _ indices _ => indices ≠ [] ∧ AllPlain indices
  | arith _ l r _ | relation _ l r _ | logic _ l r _ | concat l r _ | matching l r _ _ =>
    l.Plain ∧ r.Plain
  | unary _ operand _ => operand.Plain
  | assign _ target value _ => target.isAssignable ∧ target.Plain ∧ value.Plain
  | step _ target _ => target.isAssignable ∧ target.Plain
  | cond test ifTrue ifFalse _ => test.Plain ∧ ifTrue.Plain ∧ ifFalse.Plain
  | contains [key] _ _ => key.Plain
  | contains .. | regex .. | call .. | builtin .. | getline .. | group .. => False

def AllPlain : List Expr → Prop
  | [] => True
  | e :: es => e.Plain ∧ AllPlain es

end

mutual

/-- Trees with groups in which every operand is as tight as its place asks for. -/
def Fits : Expr → Prop
  | number .. | string .. | var .. => True
  | field index _ => .primary ≤ index.level ∧ index.Fits
  | element _ indices _ => indices ≠ [] ∧ AllFit indices
  | arith op l r _ => (op.leftLevel ≤ l.level ∧ l.Fits) ∧ op.rightLevel ≤ r.level ∧ r.Fits
  | logic op l r _ => (op.level ≤ l.level ∧ l.Fits) ∧ op.rightLevel ≤ r.level ∧ r.Fits
  | relation _ l r _ | matching l r _ _ =>
    (.concatenation ≤ l.level ∧ l.Fits) ∧ .concatenation ≤ r.level ∧ r.Fits
  | concat l r _ => (.primary ≤ l.level ∧ l.Fits) ∧ .primary ≤ r.level ∧ r.Fits
  | unary _ operand _ => .unary ≤ operand.level ∧ operand.Fits
  | assign _ target value _ => (target.isAssignable ∧ target.Fits) ∧ value.Fits
  | step _ target _ => target.isAssignable ∧ target.Fits
  | cond test ifTrue ifFalse _ =>
    (.disjunction ≤ test.level ∧ test.Fits) ∧ ifTrue.Fits ∧ ifFalse.Fits
  | contains [key] _ _ => .membership ≤ key.level ∧ key.Fits
  | group inner _ => inner.Fits
  | contains .. | regex .. | call .. | builtin .. | getline .. => False

def AllFit : List Expr → Prop
  | [] => True
  | e :: es => e.Fits ∧ AllFit es

end

attribute [simp] spelling spellingOfList spellingOfMore unplaced unplacedAll Fits AllFit

/-! ## Grouping makes a tree fit -/

theorem within_level (l : Level) (e : Expr) : l ≤ (e.within l).level := by
  rw [within]
  split
  · assumption
  · exact Level.le_primary l

theorem Fits.within {e : Expr} (h : e.Fits) (l : Level) : (e.within l).Fits := by
  rw [Expr.within]
  split
  · exact h
  · rw [Fits]
    exact h

theorem Fits.operand {e : Expr} (h : e.Fits) (l : Level) :
    l ≤ (e.within l).level ∧ (e.within l).Fits :=
  ⟨within_level l e, h.within l⟩

theorem groupedAll_ne_nil {es : List Expr} (h : es ≠ []) : groupedAll es ≠ [] := by
  cases es with
  | nil => exact absurd rfl h
  | cons e es => simp [groupedAll]

theorem grouped_isAssignable (e : Expr) (h : e.isAssignable) : e.grouped.isAssignable := by
  cases e <;> simp [isAssignable, grouped] at h ⊢
  exact h

mutual

theorem Plain.grouped_fits : (e : Expr) → e.Plain → e.grouped.Fits
  | number .., _ => by simp [grouped, Fits]
  | string .., _ => by simp [grouped, Fits]
  | var .., _ => by simp [grouped, Fits]
  | field index _, h => by
    rw [Plain] at h
    rw [grouped, Fits]
    exact (Plain.grouped_fits index h).operand _
  | element _ indices _, h => by
    rw [Plain] at h
    rw [grouped, Fits]
    exact ⟨groupedAll_ne_nil h.1, AllPlain.grouped_fit indices h.2⟩
  | arith _ l r _, h => by
    rw [Plain] at h
    rw [grouped, Fits]
    exact ⟨(Plain.grouped_fits l h.1).operand _, (Plain.grouped_fits r h.2).operand _⟩
  | relation _ l r _, h => by
    rw [Plain] at h
    rw [grouped, Fits]
    exact ⟨(Plain.grouped_fits l h.1).operand _, (Plain.grouped_fits r h.2).operand _⟩
  | logic _ l r _, h => by
    rw [Plain] at h
    rw [grouped, Fits]
    exact ⟨(Plain.grouped_fits l h.1).operand _, (Plain.grouped_fits r h.2).operand _⟩
  | concat l r _, h => by
    rw [Plain] at h
    rw [grouped, Fits]
    exact ⟨(Plain.grouped_fits l h.1).operand _, (Plain.grouped_fits r h.2).operand _⟩
  | matching l r _ _, h => by
    rw [Plain] at h
    rw [grouped, Fits]
    exact ⟨(Plain.grouped_fits l h.1).operand _, (Plain.grouped_fits r h.2).operand _⟩
  | unary _ operand _, h => by
    rw [Plain] at h
    rw [grouped, Fits]
    exact (Plain.grouped_fits operand h).operand _
  | assign _ target value _, h => by
    rw [Plain] at h
    rw [grouped, Fits]
    exact ⟨⟨grouped_isAssignable target h.1, Plain.grouped_fits target h.2.1⟩,
      (Plain.grouped_fits value h.2.2).within _⟩
  | step _ target _, h => by
    rw [Plain] at h
    rw [grouped, Fits]
    exact ⟨grouped_isAssignable target h.1, Plain.grouped_fits target h.2⟩
  | cond test ifTrue ifFalse _, h => by
    rw [Plain] at h
    rw [grouped, Fits]
    exact ⟨(Plain.grouped_fits test h.1).operand _, (Plain.grouped_fits ifTrue h.2.1).within _,
      (Plain.grouped_fits ifFalse h.2.2).within _⟩
  | contains [key] _ _, h => by
    rw [Plain] at h
    rw [grouped, Fits]
    exact (Plain.grouped_fits key h).operand _
  | contains [] _ _, h => by simp [Plain] at h
  | contains (_ :: _ :: _) _ _, h => by simp [Plain] at h
  | regex .., h => by simp [Plain] at h
  | call .., h => by simp [Plain] at h
  | builtin .., h => by simp [Plain] at h
  | getline .., h => by simp [Plain] at h
  | group .., h => by simp [Plain] at h

theorem AllPlain.grouped_fit : (es : List Expr) → AllPlain es → AllFit (groupedAll es)
  | [], _ => by simp [groupedAll, AllFit]
  | e :: es, h => by
    rw [AllPlain] at h
    rw [groupedAll, AllFit]
    exact ⟨(Plain.grouped_fits e h.1).within _, AllPlain.grouped_fit es h.2⟩

end

end Expr
end Awk
