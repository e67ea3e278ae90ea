import Awk.Grammar.Statement
import Awk.Proofs.Cursors
import Awk.Proofs.Spelling

/-!
# The parser reads what is written

A tree in which every operand fits its place is read back by the parser of its level, provided that
the token behind it does not go on with the phrase.  A level hands on to the next tighter one, and
what it does behind its first operand depends on that one token alone; so there is one lemma for
each level that a tree is passed through, and one for each form of tree.
-/

namespace Awk

open Grammar Awk.Parser

namespace Token.Kind

/-- The tightest level of the phrases that start with a token. -/
def opens : Kind → Level
  | mark .not | mark .plus | mark .minus => .unary
  | mark .increment | mark .decrement => .increment
  | mark .dollar => .field
  | _ => .primary

/-- The tightest level at which a token goes on with the phrase before it. -/
def joins : Kind → Option Level
  | mark .leftBracket => some .primary
  | mark .increment | mark .decrement => some .postfixed
  | mark .caret => some .power
  | mark .star | mark .slash | mark .percent => some .multiplicative
  | mark .plus | mark .minus => some .additive
  | number _ | string _ | identifier _ | funcName _ | builtin _ => some .concatenation
  | mark .dollar | mark .leftParen | mark .not => some .concatenation
  | mark .less | mark .lessEqual | mark .greater | mark .greaterEqual => some .relational
  | mark .equal | mark .notEqual | mark .tilde | mark .notTilde => some .relational
  | keyword .in_ => some .membership
  | mark .and => some .conjunction
  | mark .or => some .disjunction
  | mark .question => some .ternary
  | mark .assign | mark .plusAssign | mark .minusAssign | mark .starAssign => some .assignment
  | mark .slashAssign | mark .percentAssign | mark .caretAssign => some .assignment
  | _ => none

end Token.Kind

theorem productOf?_joins {k : Token.Kind} {make} (h : productOf? k = some make) :
    k.joins = some .multiplicative := by
  unfold productOf? at h
  split at h <;> first | rfl | cases h

theorem sumOf?_joins {k : Token.Kind} {make} (h : sumOf? k = some make) :
    k.joins = some .additive := by
  unfold sumOf? at h
  split at h <;> first | rfl | cases h

theorem andOf?_joins {k : Token.Kind} {make} (h : andOf? k = some make) :
    k.joins = some .conjunction := by
  unfold andOf? at h
  split at h <;> first | rfl | cases h

theorem orOf?_joins {k : Token.Kind} {make} (h : orOf? k = some make) :
    k.joins = some .disjunction := by
  unfold orOf? at h
  split at h <;> first | rfl | cases h

theorem relationOf?_joins {inPrint : Bool} {k : Token.Kind} {make}
    (h : relationOf? inPrint k = some make) : k.joins = some .relational := by
  unfold relationOf? at h
  split at h <;> first | rfl | cases h

theorem assignmentOf?_joins {k : Token.Kind} {op} (h : assignmentOf? k = some op) :
    k.joins = some .assignment := by
  unfold assignmentOf? at h
  split at h <;> first | rfl | cases h

theorem signOf?_opens {k : Token.Kind} {op} (h : signOf? k = some op) : k.opens = .unary := by
  unfold signOf? at h
  split at h <;> first | rfl | cases h

/-- Only steps, which could belong to the phrase before, may start an operand and be tighter. -/
theorem startsOperand_joins {k : Token.Kind} (h : startsOperand k = true) :
    ∃ j ∈ k.joins, Level.concatenation.rank ≤ j.rank := by
  unfold startsOperand at h
  split at h <;> first | exact ⟨_, rfl, by decide⟩ | cases h

/-- The token behind a phrase, if there is one, goes on with looser phrases only. -/
def Stops (l : Level) (rest : List Token) : Prop :=
  ∀ t ∈ rest.head?, ∀ j ∈ t.kind.joins, j.rank < l.rank

/-- The tokens start with some of the kinds `ks`, and `rest` is behind these. -/
def Written : List Token.Kind → List Token → List Token → Prop
  | [], ts, rest => ts = rest
  | k :: ks, ts, rest => ∃ t ts', ts = t :: ts' ∧ t.kind = k ∧ Written ks ts' rest

theorem written_of_map {ks : List Token.Kind} {ts : List Token} (h : ts.map (·.kind) = ks)
    (rest : List Token) : Written ks (ts ++ rest) rest := by
  subst h
  induction ts with
  | nil => exact rfl
  | cons t ts ih => exact ⟨t, ts ++ rest, rfl, rfl, ih⟩

theorem Written.append {ks ls : List Token.Kind} {ts rest : List Token}
    (h : Written (ks ++ ls) ts rest) : ∃ mid, Written ks ts mid ∧ Written ls mid rest := by
  induction ks generalizing ts with
  | nil => exact ⟨ts, rfl, h⟩
  | cons k ks ih =>
    obtain ⟨t, ts', rfl, hk, h⟩ := h
    obtain ⟨mid, hks, hls⟩ := ih h
    exact ⟨mid, ⟨t, ts', rfl, hk, hks⟩, hls⟩

namespace Stops

variable {l l' : Level} {rest : List Token}

theorem mono (h : Stops l rest) (hl : l.rank ≤ l'.rank) : Stops l' rest := by
  intro t ht j hj
  have := h t ht j hj
  omega

theorem of_joins {t : Token} {j : Level} (ht : t.kind.joins = some j) (hj : j.rank < l.rank) :
    Stops l (t :: rest) := by
  intro t' ht' j' hj'
  cases ht'
  cases ht.symm.trans hj'
  exact hj

theorem of_joins_none {t : Token} (ht : t.kind.joins = none) : Stops l (t :: rest) := by
  intro t' ht' j' hj'
  cases ht'
  cases ht.symm.trans hj'

theorem joins_lt {c : Cursor} {k : Token.Kind} {j : Level} (h : Stops l c.rest)
    (hk : c.kind? = some k) (hj : k.joins = some j) : j.rank < l.rank := by
  obtain ⟨t, ht, rfl⟩ := Option.map_eq_some_iff.mp hk
  exact h t ht j hj

/-- No operator of the level follows. -/
theorem none_of_read {β : Type} {c : Cursor} {read : Token.Kind → Option β} (h : Stops l c.rest)
    (hread : ∀ {k b}, read k = some b → k.joins = some l) : c.kind?.bind read = none := by
  cases hk : c.kind? with
  | none => rfl
  | some k =>
    cases hr : read k with
    | none => exact hr
    | some b => exact absurd (h.joins_lt hk (hread hr)) (Nat.lt_irrefl _)

theorem isMark {c : Cursor} {m : Mark} {j : Level} (h : Stops l c.rest)
    (hm : (Token.Kind.mark m).joins = some j) (hj : l.rank ≤ j.rank) : c.isMark m = false := by
  rw [Cursor.isMark]
  split
  · rename_i k hk
    cases k with
    | mark m' =>
      simp only [Token.Kind.isMark, beq_eq_false_iff_ne]
      rintro rfl
      exact Nat.not_lt.mpr hj (h.joins_lt hk hm)
    | _ => rfl
  · rfl

/-- No token goes on with a signed operand and not with a power. -/
theorem unary (h : Stops .power rest) : Stops .unary rest := by
  intro t ht j hj
  have hlt := h t ht j hj
  have hne : j ≠ .unary := by
    rintro rfl
    cases hk : t.kind with
    | mark m => cases m <;> rw [hk] at hj <;> cases hj
    | keyword w => cases w <;> rw [hk] at hj <;> cases hj
    | _ => rw [hk] at hj; cases hj
  cases j <;> first | decide | exact absurd rfl hne | exact absurd hlt (by decide)

theorem not_in {c : Cursor} (h : Stops l c.rest) (hl : l.rank ≤ Level.membership.rank) :
    c.isKeyword .in_ = false := by
  rw [Cursor.isKeyword]
  split
  · rename_i k hk
    cases k with
    | keyword w =>
      simp only [Token.Kind.isKeyword, beq_eq_false_iff_ne]
      rintro rfl
      exact Nat.not_lt.mpr hl (h.joins_lt hk rfl)
    | _ => rfl
  · rfl

theorem not_operand {c : Cursor} (h : Stops l c.rest) (hl : l.rank ≤ Level.concatenation.rank) :
    (c.kind?.map startsOperand).getD false = false := by
  cases hk : c.kind? with
  | none => rfl
  | some k =>
    rw [Option.map_some, Option.getD_some, ← Bool.not_eq_true]
    intro ho
    obtain ⟨j, hj, hle⟩ := startsOperand_joins ho
    have := h.joins_lt hk hj
    omega

end Stops

/-! ## The parser of each level -/

namespace Level

def parser (self : Phrases) (n : Nat) : Level → Parser Expr
  | .assignment => Grammar.assignment self n
  | .ternary => Grammar.ternary self n
  | .disjunction => Grammar.disjunction self n
  | .conjunction => Grammar.conjunction self n
  | .membership => Grammar.membership self n
  | .relational => Grammar.relational self n
  | .concatenation => Grammar.concatenation self n
  | .additive => Grammar.additive self n
  | .multiplicative => Grammar.multiplicative self n
  | .unary => Grammar.unary self n
  | .power => Grammar.power self n
  | .increment => Grammar.increment self n
  | .postfixed => postfixStep self n
  | .field => Grammar.field self n
  | .primary => Grammar.primary self n

/-- The level of the first operand of a phrase. -/
def tighter : Level → Level
  | .assignment => .ternary
  | .ternary => .disjunction
  | .disjunction => .conjunction
  | .conjunction => .membership
  | .membership => .relational
  | .relational => .concatenation
  | .concatenation => .additive
  | .additive => .multiplicative
  | .multiplicative => .unary
  | .unary => .power
  | .power => .increment
  | .increment => .postfixed
  | .postfixed => .field
  | .field | .primary => .primary

/-- What a level that joins any number of operands does behind the first one. -/
def loop (self : Phrases) (n : Nat) : Level → Nat → Expr → Parser Expr
  | .disjunction => leftAssoc (Grammar.conjunction self n) orOf? skipNewlines
  | .conjunction => leftAssoc (Grammar.membership self n) andOf? skipNewlines
  | .membership => memberships
  | .concatenation => concatenated (Grammar.additive self n)
  | .additive => leftAssoc (Grammar.multiplicative self n) sumOf? (pure ())
  | .multiplicative => leftAssoc (Grammar.unary self n) productOf? (pure ())
  | _ => fun _ x => pure x

/-- The levels with operators of which several may stand side by side. -/
def Chain : Level → Prop
  | .disjunction | .conjunction | .membership | .concatenation | .additive | .multiplicative => True
  | _ => False

theorem rank_tighter {l : Level} (h : l ≠ .primary) : l.tighter.rank = l.rank + 1 := by
  cases l <;> first | rfl | exact absurd rfl h

theorem rank_le_primary (l : Level) : l.rank ≤ 14 := l.le_primary

theorem eq_of_rank {l l' : Level} (h : l.rank = l'.rank) : l = l' := by
  cases l <;> cases l' <;> first | rfl | (simp [rank] at h)

theorem parser_of_chain {l : Level} (h : l.Chain) (self : Phrases) (n : Nat) :
    l.parser self n = (do l.loop self n n (← l.tighter.parser self n)) := by
  cases l <;> first | rfl | exact h.elim

end Level

/-! ## Reading a tree -/

/-- The parser gives the tree, up to places, and stops before `rest`. -/
def Gives (p : Parser Expr) (x : Expr) (c : Cursor) (rest : List Token) : Prop :=
  ∃ x', p c = .ok x' { c with rest } ∧ x'.unplaced = x.unplaced

/-- The parser of the level gives the tree back where it is written. -/
def Reads (l : Level) (x : Expr) : Prop :=
  ∀ ⦃n c rest⦄, Written x.spelling c.rest rest → x.spelling.length ≤ n → c.inPrint = false →
    Stops l rest → Gives (l.parser (phrases n) n) x c rest

/-- Where the tree is written, the parser of the level comes to go on behind it, with steps left for
all that may follow. -/
def Chains (l : Level) (x : Expr) : Prop :=
  ∀ ⦃n c rest⦄, Written x.spelling c.rest rest → x.spelling.length ≤ n → c.inPrint = false →
    Stops l.tighter rest →
      ∃ x' m, n ≤ m + x.spelling.length ∧
        l.parser (phrases n) n c = l.loop (phrases n) n m x' { c with rest } ∧
        x'.unplaced = x.unplaced

theorem Reads.chains {l : Level} {x : Expr} (hl : l.Chain) (h : Reads l.tighter x) :
    Chains l x := by
  intro n c rest hw hn hp hs
  obtain ⟨x', hx, hu⟩ := h hw hn hp hs
  refine ⟨x', n, Nat.le_add_right .., ?_, hu⟩
  rw [Level.parser_of_chain hl, bind_of_ok hx]

/-! ## Handing on to a tighter level -/

theorem leftAssoc_stops {operand : Parser Expr} {afterOperator : Parser Unit}
    {read : Token.Kind → Option (Expr → Expr → Location → Expr)} {c : Cursor}
    (h : c.kind?.bind read = none) (m : Nat) (x : Expr) :
    leftAssoc operand read afterOperator m x c = .ok x c := by
  cases m with
  | zero => rfl
  | succ m =>
    rw [leftAssoc, bind_of_ok (get_run c)]
    simp only [h]
    rfl

theorem Stops.loop {l : Level} {c : Cursor} (h : Stops l c.rest) (self : Phrases) (n m : Nat)
    (x : Expr) : l.loop self n m x c = .ok x c := by
  cases l with
  | multiplicative => exact leftAssoc_stops (h.none_of_read productOf?_joins) m x
  | additive => exact leftAssoc_stops (h.none_of_read sumOf?_joins) m x
  | conjunction => exact leftAssoc_stops (h.none_of_read andOf?_joins) m x
  | disjunction => exact leftAssoc_stops (h.none_of_read orOf?_joins) m x
  | concatenation =>
    cases m with
    | zero => rfl
    | succ m =>
      rw [Level.loop, concatenated, bind_of_ok (get_run c), h.not_operand (Nat.le_refl _)]
      rfl
  | membership =>
    cases m with
    | zero => rfl
    | succ m =>
      rw [Level.loop, memberships, bind_of_ok (place_run c),
        bind_of_ok (acceptKeyword_other (h.not_in (Nat.le_refl _)))]
      rfl
  | _ => rfl

theorem Chains.reads {l : Level} {x : Expr} (hl : l ≠ .primary) (h : Chains l x) : Reads l x := by
  intro n c rest hw hn hp hs
  have hrank := Level.rank_tighter hl
  obtain ⟨x', m, -, hx, hu⟩ := h hw hn hp (hs.mono (by omega))
  exact ⟨x', hx.trans (Stops.loop (c := { c with rest }) hs _ n m x'), hu⟩

section Passing

variable {self : Phrases} {n : Nat} {c d : Cursor} {x : Expr}

theorem chain_passes {l : Level} (hl : l.Chain) (h : l.tighter.parser self n c = .ok x d)
    (hs : Stops l d.rest) : l.parser self n c = .ok x d := by
  rw [Level.parser_of_chain hl, bind_of_ok h]
  exact hs.loop self n n x

theorem assignment_passes (h : ternary self n c = .ok x d) (hs : Stops .assignment d.rest) :
    assignment self n c = .ok x d := by
  rw [assignment, bind_of_ok h, bind_of_ok (get_run d)]
  simp only [hs.none_of_read assignmentOf?_joins]
  rfl

theorem ternary_passes (h : disjunction self n c = .ok x d) (hs : Stops .ternary d.rest) :
    ternary self n c = .ok x d := by
  rw [ternary, bind_of_ok h, bind_of_ok (place_run d),
    bind_of_ok (accept_other (hs.isMark rfl (Nat.le_refl _)))]
  rfl

theorem relational_passes (h : concatenation self n c = .ok x d) (hs : Stops .relational d.rest) :
    relational self n c = .ok x d := by
  rw [relational, bind_of_ok h, bind_of_ok (get_run d)]
  simp only [hs.none_of_read relationOf?_joins]
  rfl

theorem unary_passes {k : Token.Kind} (h : power self n c = .ok x d) (hk : c.kind? = some k)
    (ho : Level.unary.rank < k.opens.rank) : unary self n c = .ok x d := by
  have hsign : signOf? k = none := by
    rw [Option.eq_none_iff_forall_not_mem]
    intro op hop
    rw [signOf?_opens hop] at ho
    exact Nat.lt_irrefl _ ho
  rw [unary, bind_of_ok (get_run c)]
  simp only [hk, Option.bind_some, hsign]
  exact h

theorem power_passes (h : increment self n c = .ok x d) (hs : Stops .power d.rest) :
    power self n c = .ok x d := by
  rw [power, bind_of_ok h, bind_of_ok (place_run d),
    bind_of_ok (accept_other (hs.isMark rfl (Nat.le_refl _)))]
  rfl

theorem increment_passes {k : Token.Kind} (h : postfixStep self n c = .ok x d)
    (hk : c.kind? = some k) (ho : Level.increment.rank < k.opens.rank) :
    increment self n c = .ok x d := by
  rw [increment, bind_of_ok (get_run c)]
  simp only [hk]
  cases k with
  | mark m => cases m <;> first | exact h | exact absurd ho (by decide)
  | _ => exact h

theorem postfixStep_passes (h : field self n c = .ok x d) (hs : Stops .postfixed d.rest) :
    postfixStep self n c = .ok x d := by
  rw [postfixStep, bind_of_ok h]
  split
  · rw [bind_of_ok (place_run d), bind_of_ok (accept_other (hs.isMark rfl (Nat.le_refl _)))]
    simp only [Bool.false_eq_true, if_false]
    rw [bind_of_ok (accept_other (hs.isMark rfl (Nat.le_refl _)))]
    rfl
  · rfl

theorem field_passes {k : Token.Kind} (h : primary self n c = .ok x d) (hk : c.kind? = some k)
    (ho : Level.field.rank < k.opens.rank) : field self n c = .ok x d := by
  have hm : c.isMark .dollar = false := by
    rw [Cursor.isMark, hk]
    cases k with
    | mark m => cases m <;> first | rfl | exact absurd ho (by decide)
    | _ => rfl
  rw [field, bind_of_ok (get_run c), bind_of_ok (accept_other hm)]
  exact h

end Passing

/-- The tree starts with a token that could also go on with an operand before it, and that no level
looser than `l` takes for itself. -/
def Leads (l : Level) (x : Expr) : Prop :=
  ∃ k ks, x.spelling = k :: ks ∧ k.startsExpression = true ∧ k.joins.isSome = true ∧
    l.rank ≤ k.opens.rank

theorem Leads.mono {l j : Level} {x : Expr} (h : Leads l x) (hl : j.rank ≤ l.rank) :
    Leads j x := by
  obtain ⟨k, ks, hx, hk, hjoins, ho⟩ := h
  exact ⟨k, ks, hx, hk, hjoins, Nat.le_trans hl ho⟩

theorem Leads.length_pos {l : Level} {x : Expr} (h : Leads l x) : 0 < x.spelling.length := by
  obtain ⟨k, ks, hx, -⟩ := h
  rw [hx]
  exact Nat.succ_pos _

theorem Leads.kind? {l : Level} {x : Expr} {c : Cursor} {rest : List Token} (h : Leads l x)
    (hw : Written x.spelling c.rest rest) :
    ∃ t ts, c.rest = t :: ts ∧ t.kind.startsExpression = true ∧ t.kind.joins.isSome = true ∧
      l.rank ≤ t.kind.opens.rank := by
  obtain ⟨k, ks, hx, hk, hj, ho⟩ := h
  rw [hx] at hw
  obtain ⟨t, ts, hc, rfl, -⟩ := hw
  exact ⟨t, ts, hc, hk, hj, ho⟩

theorem Leads.skipNewlines {l : Level} {x : Expr} {c : Cursor} {rest : List Token}
    (h : Leads l x) (hw : Written x.spelling c.rest rest) : skipNewlines c = .ok () c := by
  obtain ⟨t, ts, hc, hk, -⟩ := h.kind? hw
  refine skipNewlines_run hc ?_
  cases hkind : t.kind <;> first | rfl | simp [hkind, Token.Kind.startsExpression] at hk

/-- A level that neither takes the first token for itself nor goes on behind the phrase gives what
the next tighter one gives. -/
theorem Reads.descend {l : Level} {x : Expr} (hl : l ≠ .primary) (hlead : Leads l.tighter x)
    (h : Reads l.tighter x) : Reads l x := by
  intro n c rest hw hn hp hs
  have hrank := Level.rank_tighter hl
  obtain ⟨t, ts, hc, -, -, ho⟩ := hlead.kind? hw
  have hk := kind?_of_cons hc
  obtain ⟨x', hx, hu⟩ := h hw hn hp (hs.mono (by omega))
  refine ⟨x', ?_, hu⟩
  rw [hrank] at ho
  cases l with
  | multiplicative | additive | concatenation | membership | conjunction | disjunction =>
    exact chain_passes trivial hx hs
  | assignment => exact assignment_passes hx hs
  | ternary => exact ternary_passes hx hs
  | relational => exact relational_passes hx hs
  | unary => exact unary_passes hx hk ho
  | power => exact power_passes hx hs
  | increment => exact increment_passes hx hk ho
  | postfixed => exact postfixStep_passes hx hs
  | field => exact field_passes hx hk ho
  | primary => exact absurd rfl hl

theorem Reads.looser {l l' : Level} {x : Expr} (h : Reads l' x) (hlead : Leads l' x)
    (hl : l.rank ≤ l'.rank) : Reads l x := by
  by_cases heq : l.rank = l'.rank
  · exact Level.eq_of_rank heq ▸ h
  · have hne : l ≠ .primary := by
      rintro rfl
      have := l'.rank_le_primary
      simp only [Level.rank] at hl heq this
      omega
    have hrank := Level.rank_tighter hne
    exact Reads.descend hne (hlead.mono (by omega)) (Reads.looser h hlead (by omega))
termination_by l'.rank - l.rank

/-! ## Phrases inside a phrase

These are read with one step less, which the token taken before has paid for. -/

section Nested

variable {x : Expr} {n : Nat} {c : Cursor} {rest : List Token}

theorem Reads.expression (h : Reads .assignment x) (hw : Written x.spelling c.rest rest)
    (hn : x.spelling.length < n) (hp : c.inPrint = false) (hs : Stops .assignment rest) :
    Gives (phrases n).expression x c rest := by
  cases n with
  | zero => omega
  | succ n => exact h hw (by omega) hp hs

theorem Reads.unary (h : Reads .unary x) (hw : Written x.spelling c.rest rest)
    (hn : x.spelling.length < n) (hp : c.inPrint = false) (hs : Stops .unary rest) :
    Gives (phrases n).unary x c rest := by
  cases n with
  | zero => omega
  | succ n => exact h hw (by omega) hp hs

theorem Reads.increment (h : Reads .increment x) (hw : Written x.spelling c.rest rest)
    (hn : x.spelling.length < n) (hp : c.inPrint = false) (hs : Stops .increment rest) :
    Gives (phrases n).increment x c rest := by
  cases n with
  | zero => omega
  | succ n => exact h hw (by omega) hp hs

theorem Reads.field (h : Reads .field x) (hw : Written x.spelling c.rest rest)
    (hn : x.spelling.length < n) (hp : c.inPrint = false) (hs : Stops .field rest) :
    Gives (phrases n).field x c rest := by
  cases n with
  | zero => omega
  | succ n => exact h hw (by omega) hp hs

end Nested

/-- The parser gives the list of trees, up to places, and stops before `rest`. -/
def GivesAll (p : Parser (List Expr)) (es : List Expr) (c : Cursor) (rest : List Token) : Prop :=
  ∃ es', p c = .ok es' { c with rest } ∧ Expr.unplacedAll es' = Expr.unplacedAll es

/-- A token behind a list of expressions that is no part of it. -/
def EndsList (t : Token) : Prop := t.kind.joins = none ∧ t.kind.isMark .comma = false

theorem EndsList.stops {t : Token} (h : EndsList t) (l : Level) (rest : List Token) :
    Stops l (t :: rest) :=
  Stops.of_joins_none h.1

theorem stops_before_more {t : Token} (ht : EndsList t) {es : List Expr} {mid rest : List Token}
    (hw : Written (Expr.spellingOfMore es) mid (t :: rest)) : Stops .assignment mid := by
  cases es with
  | nil => exact hw ▸ ht.stops _ _
  | cons x es =>
    rw [Expr.spellingOfMore] at hw
    obtain ⟨t, ts, rfl, hk, -⟩ := hw
    exact Stops.of_joins_none (by rw [hk]; rfl)

theorem moreExpressions_gives {n : Nat} {t : Token} {rest : List Token} (ht : EndsList t)
    {es : List Expr} (hes : ∀ x ∈ es, Reads .assignment x ∧ Leads .assignment x) {m : Nat}
    {c : Cursor} (hw : Written (Expr.spellingOfMore es) c.rest (t :: rest))
    (hn : (Expr.spellingOfMore es).length < n) (hm : (Expr.spellingOfMore es).length ≤ m)
    (hp : c.inPrint = false) :
    GivesAll (moreExpressions (phrases n).expression m) es c (t :: rest) := by
  induction es generalizing m c with
  | nil =>
    have hc : c.rest = t :: rest := hw
    have hd : ({ c with rest := t :: rest } : Cursor) = c := by rw [← hc]
    refine ⟨[], ?_, rfl⟩
    cases m with
    | zero => rw [hd]; rfl
    | succ m =>
      have hcomma : c.isMark .comma = false := by
        rw [Cursor.isMark, kind?_of_cons hc]
        exact ht.2
      rw [moreExpressions, bind_of_ok (accept_other hcomma), hd]
      rfl
  | cons x es ih =>
    rw [Expr.spellingOfMore] at hw hn hm
    obtain ⟨t₁, ts, hc, hk, hw⟩ := hw
    obtain ⟨mid, hx, hmore⟩ := hw.append
    simp only [List.length_cons, List.length_append] at hn hm
    obtain ⟨hreads, hleads⟩ := hes x (List.mem_cons_self ..)
    cases m with
    | zero => omega
    | succ m =>
      obtain ⟨x', hx', hu⟩ := hreads.expression (n := n) (c := { c with rest := ts }) hx
        (by omega) hp (stops_before_more ht hmore)
      obtain ⟨es', hes', hus⟩ := ih (fun y hy => hes y (List.mem_cons_of_mem x hy))
        (m := m) (c := { c with rest := mid }) hmore (by omega) (by omega) hp
      refine ⟨x' :: es', ?_, by rw [Expr.unplacedAll, Expr.unplacedAll, hu, hus]⟩
      rw [moreExpressions, bind_of_ok (accept_run hc hk)]
      simp only [if_true]
      rw [bind_of_ok (hleads.skipNewlines (c := { c with rest := ts }) hx), bind_of_ok hx',
        bind_of_ok hes']
      rfl

theorem expressionList_gives {n : Nat} {t : Token} {rest : List Token} (ht : EndsList t)
    {es : List Expr} (hne : es ≠ []) (hes : ∀ x ∈ es, Reads .assignment x ∧ Leads .assignment x)
    {c : Cursor} (hw : Written (Expr.spellingOfList es) c.rest (t :: rest))
    (hn : (Expr.spellingOfList es).length < n) (hp : c.inPrint = false) :
    GivesAll (expressionList (phrases n).expression n) es c (t :: rest) := by
  cases es with
  | nil => exact absurd rfl hne
  | cons x es =>
    rw [Expr.spellingOfList] at hw hn
    obtain ⟨mid, hx, hmore⟩ := hw.append
    rw [List.length_append] at hn
    obtain ⟨x', hx', hu⟩ := (hes x (List.mem_cons_self ..)).1.expression (n := n) hx (by omega) hp
      (stops_before_more ht hmore)
    obtain ⟨es', hes', hus⟩ := moreExpressions_gives (n := n) (m := n) ht
      (fun y hy => hes y (List.mem_cons_of_mem x hy)) (c := { c with rest := mid }) hmore
      (by omega) (by omega) hp
    refine ⟨x' :: es', ?_, by rw [Expr.unplacedAll, Expr.unplacedAll, hu, hus]⟩
    rw [expressionList, bind_of_ok hx', bind_of_ok hes']
    rfl

/-- Nothing is to be done about the print flag where it is not set. -/
theorem nested_run {α : Type} {p : Parser α} {c d : Cursor} {a : α} (h : p c = .ok a d)
    (hc : c.inPrint = false) (hd : d.inPrint = false) : nested p c = .ok a d := by
  have hc' : ({ c with inPrint := false } : Cursor) = c := by rw [← hc]
  have hd' : ({ d with inPrint := c.inPrint } : Cursor) = d := by rw [hc, ← hd]
  rw [nested, withPrint, hc', h]
  simp only [hd']

theorem subscripts_gives {n : Nat} {es : List Expr} (hne : es ≠ [])
    (hes : ∀ x ∈ es, Reads .assignment x ∧ Leads .assignment x) {c : Cursor} {rest : List Token}
    (hw : Written (Expr.spellingOfList es ++ [.mark .rightBracket]) c.rest rest)
    (hn : (Expr.spellingOfList es).length < n) (hp : c.inPrint = false) :
    GivesAll (subscripts (phrases n) n) es c rest := by
  obtain ⟨mid, hlist, t, ts, rfl, hk, rfl⟩ := hw.append
  have hend : EndsList t := by rw [EndsList, hk]; exact ⟨rfl, rfl⟩
  obtain ⟨es', hes', hu⟩ := expressionList_gives hend hne hes hlist hn hp
  refine ⟨es', ?_, hu⟩
  rw [subscripts, bind_of_ok (nested_run hes' hp hp),
    bind_of_ok (expect_run (c := { c with rest := t :: ts }) rfl hk)]
  rfl

/-! ## Primaries -/

section Primaries

variable {x : Expr} {place : Location}

theorem reads_number (v : Double) : Reads .primary (.number v place) := by
  intro n c rest hw hn hp hs
  obtain ⟨t, ts, hc, hk, rfl⟩ := hw
  refine ⟨.number v c.place, ?_, rfl⟩
  rw [Level.parser, primary, bind_of_ok (get_run c)]
  simp only [kind?_of_cons hc, hk]
  rw [bind_of_ok (advance_run hc (by rw [hk]; rfl))]
  rfl

theorem reads_string (v : String) : Reads .primary (.string v place) := by
  intro n c rest hw hn hp hs
  obtain ⟨t, ts, hc, hk, rfl⟩ := hw
  refine ⟨.string v c.place, ?_, rfl⟩
  rw [Level.parser, primary, bind_of_ok (get_run c)]
  simp only [kind?_of_cons hc, hk]
  rw [bind_of_ok (advance_run hc (by rw [hk]; rfl))]
  rfl

/-- A name in front of a bracket would be an element. -/
theorem reads_var (name : String) : Reads .primary (.var name place) := by
  intro n c rest hw hn hp hs
  obtain ⟨t, ts, hc, hk, rfl⟩ := hw
  have hb : ({ c with rest := ts } : Cursor).isMark .leftBracket = false :=
    Stops.isMark (c := { c with rest := ts }) hs rfl (Nat.le_refl _)
  refine ⟨.var name c.place, ?_, rfl⟩
  rw [Level.parser, primary, bind_of_ok (get_run c)]
  simp only [kind?_of_cons hc, hk]
  rw [bind_of_ok (advance_run hc (by rw [hk]; rfl)), bind_of_ok (accept_other hb)]
  rfl

theorem reads_element (array : String) {indices : List Expr} (hne : indices ≠ [])
    (h : ∀ x ∈ indices, Reads .assignment x ∧ Leads .assignment x) :
    Reads .primary (.element array indices place) := by
  intro n c rest hw hn hp hs
  rw [Expr.spelling] at hw hn
  obtain ⟨t₁, ts₁, hc₁, hk₁, t₂, ts₂, hc₂, hk₂, hw⟩ := hw
  simp only [List.cons_append, List.length_cons, List.length_append] at hn
  obtain ⟨es, hes, hu⟩ := subscripts_gives (n := n) hne h (c := { c with rest := ts₂ }) hw
    (by omega) hp
  refine ⟨.element array es c.place, ?_, by rw [Expr.unplaced, Expr.unplaced, hu]⟩
  rw [Level.parser, primary, bind_of_ok (get_run c)]
  simp only [kind?_of_cons hc₁, hk₁]
  rw [bind_of_ok (advance_run hc₁ (by rw [hk₁]; rfl)),
    bind_of_ok (accept_run (c := { c with rest := ts₁ }) hc₂ hk₂)]
  simp only [if_true]
  rw [bind_of_ok hes]
  rfl

theorem reads_group (h : Reads .assignment x ∧ Leads .assignment x) :
    Reads .primary (.group x place) := by
  intro n c rest hw hn hp hs
  rw [Expr.spelling] at hw hn
  obtain ⟨t₁, ts₁, hc₁, hk₁, hw⟩ := hw
  obtain ⟨mid, hx, t₂, ts₂, rfl, hk₂, rfl⟩ := hw.append
  have hend : EndsList t₂ := by rw [EndsList, hk₂]; exact ⟨rfl, rfl⟩
  have hlist : Expr.spellingOfList [x] = x.spelling := by
    simp [Expr.spellingOfList, Expr.spellingOfMore]
  simp only [List.cons_append, List.length_cons, List.length_append] at hn
  obtain ⟨es, hes, hu⟩ := expressionList_gives (n := n) hend (by simp : [x] ≠ []) (by simpa using h)
    (c := { c with rest := ts₁ }) (hlist ▸ hx) (by rw [hlist]; omega) hp
  obtain ⟨x', rfl, hu'⟩ : ∃ x', es = [x'] ∧ x'.unplaced = x.unplaced := by
    cases es with
    | nil => simp [Expr.unplacedAll] at hu
    | cons x' es =>
      cases es with
      | nil => exact ⟨x', rfl, by simpa [Expr.unplacedAll] using hu⟩
      | cons _ _ => simp [Expr.unplacedAll] at hu
  refine ⟨.group x' c.place, ?_, by rw [Expr.unplaced, Expr.unplaced, hu']⟩
  rw [Level.parser, primary, bind_of_ok (get_run c)]
  simp only [kind?_of_cons hc₁, hk₁]
  rw [bind_of_ok (advance_run hc₁ (by rw [hk₁]; rfl)), groupOrMember,
    bind_of_ok (nested_run hes hp hp),
    bind_of_ok (expect_run (c := { c with rest := t₂ :: ts₂ }) rfl hk₂)]
  rfl

end Primaries

/-! ## Marks before or behind one operand -/

theorem isAssignable_unplaced : (x : Expr) → x.unplaced.isAssignable = x.isAssignable
  | .group inner _ => by
    rw [Expr.unplaced, Expr.isAssignable, Expr.isAssignable]
    exact isAssignable_unplaced inner
  | .number .. | .string .. | .regex .. | .var .. | .field .. | .element .. | .arith ..
  | .relation .. | .logic .. | .concat .. | .unary .. | .assign .. | .step .. | .cond ..
  | .call .. | .builtin .. | .contains .. | .matching .. | .getline .. => by
    simp [Expr.unplaced, Expr.isAssignable]

theorem isAssignable_of_unplaced {x x' : Expr} (hu : x'.unplaced = x.unplaced)
    (h : x.isAssignable) : x'.isAssignable := by
  rw [← isAssignable_unplaced, hu, isAssignable_unplaced]
  exact h

section OneOperand

variable {x : Expr} {place : Location}

/-- A primary starts with none of the marks that a dollar sign treats on its own. -/
theorem reads_field (h : Reads .primary x) (hlead : Leads .primary x) :
    Reads .field (.field x place) := by
  intro n c rest hw hn hp hs
  rw [Expr.spelling] at hw hn
  obtain ⟨t, ts, hc, hk, hw⟩ := hw
  rw [List.length_cons] at hn
  obtain ⟨x', hx, hu⟩ := (h.looser hlead (l := .field) (by decide)).field (n := n)
    (c := { c with rest := ts }) hw (by omega) hp hs
  obtain ⟨t₂, ts₂, hc₂, -, -, ho⟩ := hlead.kind? (c := { c with rest := ts }) hw
  refine ⟨.field x' c.place, ?_, by rw [Expr.unplaced, Expr.unplaced, hu]⟩
  rw [Level.parser, field, bind_of_ok (get_run c), bind_of_ok (accept_run hc hk)]
  simp only [if_true]
  rw [bind_of_ok (get_run _)]
  simp only [kind?_of_cons hc₂]
  have hlast : ((phrases n).field >>= fun index => pure (Expr.field index c.place))
      { c with rest := ts } = .ok (.field x' c.place) { c with rest } := by
    rw [bind_of_ok hx]
    rfl
  cases hkind : t₂.kind with
  | mark m =>
    rw [hkind] at ho
    cases m <;> first | exact hlast | exact absurd ho (by decide)
  | _ => exact hlast

theorem reads_unary (op : UnaryOp) (h : Reads .unary x) : Reads .unary (.unary op x place) := by
  intro n c rest hw hn hp hs
  rw [Expr.spelling] at hw hn
  obtain ⟨t, ts, hc, hk, hw⟩ := hw
  rw [List.length_cons] at hn
  obtain ⟨x', hx, hu⟩ := h.unary (n := n) (c := { c with rest := ts }) hw (by omega) hp hs
  refine ⟨.unary op x' c.place, ?_, by rw [Expr.unplaced, Expr.unplaced, hu]⟩
  have hsign : signOf? t.kind = some op := by
    rw [hk]
    cases op <;> rfl
  rw [Level.parser, unary, bind_of_ok (get_run c)]
  simp only [kind?_of_cons hc, Option.bind_some, hsign]
  rw [signed, bind_of_ok (advance_run hc (by rw [hk]; rfl)), bind_of_ok hx]
  rfl

theorem reads_prefixed {how : Step} (hhow : how.level = .increment) (h : Reads .increment x)
    (ha : x.isAssignable) : Reads .increment (.step how x place) := by
  intro n c rest hw hn hp hs
  have hspelling : (Expr.step how x place).spelling = .mark how.mark :: x.spelling := by
    cases how <;> first | rfl | cases hhow
  rw [hspelling] at hw hn
  obtain ⟨t, ts, hc, hk, hw⟩ := hw
  rw [List.length_cons] at hn
  obtain ⟨x', hx, hu⟩ := h.increment (n := n) (c := { c with rest := ts }) hw (by omega) hp hs
  have hstep : increment (phrases n) n c = prefixStep (phrases n) how.mark how c.place c := by
    rw [increment, bind_of_ok (get_run c)]
    simp only [kind?_of_cons hc, hk]
    cases how <;> first | rfl | cases hhow
  refine ⟨.step how x' c.place, ?_, by rw [Expr.unplaced, Expr.unplaced, hu]⟩
  rw [Level.parser, hstep, prefixStep, bind_of_ok (advance_run hc (by rw [hk]; rfl)), bind_of_ok hx,
    if_pos (isAssignable_of_unplaced hu ha)]
  rfl

theorem reads_postfixed {how : Step} (hhow : how.level = .postfixed) (h : Reads .field x)
    (ha : x.isAssignable) : Reads .postfixed (.step how x place) := by
  intro n c rest hw hn hp hs
  have hspelling : (Expr.step how x place).spelling = x.spelling ++ [.mark how.mark] := by
    cases how <;> first | rfl | cases hhow
  rw [hspelling] at hw hn
  obtain ⟨mid, hx, t, ts, rfl, hk, rfl⟩ := hw.append
  rw [List.length_append] at hn
  have hjoins : t.kind.joins = some .postfixed := by
    rw [hk]
    cases how <;> rfl
  have hstop : Stops .field (t :: ts) := Stops.of_joins hjoins (by decide)
  obtain ⟨x', hx', hu⟩ := h hx (Nat.le_of_add_right_le hn) hp hstop
  refine ⟨.step how x' ({ c with rest := t :: ts } : Cursor).place, ?_,
    by rw [Expr.unplaced, Expr.unplaced, hu]⟩
  rw [Level.parser] at hx'
  rw [Level.parser, postfixStep, bind_of_ok hx', if_pos (isAssignable_of_unplaced hu ha),
    bind_of_ok (place_run _)]
  cases how with
  | postIncrement =>
    rw [bind_of_ok (accept_run (m := .increment) rfl hk)]
    rfl
  | postDecrement =>
    have hother : ({ c with rest := t :: ts } : Cursor).isMark .increment = false := by
      rw [Cursor.isMark, kind?_of_cons rfl, hk]
      rfl
    rw [bind_of_ok (accept_other hother)]
    simp only [Bool.false_eq_true, if_false]
    rw [bind_of_ok (accept_run (m := .decrement) rfl hk)]
    rfl
  | preIncrement | preDecrement => cases hhow

end OneOperand

/-! ## Operators between operands -/

theorem isEof_of_joins {k : Token.Kind} {j : Level} (h : k.joins = some j) : k.isEof = false := by
  cases k <;> first | rfl | cases h

theorem leftAssoc_goes_on {operand : Parser Expr} {afterOperator : Parser Unit}
    {read : Token.Kind → Option (Expr → Expr → Location → Expr)} {c d : Cursor} {t : Token}
    {ts : List Token} {make : Expr → Expr → Location → Expr} {a b : Expr}
    (hc : c.rest = t :: ts) (ht : t.kind.isEof = false) (hread : read t.kind = some make)
    (hafter : afterOperator { c with rest := ts } = .ok () { c with rest := ts })
    (hb : operand { c with rest := ts } = .ok b d) (m : Nat) :
    leftAssoc operand read afterOperator (m + 1) a c =
      leftAssoc operand read afterOperator m (make a b c.place) d := by
  rw [leftAssoc, bind_of_ok (get_run c)]
  simp only [kind?_of_cons hc, Option.bind_some, hread]
  rw [bind_of_ok (advance_run hc ht), bind_of_ok hafter, bind_of_ok hb]

section TwoOperands

variable {x a b : Expr} {place : Location}

/-- One more operand of a level that associates to the left. -/
theorem chains_leftAssoc {l : Level} {afterOperator : Parser Unit}
    (read : Token.Kind → Option (Expr → Expr → Location → Expr)) {k : Token.Kind}
    {make : Expr → Expr → Location → Expr} (hl : l ≠ .primary)
    (hloop : ∀ self n, l.loop self n = leftAssoc (l.tighter.parser self n) read afterOperator)
    (hread : read k = some make) (hk : k.joins = some l)
    (hafter : ∀ ⦃c rest⦄, Written b.spelling c.rest rest → afterOperator c = .ok () c)
    (hx : x.spelling = a.spelling ++ k :: b.spelling)
    (hmake : ∀ a' b' place, a'.unplaced = a.unplaced → b'.unplaced = b.unplaced →
      (make a' b' place).unplaced = x.unplaced)
    (ha : Chains l a) (hb : Reads l.tighter b) : Chains l x := by
  intro n c rest hw hn hp hs
  have hrank := Level.rank_tighter hl
  rw [hx] at hw hn
  obtain ⟨mid, hwa, t, ts, rfl, rfl, hwb⟩ := hw.append
  simp only [List.length_append, List.length_cons] at hn
  obtain ⟨a', m, hm, ha', hua⟩ := ha (n := n) hwa (by omega) hp (Stops.of_joins hk (by omega))
  obtain ⟨b', hb', hub⟩ := hb (n := n) (c := { c with rest := ts }) hwb (by omega) hp hs
  obtain ⟨m, rfl⟩ : ∃ m', m = m' + 1 := ⟨m - 1, by omega⟩
  refine ⟨make a' b' ({ c with rest := t :: ts } : Cursor).place, m, ?_, ?_, hmake _ _ _ hua hub⟩
  · rw [hx]
    simp only [List.length_append, List.length_cons]
    omega
  · rw [ha', hloop]
    exact leftAssoc_goes_on (c := { c with rest := t :: ts }) rfl (isEof_of_joins hk) hread
      (hafter hwb) hb' m

theorem chains_arith {op : Arith} (hop : op ≠ .pow) (ha : Chains op.level a)
    (hb : Reads op.rightLevel b) : Chains op.level (.arith op a b place) := by
  have hmake : ∀ a' b' l, a'.unplaced = a.unplaced → b'.unplaced = b.unplaced →
      (Expr.arith op a' b' l).unplaced = (Expr.arith op a b place).unplaced := by
    intro a' b' l hua hub
    rw [Expr.unplaced, Expr.unplaced, hua, hub]
  cases op with
  | add | sub =>
    exact chains_leftAssoc (l := .additive) sumOf? (by decide) (fun _ _ => rfl) rfl rfl
      (fun _ _ _ => rfl) (by rw [Expr.spelling]) hmake ha hb
  | mul | div | mod =>
    exact chains_leftAssoc (l := .multiplicative) productOf? (by decide) (fun _ _ => rfl)
      rfl rfl (fun _ _ _ => rfl) (by rw [Expr.spelling]) hmake ha hb
  | pow => exact absurd rfl hop

theorem chains_logic {op : Logic} (ha : Chains op.level a) (hb : Reads op.rightLevel b)
    (hlead : Leads op.rightLevel b) : Chains op.level (.logic op a b place) := by
  have hmake : ∀ a' b' l, a'.unplaced = a.unplaced → b'.unplaced = b.unplaced →
      (Expr.logic op a' b' l).unplaced = (Expr.logic op a b place).unplaced := by
    intro a' b' l hua hub
    rw [Expr.unplaced, Expr.unplaced, hua, hub]
  cases op with
  | and =>
    exact chains_leftAssoc (l := .conjunction) andOf? (by decide) (fun _ _ => rfl) rfl rfl
      (fun _ _ hw => hlead.skipNewlines hw) (by rw [Expr.spelling]) hmake ha hb
  | or =>
    exact chains_leftAssoc (l := .disjunction) orOf? (by decide) (fun _ _ => rfl) rfl rfl
      (fun _ _ hw => hlead.skipNewlines hw) (by rw [Expr.spelling]) hmake ha hb

/-- What starts a primary starts an operand of a concatenation, and does nothing else to what stands
before it. -/
theorem primary_joins {k : Token.Kind}
    (h : k.startsExpression = true ∧ k.joins.isSome = true ∧ Level.primary.rank ≤ k.opens.rank) :
    startsOperand k = true ∧ k.joins = some .concatenation := by
  obtain ⟨hk, hj, ho⟩ := h
  cases k with
  | mark m => cases m <;> first | exact ⟨rfl, rfl⟩ | exact absurd ho (by decide) | cases hk
  | keyword w => cases w <;> first | (cases hk; done) | cases hj
  | _ => first | exact ⟨rfl, rfl⟩ | cases hj

/-- The left operand of a concatenation, being a primary, is no concatenation itself. -/
theorem chains_concat (ha : Reads .additive a) (hb : Reads .additive b) (hlead : Leads .primary b) :
    Chains .concatenation (.concat a b place) := by
  intro n c rest hw hn hp hs
  rw [Expr.spelling] at hw hn ⊢
  obtain ⟨mid, hwa, hwb⟩ := hw.append
  rw [List.length_append] at hn ⊢
  obtain ⟨t, ts, rfl, hstart⟩ := hlead.kind? (c := { c with rest := mid }) hwb
  obtain ⟨hoperand, hjoins⟩ := primary_joins hstart
  obtain ⟨a', ha', hua⟩ := ha (n := n) hwa (by omega) hp (Stops.of_joins hjoins (by decide))
  obtain ⟨b', hb', hub⟩ := hb (n := n) (c := { c with rest := t :: ts }) hwb (by omega) hp hs
  have hlen := hlead.length_pos
  obtain ⟨n, rfl⟩ : ∃ n', n = n' + 1 := ⟨n - 1, by omega⟩
  refine ⟨.concat a' b' a'.place, n, by omega, ?_, by rw [Expr.unplaced, Expr.unplaced, hua, hub]⟩
  rw [Level.parser] at ha' hb'
  rw [Level.parser, concatenation, bind_of_ok ha', concatenated, bind_of_ok (get_run _)]
  simp only [kind?_at, Option.map_some, hoperand, Option.getD_some, if_true]
  rw [bind_of_ok hb', Level.loop]

theorem reads_pow (ha : Reads .increment a) (hb : Reads .unary b) :
    Reads .power (.arith .pow a b place) := by
  intro n c rest hw hn hp hs
  rw [Expr.spelling] at hw hn
  obtain ⟨mid, hwa, t, ts, rfl, hk, hwb⟩ := hw.append
  simp only [List.length_append, List.length_cons] at hn
  obtain ⟨a', ha', hua⟩ :=
    ha (n := n) hwa (by omega) hp (Stops.of_joins (by rw [hk]; rfl) (by decide))
  obtain ⟨b', hb', hub⟩ := hb.unary (n := n) (c := { c with rest := ts }) hwb (by omega) hp
    hs.unary
  refine ⟨.arith .pow a' b' ({ c with rest := t :: ts } : Cursor).place, ?_,
    by rw [Expr.unplaced, Expr.unplaced, hua, hub]⟩
  rw [Level.parser] at ha'
  rw [Level.parser, power, bind_of_ok ha', bind_of_ok (place_run _),
    bind_of_ok (accept_run (m := .caret) rfl hk)]
  simp only [if_true]
  rw [bind_of_ok hb']
  rfl

/-- Comparisons and matches, which take one operand on either side. -/
theorem reads_relational {k : Token.Kind} {make : Expr → Expr → Location → Expr}
    (hread : relationOf? false k = some make)
    (hx : x.spelling = a.spelling ++ k :: b.spelling)
    (hmake : ∀ a' b' place, a'.unplaced = a.unplaced → b'.unplaced = b.unplaced →
      (make a' b' place).unplaced = x.unplaced)
    (ha : Reads .concatenation a) (hb : Reads .concatenation b) : Reads .relational x := by
  intro n c rest hw hn hp hs
  have hk := relationOf?_joins hread
  rw [hx] at hw hn
  obtain ⟨mid, hwa, t, ts, rfl, rfl, hwb⟩ := hw.append
  simp only [List.length_append, List.length_cons] at hn
  obtain ⟨a', ha', hua⟩ := ha (n := n) hwa (by omega) hp (Stops.of_joins hk (by decide))
  obtain ⟨b', hb', hub⟩ := hb (n := n) (c := { c with rest := ts }) hwb (by omega) hp
    (hs.mono (by decide))
  refine ⟨make a' b' ({ c with rest := t :: ts } : Cursor).place, ?_, hmake _ _ _ hua hub⟩
  have hmark : ({ c with rest := t :: ts } : Cursor).kind?.bind (relationOf? c.inPrint) =
      some make := by
    rw [kind?_at, hp]
    exact hread
  rw [Level.parser] at ha' hb'
  rw [Level.parser, relational, bind_of_ok ha', bind_of_ok (get_run _)]
  simp only [hmark]
  rw [bind_of_ok (advance_run rfl (isEof_of_joins hk)), bind_of_ok hb']
  rfl

theorem reads_relation (op : Relation) (ha : Reads .concatenation a) (hb : Reads .concatenation b) :
    Reads .relational (.relation op a b place) := by
  have hread : relationOf? false (.mark op.mark) = some (.relation op) := by cases op <;> rfl
  refine reads_relational hread (by rw [Expr.spelling]) (fun a' b' l hua hub => ?_) ha hb
  rw [Expr.unplaced, Expr.unplaced, hua, hub]

theorem reads_matching (negated : Bool) (ha : Reads .concatenation a)
    (hb : Reads .concatenation b) : Reads .relational (.matching a b negated place) := by
  have hread : relationOf? false (.mark (if negated then .notTilde else .tilde)) =
      some fun l r place => .matching l r negated place := by cases negated <;> rfl
  refine reads_relational hread (by rw [Expr.spelling]) (fun a' b' l hua hub => ?_) ha hb
  rw [Expr.unplaced, Expr.unplaced, hua, hub]

theorem chains_contains (array : String) (h : Chains .membership x) :
    Chains .membership (.contains [x] array place) := by
  intro n c rest hw hn hp hs
  rw [Expr.spelling] at hw hn ⊢
  obtain ⟨mid, hwx, t₁, ts₁, rfl, hk₁, t₂, ts₂, rfl, hk₂, rfl⟩ := hw.append
  simp only [List.length_append, List.length_cons, List.length_nil] at hn ⊢
  obtain ⟨x', m, hm, hx, hu⟩ := h (n := n) hwx (by omega) hp
    (Stops.of_joins (by rw [hk₁]; rfl) (by decide))
  obtain ⟨m, rfl⟩ : ∃ m', m = m' + 1 := ⟨m - 1, by omega⟩
  refine ⟨.contains [x'] array ({ c with rest := t₁ :: t₂ :: ts₂ } : Cursor).place, m, by omega, ?_,
    by simp only [Expr.unplaced, Expr.unplacedAll, hu]⟩
  rw [hx, Level.loop, memberships, bind_of_ok (place_run _),
    bind_of_ok (acceptKeyword_run (w := .in_) rfl hk₁)]
  simp only [if_true]
  rw [bind_of_ok (expectIdentifier_run rfl hk₂)]

/-- Both branches extend as far as an expression can, so that no assignment may follow. -/
theorem reads_cond (hx : Reads .disjunction x) (ha : Reads .assignment a)
    (hla : Leads .assignment a) (hb : Reads .assignment b) (hlb : Leads .assignment b) :
    Reads .assignment (.cond x a b place) := by
  intro n c rest hw hn hp hs
  rw [Expr.spelling] at hw hn
  obtain ⟨mid, hw, t₂, ts₂, rfl, hk₂, hwb⟩ := hw.append
  obtain ⟨mid, hwx, t₁, ts₁, rfl, hk₁, hwa⟩ := hw.append
  simp only [List.length_append, List.length_cons] at hn
  obtain ⟨x', hx', hux⟩ := hx (n := n) hwx (by omega) hp
    (Stops.of_joins (by rw [hk₁]; rfl) (by decide))
  obtain ⟨a', ha', hua⟩ := ha.expression (n := n) (c := { c with rest := ts₁ }) hwa (by omega) hp
    (Stops.of_joins_none (by rw [hk₂]; rfl))
  obtain ⟨b', hb', hub⟩ := hb.expression (n := n) (c := { c with rest := ts₂ }) hwb (by omega) hp hs
  refine ⟨.cond x' a' b' ({ c with rest := t₁ :: ts₁ } : Cursor).place,
    assignment_passes ?_ hs, by rw [Expr.unplaced, Expr.unplaced, hux, hua, hub]⟩
  rw [Level.parser] at hx'
  rw [ternary, bind_of_ok hx', bind_of_ok (place_run _),
    bind_of_ok (accept_run (m := .question) rfl hk₁)]
  simp only [if_true]
  rw [bind_of_ok (hla.skipNewlines (c := { c with rest := ts₁ }) hwa), bind_of_ok ha',
    bind_of_ok (skipNewlines_run (t := t₂) rfl (by rw [hk₂]; rfl)),
    bind_of_ok (expect_run (m := .colon) rfl hk₂),
    bind_of_ok (hlb.skipNewlines (c := { c with rest := ts₂ }) hwb), bind_of_ok hb']
  rfl

theorem reads_assign (op : Option Arith) (hx : Reads .ternary x) (htarget : x.isAssignable)
    (ha : Reads .assignment a) (hla : Leads .assignment a) :
    Reads .assignment (.assign op x a place) := by
  intro n c rest hw hn hp hs
  rw [Expr.spelling] at hw hn
  obtain ⟨mid, hwx, t, ts, rfl, hk, hwa⟩ := hw.append
  simp only [List.length_append, List.length_cons] at hn
  have hread : assignmentOf? t.kind = some op := by
    rw [hk]
    rcases op with _ | op
    · rfl
    · cases op <;> rfl
  have hjoins := assignmentOf?_joins hread
  obtain ⟨x', hx', hux⟩ := hx (n := n) hwx (by omega) hp (Stops.of_joins hjoins (by decide))
  obtain ⟨a', ha', hua⟩ := ha.expression (n := n) (c := { c with rest := ts }) hwa (by omega) hp hs
  refine ⟨.assign op x' a' ({ c with rest := t :: ts } : Cursor).place, ?_,
    by rw [Expr.unplaced, Expr.unplaced, hux, hua]⟩
  rw [Level.parser] at hx'
  rw [Level.parser, assignment, bind_of_ok hx', bind_of_ok (get_run _)]
  simp only [kind?_at, Option.bind_some, hread]
  rw [if_pos (isAssignable_of_unplaced hux htarget),
    bind_of_ok (advance_run rfl (isEof_of_joins hjoins)),
    bind_of_ok (hla.skipNewlines (c := { c with rest := ts }) hwa), bind_of_ok ha']
  rfl

end TwoOperands

/-! ## All trees -/

theorem Leads.append {l : Level} {x a : Expr} {ks : List Token.Kind} (h : Leads l a)
    (hx : x.spelling = a.spelling ++ ks) : Leads l x := by
  obtain ⟨k, ks', ha, hk⟩ := h
  exact ⟨k, ks' ++ ks, by rw [hx, ha, List.cons_append], hk⟩

theorem isAssignable_level {x : Expr} (h : x.isAssignable) : Level.field ≤ x.level := by
  cases x with
  | var | element | group => exact Level.le_primary _
  | field => exact Nat.le_refl _
  | _ => cases h

theorem Arith.level_le_left (op : Arith) : op.level ≤ op.leftLevel := by cases op <;> decide

theorem Expr.Fits.leads : (x : Expr) → x.Fits → Leads x.level x
  | .number v _, _ => ⟨.number v, [], by rw [Expr.spelling], rfl, rfl, Nat.le_refl _⟩
  | .string v _, _ => ⟨.string v, [], by rw [Expr.spelling], rfl, rfl, Nat.le_refl _⟩
  | .var name _, _ => ⟨.identifier name, [], by rw [Expr.spelling], rfl, rfl, Nat.le_refl _⟩
  | .field index _, _ =>
    ⟨.mark .dollar, index.spelling, by rw [Expr.spelling], rfl, rfl, Nat.le_refl _⟩
  | .element array _ _, _ =>
    ⟨.identifier array, _, by rw [Expr.spelling, List.cons_append], rfl, rfl, Nat.le_refl _⟩
  | .group inner _, _ =>
    ⟨.mark .leftParen, _, by rw [Expr.spelling, List.cons_append], rfl, rfl, Nat.le_refl _⟩
  | .unary op operand _, _ => by
    refine ⟨.mark op.mark, operand.spelling, by rw [Expr.spelling], ?_⟩
    cases op <;> exact ⟨rfl, rfl, Nat.le_refl _⟩
  | .step how target _, h => by
    rw [Expr.Fits] at h
    have htarget := (Expr.Fits.leads target h.2).mono (isAssignable_level h.1)
    cases how with
    | preIncrement | preDecrement => exact ⟨_, target.spelling, rfl, rfl, rfl, Nat.le_refl _⟩
    | postIncrement | postDecrement =>
      exact (htarget.mono (j := .postfixed) (by decide)).append (by rw [Expr.spelling])
  | .arith op l r _, h => by
    rw [Expr.Fits] at h
    have hl := (Expr.Fits.leads l h.1.2).mono h.1.1
    exact (hl.mono op.level_le_left).append (by rw [Expr.spelling])
  | .logic op l r _, h => by
    rw [Expr.Fits] at h
    exact ((Expr.Fits.leads l h.1.2).mono h.1.1).append (by rw [Expr.spelling])
  | .relation op l r _, h => by
    rw [Expr.Fits] at h
    have hl := (Expr.Fits.leads l h.1.2).mono h.1.1
    exact (hl.mono (j := .relational) (by decide)).append (by rw [Expr.spelling])
  | .matching l r _ _, h => by
    rw [Expr.Fits] at h
    have hl := (Expr.Fits.leads l h.1.2).mono h.1.1
    exact (hl.mono (j := .relational) (by decide)).append (by rw [Expr.spelling])
  | .concat l r _, h => by
    rw [Expr.Fits] at h
    have hl := (Expr.Fits.leads l h.1.2).mono h.1.1
    exact (hl.mono (j := .concatenation) (by decide)).append (by rw [Expr.spelling])
  | .assign op target value _, h => by
    rw [Expr.Fits] at h
    have hl := (Expr.Fits.leads target h.1.2).mono (isAssignable_level h.1.1)
    exact (hl.mono (j := .assignment) (by decide)).append (by rw [Expr.spelling])
  | .cond test a b _, h => by
    rw [Expr.Fits] at h
    have hl := (Expr.Fits.leads test h.1.2).mono h.1.1
    exact (hl.mono (j := .ternary) (by decide)).append
      (by rw [Expr.spelling, List.append_assoc])
  | .contains [key] _ _, h => by
    rw [Expr.Fits] at h
    exact ((Expr.Fits.leads key h.2).mono h.1).append (by rw [Expr.spelling])
  | .contains [] _ _, h => by simp [Expr.Fits] at h
  | .contains (_ :: _ :: _) _ _, h => by simp [Expr.Fits] at h
  | .regex .., h => by simp [Expr.Fits] at h
  | .call .., h => by simp [Expr.Fits] at h
  | .builtin .., h => by simp [Expr.Fits] at h
  | .getline .., h => by simp [Expr.Fits] at h

/-- What is proved of every tree that fits.  A conditional is read in places for expressions only:
an assignment mark behind it would go to its last branch. -/
structure Readable (x : Expr) : Prop where
  leads : Leads x.level x
  reads : ∀ l, l ≤ x.level → l ≠ .ternary → Reads l x
  chains : x.level.Chain → Chains x.level x

namespace Readable

variable {x : Expr} {l : Level}

theorem of_reads (hlead : Leads x.level x) (hne : ¬x.level.Chain) (h : Reads x.level x) :
    Readable x :=
  ⟨hlead, fun _ hl _ => h.looser hlead hl, fun hchain => absurd hchain hne⟩

theorem of_chains (hlead : Leads x.level x) (hchain : x.level.Chain) (h : Chains x.level x) :
    Readable x := by
  have hne : x.level ≠ .primary := by
    intro heq
    rw [heq] at hchain
    exact hchain
  exact ⟨hlead, fun _ hl _ => (h.reads hne).looser hlead hl, fun _ => h⟩

theorem operand (h : Readable x) (hl : l ≤ x.level) (hne : l ≠ .ternary) :
    Reads l x ∧ Leads l x :=
  ⟨h.reads l hl hne, h.leads.mono hl⟩

theorem expression (h : Readable x) : Reads .assignment x ∧ Leads .assignment x :=
  h.operand (Nat.zero_le _) (by decide)

/-- The first operand of a chain may be a chain itself. -/
theorem first (h : Readable x) (hchain : l.Chain) (hl : l.rank ≤ x.level.rank) : Chains l x := by
  by_cases heq : l.rank = x.level.rank
  · cases Level.eq_of_rank heq
    exact h.chains hchain
  · have hp : l ≠ .primary ∧ l.tighter ≠ .ternary := by
      cases l <;> first | exact ⟨by decide, by decide⟩ | exact hchain.elim
    have hrank : l.tighter.rank ≤ x.level.rank := by
      have := Level.rank_tighter hp.1
      omega
    exact (h.reads _ hrank hp.2).chains hchain

end Readable

mutual

theorem Expr.Fits.readable : (x : Expr) → x.Fits → Readable x
  | .number v _, h => .of_reads (Expr.Fits.leads _ h) id (reads_number v)
  | .string v _, h => .of_reads (Expr.Fits.leads _ h) id (reads_string v)
  | .var name _, h => .of_reads (Expr.Fits.leads _ h) id (reads_var name)
  | .element array indices _, h => by
    have hlead := Expr.Fits.leads _ h
    rw [Expr.Fits] at h
    exact .of_reads hlead id (reads_element array h.1 (Expr.AllFit.readable indices h.2))
  | .group inner _, h => by
    have hlead := Expr.Fits.leads _ h
    rw [Expr.Fits] at h
    exact .of_reads hlead id (reads_group (Expr.Fits.readable inner h).expression)
  | .field index _, h => by
    have hlead := Expr.Fits.leads _ h
    rw [Expr.Fits] at h
    have hindex := (Expr.Fits.readable index h.2).operand h.1 (by decide)
    exact .of_reads hlead id (reads_field hindex.1 hindex.2)
  | .unary op operand _, h => by
    have hlead := Expr.Fits.leads _ h
    rw [Expr.Fits] at h
    exact .of_reads hlead id
      (reads_unary op ((Expr.Fits.readable operand h.2).operand h.1 (by decide)).1)
  | .step how target _, h => by
    have hlead := Expr.Fits.leads _ h
    rw [Expr.Fits] at h
    have htarget := (Expr.Fits.readable target h.2).operand (isAssignable_level h.1) (by decide)
    cases how with
    | preIncrement | preDecrement =>
      exact .of_reads hlead id
        (reads_prefixed rfl (htarget.1.looser htarget.2 (by decide)) h.1)
    | postIncrement | postDecrement =>
      exact .of_reads hlead id (reads_postfixed rfl htarget.1 h.1)
  | .arith op l r _, h => by
    have hlead := Expr.Fits.leads _ h
    rw [Expr.Fits] at h
    have hl := Expr.Fits.readable l h.1.2
    have hr := (Expr.Fits.readable r h.2.2).operand h.2.1 (by cases op <;> decide)
    by_cases hop : op = .pow
    · subst hop
      exact .of_reads hlead id (reads_pow (hl.operand h.1.1 (by decide)).1 hr.1)
    · have hchain : op.level.Chain := by cases op <;> trivial
      exact .of_chains hlead hchain (chains_arith hop
        (hl.first hchain (Nat.le_trans op.level_le_left h.1.1)) hr.1)
  | .logic op l r _, h => by
    have hlead := Expr.Fits.leads _ h
    rw [Expr.Fits] at h
    have hchain : op.level.Chain := by cases op <;> trivial
    have hr := (Expr.Fits.readable r h.2.2).operand h.2.1 (by cases op <;> decide)
    exact .of_chains hlead hchain
      (chains_logic ((Expr.Fits.readable l h.1.2).first hchain h.1.1) hr.1 hr.2)
  | .relation op l r _, h => by
    have hlead := Expr.Fits.leads _ h
    rw [Expr.Fits] at h
    exact .of_reads hlead id (reads_relation op
      ((Expr.Fits.readable l h.1.2).operand h.1.1 (by decide)).1
      ((Expr.Fits.readable r h.2.2).operand h.2.1 (by decide)).1)
  | .matching l r negated _, h => by
    have hlead := Expr.Fits.leads _ h
    rw [Expr.Fits] at h
    exact .of_reads hlead id (reads_matching negated
      ((Expr.Fits.readable l h.1.2).operand h.1.1 (by decide)).1
      ((Expr.Fits.readable r h.2.2).operand h.2.1 (by decide)).1)
  | .concat l r _, h => by
    have hlead := Expr.Fits.leads _ h
    rw [Expr.Fits] at h
    have hl := (Expr.Fits.readable l h.1.2).operand h.1.1 (by decide)
    have hr := (Expr.Fits.readable r h.2.2).operand h.2.1 (by decide)
    exact .of_chains hlead trivial (chains_concat (hl.1.looser hl.2 (by decide))
      (hr.1.looser hr.2 (by decide)) hr.2)
  | .contains [key] array _, h => by
    have hlead := Expr.Fits.leads _ h
    rw [Expr.Fits] at h
    exact .of_chains hlead trivial
      (chains_contains array ((Expr.Fits.readable key h.2).first trivial h.1))
  | .assign op target value _, h => by
    have hlead := Expr.Fits.leads _ h
    rw [Expr.Fits] at h
    have htarget := (Expr.Fits.readable target h.1.2).operand (isAssignable_level h.1.1) (by decide)
    have hvalue := (Expr.Fits.readable value h.2).expression
    exact .of_reads hlead id (reads_assign op (htarget.1.looser htarget.2 (by decide)) h.1.1
      hvalue.1 hvalue.2)
  | .cond test ifTrue ifFalse _, h => by
    have hlead := Expr.Fits.leads _ h
    rw [Expr.Fits] at h
    have htest := (Expr.Fits.readable test h.1.2).operand h.1.1 (by decide)
    have htrue := (Expr.Fits.readable ifTrue h.2.1).expression
    have hfalse := (Expr.Fits.readable ifFalse h.2.2).expression
    refine ⟨hlead, fun l hl hne => ?_, False.elim⟩
    have hassignment : l = .assignment := by
      have hrank : l.rank ≤ 1 := hl
      cases l <;> first | rfl | exact absurd rfl hne | exact absurd hrank (by decide)
    subst hassignment
    exact reads_cond htest.1 htrue.1 htrue.2 hfalse.1 hfalse.2
  | .contains [] _ _, h => by simp [Expr.Fits] at h
  | .contains (_ :: _ :: _) _ _, h => by simp [Expr.Fits] at h
  | .regex .., h => by simp [Expr.Fits] at h
  | .call .., h => by simp [Expr.Fits] at h
  | .builtin .., h => by simp [Expr.Fits] at h
  | .getline .., h => by simp [Expr.Fits] at h

theorem Expr.AllFit.readable :
    (es : List Expr) → Expr.AllFit es → ∀ x ∈ es, Reads .assignment x ∧ Leads .assignment x
  | [], _, _, hx => by cases hx
  | e :: es, h, x, hx => by
    rw [Expr.AllFit] at h
    have he := (Expr.Fits.readable e h.1).expression
    have hes := Expr.AllFit.readable es h.2
    rcases List.mem_cons.mp hx with rfl | hx
    · exact he
    · exact hes x hx

end

/-- An expression, written with parentheses around every operand that is looser than its place
allows and with nothing but a semicolon or the end of the text behind it, is read as the tree it
was, up to places and with groups where parentheses were written; the parser stops before the token
behind. -/
theorem expression_reads_spelling {e : Expr} (he : e.Plain) {w rest : List Token} {t : Token}
    (hkinds : w.map (·.kind) = e.grouped.spelling) (ht : t.kind = .mark .semicolon ∨ t.kind = .eof)
    {c : Cursor} (hc : c.rest = w ++ t :: rest) (hp : c.inPrint = false) {n : Nat}
    (hn : w.length < n) :
    ∃ e', (phrases n).expression c = .ok e' { c with rest := t :: rest } ∧
      e'.unplaced = e.grouped.unplaced := by
  have hreads := (Expr.Fits.readable _ (Expr.Plain.grouped_fits e he)).expression.1
  have hw : Written e.grouped.spelling c.rest (t :: rest) := hc ▸ written_of_map hkinds (t :: rest)
  have hlen : e.grouped.spelling.length = w.length := by rw [← hkinds, List.length_map]
  have hstop : Stops .assignment (t :: rest) := by
    refine Stops.of_joins_none ?_
    rcases ht with ht | ht <;> rw [ht] <;> rfl
  exact hreads.expression hw (by omega) hp hstop

/-- `x = (a b) * -$c ^ -d ;` is read as an assignment of a product. -/
theorem expression_reads_spelling_product :
    ∃ e', (phrases 14).expression
        { rest := ([.identifier "x", .mark .assign, .mark .leftParen, .identifier "a",
            .identifier "b", .mark .rightParen, .mark .star, .mark .minus, .mark .dollar,
            .identifier "c", .mark .caret, .mark .minus, .identifier "d",
            .mark .semicolon] : List Token.Kind).map (Token.mk · .start)
          last := .start
          inPrint := false } =
        .ok e' { rest := [⟨.mark .semicolon, .start⟩], last := .start, inPrint := false } ∧
      e'.unplaced =
        .assign none (.var "x" .start)
          (.arith .mul
            (.group (.concat (.var "a" .start) (.var "b" .start) .start) .start)
            (.unary .neg
              (.arith .pow (.field (.var "c" .start) .start)
                (.unary .neg (.var "d" .start) .start) .start) .start) .start) .start :=
  expression_reads_spelling
    (e := .assign none (.var "x" .start)
      (.arith .mul (.concat (.var "a" .start) (.var "b" .start) .start)
        (.unary .neg (.arith .pow (.field (.var "c" .start) .start)
          (.unary .neg (.var "d" .start) .start) .start) .start) .start) .start)
    (w := ([.identifier "x", .mark .assign, .mark .leftParen, .identifier "a",
      .identifier "b", .mark .rightParen, .mark .star, .mark .minus, .mark .dollar,
      .identifier "c", .mark .caret, .mark .minus, .identifier "d"] : List Token.Kind).map
        (Token.mk · .start))
    (by simp [Expr.Plain, Expr.isAssignable]) rfl (Or.inl rfl) rfl rfl (by decide)

end Awk
