import Awk.Proofs.ProgramDescent

/-!
# Every parser moves on

No parser of the grammar goes back behind where it started, past the end of the text, or changes
whether it is in a print list, and none of them does where it fails.
-/

namespace Awk
namespace Grammar

/-- The parsers of the grammar, over those of nested phrases. -/
inductive Parses (self : Phrases) (n : Nat) : {α : Type} → Parser α → Prop
  | advance : Parses self n Parser.advance
  | accept (mark : Mark) : Parses self n (Parser.accept mark)
  | acceptKeyword (w : Keyword) : Parses self n (Parser.acceptKeyword w)
  | expect (mark : Mark) : Parses self n (Parser.expect mark)
  | expectKeyword (w : Keyword) : Parses self n (Parser.expectKeyword w)
  | expectIdentifier : Parses self n Parser.expectIdentifier
  | skipNewlines : Parses self n Parser.skipNewlines
  | skipTerminators : Parses self n Parser.skipTerminators
  | inner : Parses self n self.expression
  | innerUnary : Parses self n self.unary
  | innerIncrement : Parses self n self.increment
  | innerField : Parses self n self.field
  | innerStatement : Parses self n self.statement
  | moreExpressions (m : Nat) : Parses self n (moreExpressions self.expression m)
  | expressionList (m : Nat) : Parses self n (expressionList self.expression m)
  | nestedExpression : Parses self n (Parser.nested self.expression)
  | nestedList (m : Nat) : Parses self n (Parser.nested (expressionList self.expression m))
  | printList (m : Nat) : Parses self n (Parser.withPrint true (expressionList self.expression m))
  | subscripts : Parses self n (subscripts self n)
  | callArguments : Parses self n (callArguments self n)
  | builtinCall (b : Builtin) (place : Location) : Parses self n (builtinCall self n b place)
  | groupOrMember (place : Location) : Parses self n (groupOrMember self n place)
  | getlineForm (place : Location) : Parses self n (getlineForm self place)
  | signed (op : UnaryOp) (place : Location) : Parses self n (signed self op place)
  | primary : Parses self n (primary self n)
  | field : Parses self n (field self n)
  | postfixStep : Parses self n (postfixStep self n)
  | prefixStep (mark : Mark) (how : Step) (place : Location) :
    Parses self n (prefixStep self mark how place)
  | increment : Parses self n (increment self n)
  | power : Parses self n (power self n)
  | unary : Parses self n (unary self n)
  | products (m : Nat) (left : Expr) :
    Parses self n (leftAssoc (unary self n) productOf? (pure ()) m left)
  | multiplicative : Parses self n (multiplicative self n)
  | sums (m : Nat) (left : Expr) :
    Parses self n (leftAssoc (multiplicative self n) sumOf? (pure ()) m left)
  | additive : Parses self n (additive self n)
  | concatenated (m : Nat) (left : Expr) : Parses self n (concatenated (additive self n) m left)
  | concatenation : Parses self n (concatenation self n)
  | relational : Parses self n (relational self n)
  | memberships (m : Nat) (e : Expr) : Parses self n (memberships m e)
  | membership : Parses self n (membership self n)
  | conjuncts (m : Nat) (left : Expr) :
    Parses self n (leftAssoc (membership self n) andOf? Parser.skipNewlines m left)
  | conjunction : Parses self n (conjunction self n)
  | disjuncts (m : Nat) (left : Expr) :
    Parses self n (leftAssoc (conjunction self n) orOf? Parser.skipNewlines m left)
  | disjunction : Parses self n (disjunction self n)
  | ternary : Parses self n (ternary self n)
  | assignment : Parses self n (assignment self n)
  | endOfStatement : Parses self n endOfStatement
  | optionalExpression : Parses self n (optionalExpression self)
  | rejectRedirection : Parses self n rejectRedirection
  | printGroup? : Parses self n (printGroup? self n)
  | printArguments : Parses self n (printArguments self n)
  | keywordStatement {w : Keyword} {place : Location} {x : Parser Stmt}
    (h : keywordStatement? self n w place = some x) : Parses self n x
  | simpleStatement : Parses self n (simpleStatement self n)
  | blockBody (m : Nat) : Parses self n (blockBody self.statement m)
  | block : Parses self n (block self n)
  | condition : Parses self n (condition self)
  | loopBody : Parses self n (loopBody self)
  | ifStatement (place : Location) : Parses self n (ifStatement self place)
  | whileStatement (place : Location) : Parses self n (whileStatement self place)
  | doStatement (place : Location) : Parses self n (doStatement self place)
  | forClause (terminator : Mark) : Parses self n (forClause self terminator)
  | forStatement (place : Location) : Parses self n (forStatement self place)
  | statement : Parses self n (statement self n)
  | parameters (function : String) (m : Nat) (seen : List String) :
    Parses self n (parameters function m seen)
  | functionName : Parses self n functionName
  | functionDefinition : Parses self n (functionDefinition self n)
  | test : Parses self n (test self)
  | testOrRange : Parses self n (testOrRange self)
  | special (p : Pattern) (keyword : String) : Parses self n (special p keyword)
  | rule : Parses self n (rule self n)
  | items (m : Nat) (p : Program) : Parses self n (items self n m p)
  | program : Parses self n (program self n)

/-- A parser goes on in the text and keeps the print flag, also if it fails. -/
def Moves {α : Type} (x : Parser α) : Prop := ∀ c : Cursor, c.Onward (after x c)

namespace Moves

variable {α β : Type} {x y : Parser α} {k m i j : Nat}

theorem of_alike {R : Cursor → Cursor → Prop} {P : α → Prop}
    (h : ∀ c, Alike (fun _ => True) k R P x y c) (hR : ∀ c d, R c d → c.Onward d) : Moves x := by
  intro c
  obtain ⟨-, hend⟩ := h c ⟨trivial, fun _ _ => trivial⟩
  unfold after
  cases hrun : x c with
  | ok a d =>
    rw [hrun] at hend
    exact hR c d hend.1
  | error e d =>
    rw [hrun] at hend
    exact hend.2

theorem of_reads {P : α → Prop} (h : ∀ c, ReadsAlike (fun _ => True) k m i j P x y c) : Moves x :=
  of_alike h fun _ _ hd => hd.onward

theorem of_passes {unended : Bool} {P : α → Prop}
    (h : ∀ c, PassesAlike (fun _ => True) k unended m P x y c) : Moves x :=
  of_alike h fun _ _ hd => hd.onward

theorem of_prints (h : ∀ c, PrintsAlike (fun _ => True) k x y c) : Moves x :=
  of_alike h fun _ _ hd => hd.onward

theorem pure (a : α) : Moves (pure a) := fun c => .refl c

theorem fail (fault : ParseFault) : Moves (Parser.fail fault : Parser α) := fun c => .refl c

theorem failAt (fault : ParseFault) (place : Location) :
    Moves (Parser.failAt fault place : Parser α) :=
  fun c => .refl c

theorem unexpected (what : String) : Moves (Parser.unexpected what : Parser α) := fun c => .refl c

theorem bind {f : α → Parser β} (hx : Moves x) (hf : ∀ a, Moves (f a)) : Moves (x >>= f) :=
  after_bind_trans (R := Cursor.Onward) (fun _ _ _ => .trans) hx hf

theorem look {f : Cursor → Parser β} (hf : ∀ c, Moves (f c)) : Moves (get >>= f) :=
  bind (fun c => .refl c) hf

theorem optional (hx : Moves x) : Moves (some <$> x) := by
  rw [map_eq_pure_bind]
  exact hx.bind fun a => pure (some a)

theorem advance : Moves Parser.advance := by
  intro c
  show c.Onward (if c.atEnd then c else { c with rest := c.rest.tail })
  split
  · exact .refl c
  · next hend =>
    cases hrest : c.rest with
    | nil => simp [Cursor.atEnd, Cursor.kind?, hrest] at hend
    | cons t ts =>
      refine ⟨⟨[t], hrest, ?_⟩, rfl, rfl⟩
      simpa [Cursor.atEnd, Cursor.kind?, hrest] using hend

theorem accept (mark : Mark) : Moves (Parser.accept mark) := by
  refine look fun c => ?_
  split
  · exact advance.bind fun _ => pure true
  · exact pure false

theorem acceptKeyword (w : Keyword) : Moves (Parser.acceptKeyword w) := by
  refine look fun c => ?_
  split
  · exact advance.bind fun _ => pure true
  · exact pure false

theorem expect (mark : Mark) : Moves (Parser.expect mark) := by
  refine (accept mark).bind fun taken => ?_
  cases taken with
  | true => exact pure ()
  | false => exact unexpected _

theorem expectKeyword (w : Keyword) : Moves (Parser.expectKeyword w) := by
  refine (acceptKeyword w).bind fun taken => ?_
  cases taken with
  | true => exact pure ()
  | false => exact unexpected _

theorem expectIdentifier : Moves Parser.expectIdentifier :=
  of_reads (k := 0) (i := 0) fun _ => .expectIdentifier

theorem skipNewlines : Moves Parser.skipNewlines :=
  of_reads (k := 0) (i := 0) fun _ => .skipNewlines

end Moves

/-- What follows a keyword. -/
theorem Phrases.ParseAlike.moves_keywordStatement {n : Nat} {self : Phrases}
    (h : self.ParseAlike (fun _ => True) 0 self) {w : Keyword} {place : Location} {x : Parser Stmt}
    (hx : keywordStatement? self n w place = some x) : Moves x := by
  have hprint := Moves.of_prints (h.printArguments (Nat.zero_le n) (Nat.le_refl n))
  cases w <;> cases hx
  case break_ | continue_ | next | nextFile => exact .pure _
  case exit | return_ => exact (Moves.of_reads h.optionalExpression).bind fun _ => .pure _
  case delete =>
    refine Moves.expectIdentifier.bind fun _ => (Moves.accept _).bind fun taken => ?_
    cases taken with
    | true =>
      exact (Moves.of_reads (h.subscripts (Nat.zero_le n) (Nat.le_refl n))).bind fun _ => .pure _
    | false => exact .pure _
  case print => exact hprint.bind fun _ => .pure _
  case printf =>
    refine hprint.bind fun es => ?_
    cases es with
    | nil => exact .fail _
    | cons e es => exact .pure _

theorem Parses.moves {m n : Nat} {α : Type} {x : Parser α} (hx : Parses (phrases m) n x) :
    Moves x := by
  have h : (phrases m).ParseAlike (fun _ => True) 0 (phrases m) :=
    (phrases_alike _ (phrases 0) (Nat.le_refl m) (Nat.le_refl m)).zero _
  have hk := Nat.zero_le n
  have hn := Nat.le_refl n
  cases hx with
  | advance => exact .advance
  | accept mark => exact .accept mark
  | acceptKeyword w => exact .acceptKeyword w
  | expect mark => exact .expect mark
  | expectKeyword w => exact .expectKeyword w
  | expectIdentifier => exact .expectIdentifier
  | skipNewlines => exact .skipNewlines
  | skipTerminators =>
    exact .of_passes fun _ => (.skipTerminators : PassesAlike _ 0 false 0 _ _ _ _)
  | inner => exact .of_reads h.expression
  | innerUnary => exact .of_reads h.unary
  | innerIncrement => exact .of_reads h.increment
  | innerField => exact .of_reads h.field
  | innerStatement => exact .of_passes h.statement
  | moreExpressions m =>
    exact .of_reads (moreExpressions_alike (Nat.zero_le m) (Nat.le_refl m) h.expression)
  | expressionList m =>
    exact .of_reads (expressionList_alike (Nat.zero_le m) (Nat.le_refl m) h.expression)
  | nestedExpression => exact .of_reads fun _ => .nested (h.expression _)
  | nestedList m => exact .of_reads (h.nestedList (Nat.zero_le m) (Nat.le_refl m))
  | printList m =>
    have hlist := expressionList_alike (Nat.zero_le m) (Nat.le_refl m) h.expression
    exact .of_prints fun c => (hlist _).withPrint true
  | subscripts => exact .of_reads (h.subscripts hk hn)
  | callArguments => exact .of_reads (h.callArguments hk hn)
  | builtinCall b place => exact .of_reads (h.builtinCall hk hn b trivial)
  | groupOrMember place => exact .of_reads (h.groupOrMember hk hn trivial)
  | getlineForm place => exact .of_reads (h.getlineForm trivial)
  | signed op place =>
    exact Moves.advance.bind fun _ => (Moves.of_reads h.unary).bind fun _ => .pure _
  | primary => exact .of_reads (h.primary hk hn)
  | field => exact .of_reads (h.fieldLevel hk hn)
  | postfixStep => exact .of_reads (h.postfixStep hk hn)
  | prefixStep mark how place =>
    refine Moves.advance.bind fun _ => (Moves.of_reads h.increment).bind fun _ => ?_
    split
    · exact .pure _
    · exact .failAt _ _
  | increment => exact .of_reads (h.incrementLevel hk hn)
  | power => exact .of_reads (h.power hk hn)
  | unary => exact .of_reads (h.unaryLevel hk hn)
  | products m left =>
    exact .of_reads (leftAssoc_alike productOf?_operators (fun _ _ => .pure trivial) (Nat.zero_le m)
      (Nat.le_refl m) (fun c => (h.unaryLevel hk hn c).shorter) trivial)
  | multiplicative => exact .of_reads (h.multiplicative hk hn)
  | sums m left =>
    exact .of_reads (leftAssoc_alike sumOf?_operators (fun _ _ => .pure trivial) (Nat.zero_le m)
      (Nat.le_refl m) (fun c => (h.multiplicative hk hn c).shorter) trivial)
  | additive => exact .of_reads (h.additive hk hn)
  | concatenated m left =>
    exact .of_reads (concatenated_alike (Nat.zero_le m) (Nat.le_refl m)
      (fun c => (h.additive hk hn c).shorter) trivial)
  | concatenation => exact .of_reads (h.concatenation hk hn)
  | relational => exact .of_reads (h.relational hk hn)
  | memberships m e =>
    exact .of_reads (memberships_alike (Nat.zero_le m) (Nat.le_refl m) trivial)
  | membership => exact .of_reads (h.membership hk hn)
  | conjuncts m left =>
    exact .of_reads (leftAssoc_alike andOf?_operators (fun _ _ => .skipNewlines) (Nat.zero_le m)
      (Nat.le_refl m) (fun c => (h.membership hk hn c).shorter) trivial)
  | conjunction => exact .of_reads (h.conjunction hk hn)
  | disjuncts m left =>
    exact .of_reads (leftAssoc_alike orOf?_operators (fun _ _ => .skipNewlines) (Nat.zero_le m)
      (Nat.le_refl m) (fun c => (h.conjunction hk hn c).shorter) trivial)
  | disjunction => exact .of_reads (h.disjunction hk hn)
  | ternary => exact .of_reads (h.ternary hk hn)
  | assignment => exact .of_reads (h.assignment hk hn)
  | endOfStatement => exact .of_passes (k := 0) fun _ => endOfStatement_alike
  | optionalExpression => exact .of_reads h.optionalExpression
  | rejectRedirection => exact .of_prints (k := 0) rejectRedirection_alike
  | printGroup? => exact .of_prints (h.printGroup? hk hn)
  | printArguments => exact .of_prints (h.printArguments hk hn)
  | keywordStatement hx => exact h.moves_keywordStatement hx
  | simpleStatement => exact .of_passes (h.simpleStatement hk hn)
  | blockBody m => exact .of_passes (blockBody_alike (Nat.zero_le m) (Nat.le_refl m) h.statement)
  | block => exact .of_passes (h.block hk hn)
  | condition => exact .of_reads h.condition
  | loopBody => exact .of_passes h.loopBody
  | ifStatement place => exact .of_passes (h.ifStatement place)
  | whileStatement place => exact .of_passes (h.whileStatement place)
  | doStatement place => exact .of_passes (h.doStatement place)
  | forClause terminator =>
    refine .look fun c => ?_
    have hend : ∀ clause : Option Expr,
        Moves (do Parser.expect terminator; Parser.skipNewlines; return clause) :=
      fun _ => (Moves.expect _).bind fun _ => Moves.skipNewlines.bind fun _ => .pure _
    split
    · exact hend none
    · exact (Moves.of_reads fun _ => .nested (h.expression _)).optional.bind hend
  | forStatement place => exact .of_passes (h.forStatement place)
  | statement => exact .of_passes (h.statementLevel hk hn)
  | parameters function m seen =>
    exact .of_reads (parameters_alike function seen (Nat.zero_le m) (Nat.le_refl m))
  | functionName => exact .of_reads (k := 0) functionName_alike
  | functionDefinition => exact .of_passes (h.functionDefinition hk hn)
  | test => exact .of_reads h.test
  | testOrRange => exact .of_reads h.testOrRange
  | special p keyword =>
    refine Moves.advance.bind fun _ => Moves.skipNewlines.bind fun _ => .look fun _ => ?_
    split
    · exact .pure _
    · exact .fail _
  | rule => exact .of_passes (h.rule hk hn)
  | items m p =>
    have hitems := items_alike (Nat.zero_le m) (Nat.le_refl m)
      (fun c => (h.functionDefinition hk hn c).shorter) (h.rule hk hn) p
    exact .of_alike hitems fun _ _ hd => hd.passes.onward
  | program => exact .of_alike (h.program hk hn) fun _ _ hd => hd.passes.onward

end Grammar
end Awk
