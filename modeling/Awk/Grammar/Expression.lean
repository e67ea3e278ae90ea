import Awk.Grammar.Cursor
import Awk.Program

/-!
# Expressions

Loosest binding first:

    assignment      ternary, or a target, an assignment mark and an assignment
    ternary         or, or or ? assignment : assignment
    or, and         left-associative
    membership      relational followed by any number of: in NAME
    relational      concatenation, or two of them around one comparison or match
    concatenation   additive operands side by side
    additive        left-associative + and -
    multiplicative  left-associative * / and %
    unary           ! - + before a unary, or a power
    power           increment, or increment ^ unary
    increment       ++ or -- before an increment, or a postfix
    postfix         field, or an assignable field followed by ++ or --
    field           $ before a field, or a primary

The levels call each other downward.  They come back to an outer level only after
they have taken a token, through the `Phrases` they are given, so as many steps as
there are tokens, and one more, are enough for any text.
-/

namespace Awk
namespace Grammar

open Awk.Parser

/-- Parsers for what may stand inside a phrase once a token of it is taken. -/
structure Phrases where
  expression : Parser Expr
  unary : Parser Expr
  increment : Parser Expr
  field : Parser Expr
  statement : Parser Stmt

/-- A comma and one more expression, any number of times. -/
def moreExpressions (expression : Parser Expr) : Nat → Parser (List Expr)
  | 0 => return []
  | n + 1 => do
    if ← accept .comma then
      skipNewlines
      let e ← expression
      let es ← moreExpressions expression n
      return e :: es
    else return []

def expressionList (expression : Parser Expr) (n : Nat) : Parser (List Expr) := do
  let e ← expression
  let es ← moreExpressions expression n
  return e :: es

/-- The subscripts after an opening bracket, with the closing one. -/
def subscripts (self : Phrases) (n : Nat) : Parser (List Expr) := do
  let es ← nested (expressionList self.expression n)
  expect .rightBracket
  return es

def callArguments (self : Phrases) (n : Nat) : Parser (List Expr) := do
  expect .leftParen
  if ← accept .rightParen then return []
  let es ← nested (expressionList self.expression n)
  expect .rightParen
  return es

/-- A built-in function and its arguments.  Only `length` may go without a
list. -/
def builtinCall (self : Phrases) (n : Nat) (b : Builtin) (place : Location) : Parser Expr := do
  if (← get).isMark .leftParen then
    return .builtin b (← callArguments self n) place
  else if b = .length then return .builtin b [] place
  else failAt (.builtinWithoutArguments b) place

/-- What follows an opening parenthesis: one expression, or a list of subscripts
to look for in an array. -/
def groupOrMember (self : Phrases) (n : Nat) (place : Location) : Parser Expr := do
  let es ← nested (expressionList self.expression n)
  expect .rightParen
  match es with
  | [e] => return .group e place
  | es =>
    if ← acceptKeyword .in_ then return .contains es (← expectIdentifier) place
    else fail .subscriptListWithoutIn

/-- What follows `getline`: a target and a file, each if present. -/
def getlineForm (self : Phrases) (place : Location) : Parser Expr := do
  let target ←
    match (← get).kind? with
    | some (.identifier _) | some (.mark .dollar) => some <$> self.field
    | _ => pure none
  let file ← if ← accept .less then some <$> self.increment else pure none
  return .getline target file place

def signOf? : Token.Kind → Option UnaryOp
  | .mark .not => some .not
  | .mark .minus => some .neg
  | .mark .plus => some .pos
  | _ => none

/-- A sign, which is the next token, and its operand. -/
def signed (self : Phrases) (op : UnaryOp) (place : Location) : Parser Expr := do
  advance
  return .unary op (← self.unary) place

def primary (self : Phrases) (n : Nat) : Parser Expr := do
  let c ← get
  match c.kind? with
  | some (.number x) =>
    advance
    return .number x c.place
  | some (.string s) =>
    advance
    return .string s c.place
  | some (.regex r) =>
    advance
    return .regex r c.place
  | some (.identifier name) =>
    advance
    if ← accept .leftBracket then return .element name (← subscripts self n) c.place
    else return .var name c.place
  | some (.funcName name) =>
    advance
    return .call name (← callArguments self n) c.place
  | some (.builtin b) =>
    advance
    builtinCall self n b c.place
  | some (.keyword .getline) =>
    advance
    getlineForm self c.place
  | some (.mark .leftParen) =>
    advance
    groupOrMember self n c.place
  | some k =>
    match signOf? k with
    | some op => signed self op c.place
    | none => unexpected "expression"
  | none => unexpected "expression"

/-- A dollar sign binds tighter than all but grouping.  A sign or a step right
behind it belongs to the field number. -/
def field (self : Phrases) (n : Nat) : Parser Expr := do
  let c ← get
  if ← accept .dollar then
    let d ← get
    match d.kind? with
    | some (.mark .increment) | some (.mark .decrement) =>
      return .field (← self.increment) c.place
    | some (.mark .minus) =>
      advance
      return .field (.unary .neg (← self.field) d.place) c.place
    | _ => return .field (← self.field) c.place
  else primary self n

def postfixStep (self : Phrases) (n : Nat) : Parser Expr := do
  let e ← field self n
  if e.isAssignable then
    let place ← Parser.place
    if ← accept .increment then return .step .postIncrement e place
    else if ← accept .decrement then return .step .postDecrement e place
    else return e
  else return e

/-- A step mark, which is the next token, and the operand it steps. -/
def prefixStep (self : Phrases) (mark : Mark) (how : Step) (place : Location) : Parser Expr := do
  advance
  let e ← self.increment
  if e.isAssignable then return .step how e place
  else failAt (.stepOfValue mark.text) e.place

def increment (self : Phrases) (n : Nat) : Parser Expr := do
  let c ← get
  match c.kind? with
  | some (.mark .increment) => prefixStep self .increment .preIncrement c.place
  | some (.mark .decrement) => prefixStep self .decrement .preDecrement c.place
  | _ => postfixStep self n

/-- Associates to the right, and the exponent may have a sign. -/
def power (self : Phrases) (n : Nat) : Parser Expr := do
  let base ← increment self n
  let place ← Parser.place
  if ← accept .caret then return .arith .pow base (← self.unary) place
  else return base

/-- Looser than `^`, so that `-2^2` is the negative of a square. -/
def unary (self : Phrases) (n : Nat) : Parser Expr := do
  let c ← get
  match c.kind?.bind signOf? with
  | some op => signed self op c.place
  | none => power self n

/-- Operands joined by operators of one level, from the left.  `read` tells what an
operator makes of its operands. -/
def leftAssoc (operand : Parser Expr) (read : Token.Kind → Option (Expr → Expr → Location → Expr))
    (afterOperator : Parser Unit) : Nat → Expr → Parser Expr
  | 0, left => return left
  | n + 1, left => do
    let c ← get
    match c.kind?.bind read with
    | none => return left
    | some make =>
      advance
      afterOperator
      let right ← operand
      leftAssoc operand read afterOperator n (make left right c.place)

def productOf? : Token.Kind → Option (Expr → Expr → Location → Expr)
  | .mark .star => some (.arith .mul)
  | .mark .slash => some (.arith .div)
  | .mark .percent => some (.arith .mod)
  | _ => none

def sumOf? : Token.Kind → Option (Expr → Expr → Location → Expr)
  | .mark .plus => some (.arith .add)
  | .mark .minus => some (.arith .sub)
  | _ => none

def andOf? : Token.Kind → Option (Expr → Expr → Location → Expr)
  | .mark .and => some (.logic .and)
  | _ => none

def orOf? : Token.Kind → Option (Expr → Expr → Location → Expr)
  | .mark .or => some (.logic .or)
  | _ => none

def multiplicative (self : Phrases) (n : Nat) : Parser Expr := do
  leftAssoc (unary self n) productOf? (pure ()) n (← unary self n)

def additive (self : Phrases) (n : Nat) : Parser Expr := do
  leftAssoc (multiplicative self n) sumOf? (pure ()) n (← multiplicative self n)

/-- What may start one more operand of a concatenation.  Signs may not, so that
`a - b` stays a subtraction. -/
def startsOperand : Token.Kind → Bool
  | .number _ | .string _ | .identifier _ | .funcName _ | .builtin _ => true
  | .mark .dollar | .mark .leftParen | .mark .not | .mark .increment | .mark .decrement => true
  | _ => false

/-- Operands side by side, from the left.  A concatenation has the place of its
left operand. -/
def concatenated (operand : Parser Expr) : Nat → Expr → Parser Expr
  | 0, left => return left
  | n + 1, left => do
    if ((← get).kind?.map startsOperand).getD false then
      let right ← operand
      concatenated operand n (.concat left right left.place)
    else return left

def concatenation (self : Phrases) (n : Nat) : Parser Expr := do
  concatenated (additive self n) n (← additive self n)

/-- What a comparison or match makes of its operands.  In a print list `>` is left
for the check on redirection. -/
def relationOf? (inPrint : Bool) : Token.Kind → Option (Expr → Expr → Location → Expr)
  | .mark .less => some (.relation .lt)
  | .mark .lessEqual => some (.relation .le)
  | .mark .greater => if inPrint then none else some (.relation .gt)
  | .mark .greaterEqual => some (.relation .ge)
  | .mark .equal => some (.relation .eq)
  | .mark .notEqual => some (.relation .ne)
  | .mark .tilde => some fun l r place => .matching l r false place
  | .mark .notTilde => some fun l r place => .matching l r true place
  | _ => none

/-- Comparisons and matches do not associate. -/
def relational (self : Phrases) (n : Nat) : Parser Expr := do
  let left ← concatenation self n
  let c ← get
  match c.kind?.bind (relationOf? c.inPrint) with
  | none => return left
  | some make =>
    advance
    let right ← concatenation self n
    return make left right c.place

def memberships : Nat → Expr → Parser Expr
  | 0, e => return e
  | n + 1, e => do
    let place ← Parser.place
    if ← acceptKeyword .in_ then
      memberships n (.contains [e] (← expectIdentifier) place)
    else return e

def membership (self : Phrases) (n : Nat) : Parser Expr := do
  memberships n (← relational self n)

def conjunction (self : Phrases) (n : Nat) : Parser Expr := do
  leftAssoc (membership self n) andOf? skipNewlines n (← membership self n)

def disjunction (self : Phrases) (n : Nat) : Parser Expr := do
  leftAssoc (conjunction self n) orOf? skipNewlines n (← conjunction self n)

/-- Both branches may be assignments. -/
def ternary (self : Phrases) (n : Nat) : Parser Expr := do
  let test ← disjunction self n
  let place ← Parser.place
  if ← accept .question then
    skipNewlines
    let ifTrue ← self.expression
    skipNewlines
    expect .colon
    skipNewlines
    let ifFalse ← self.expression
    return .cond test ifTrue ifFalse place
  else return test

/-- The operator of an assignment mark. -/
def assignmentOf? : Token.Kind → Option (Option Arith)
  | .mark .assign => some none
  | .mark .plusAssign => some (some .add)
  | .mark .minusAssign => some (some .sub)
  | .mark .starAssign => some (some .mul)
  | .mark .slashAssign => some (some .div)
  | .mark .percentAssign => some (some .mod)
  | .mark .caretAssign => some (some .pow)
  | _ => none

def assignment (self : Phrases) (n : Nat) : Parser Expr := do
  let target ← ternary self n
  let c ← get
  match c.kind?.bind assignmentOf? with
  | none => return target
  | some op =>
    if target.isAssignable then
      advance
      skipNewlines
      return .assign op target (← self.expression) c.place
    else fail .assignmentToValue

end Grammar
end Awk
