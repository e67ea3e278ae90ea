import Awk.Grammar.Expression

/-!
# Statements

A statement calls the parsers of nested statements and expressions only after it
has taken a token, as the levels of expressions do.
-/

namespace Awk
namespace Grammar

open Awk.Parser

/-- A simple statement ends at a semicolon, a newline, a closing brace or the end of
the text. -/
def endOfStatement : Parser Unit := do
  let c ← get
  match c.kind? with
  | some (.mark .semicolon) | some .newline => advance
  | some (.mark .rightBrace) => return ()
  | _ => unless c.atEnd do unexpected "end of statement"

def optionalExpression (self : Phrases) : Parser (Option Expr) := do
  if (← get).startsExpression then some <$> self.expression else return none

/-- Whether an argument list in parentheses is over, so that nothing may follow it
but a redirection. -/
def atPrintEnd (c : Cursor) : Bool :=
  match c.kind? with
  | none => true
  | some k =>
    k.isNewline || k.isEof || k.isMark .semicolon || k.isMark .rightBrace ||
      k.isMark .greater || k.isMark .append || k.isMark .pipe

/-- Output goes to one place, so a redirection is an error. -/
def rejectRedirection : Parser Unit := do
  match (← get).kind? with
  | some (.mark .greater) => fail (.redirection ">")
  | some (.mark .append) => fail (.redirection ">>")
  | some (.mark .pipe) => fail (.redirection "|")
  | _ => return ()

/-- Arguments in parentheses that end the statement.  Anything else is read again
from the parenthesis, so that `print (a)(b)` is a concatenation. -/
def printGroup? (self : Phrases) (n : Nat) : Parser (Option (List Expr)) := fun c =>
  if c.isMark .leftParen then
    match nested (expressionList self.expression n) c.advance with
    | .error _ _ => .ok none c
    | .ok es d =>
      if d.isMark .rightParen && atPrintEnd d.advance then .ok (some es) d.advance
      else .ok none c
  else .ok none c

def printArguments (self : Phrases) (n : Nat) : Parser (List Expr) := do
  match ← printGroup? self n with
  | some es =>
    rejectRedirection
    return es
  | none =>
    let es ←
      if (← get).startsExpression then withPrint true (expressionList self.expression n)
      else pure []
    rejectRedirection
    return es

/-- What follows a keyword that starts a simple statement. -/
def keywordStatement? (self : Phrases) (n : Nat) (k : Keyword) (place : Location) :
    Option (Parser Stmt) :=
  match k with
  | .break_ => some (return .breakLoop place)
  | .continue_ => some (return .continueLoop place)
  | .next => some (return .next place)
  | .nextFile => some (return .nextFile place)
  | .exit => some do return .exit (← optionalExpression self) place
  | .return_ => some do return .returnValue (← optionalExpression self) place
  | .delete => some do
    let array ← expectIdentifier
    let index ← if ← accept .leftBracket then subscripts self n else pure []
    return .delete array index place
  | .print => some do return .print (← printArguments self n) place
  | .printf => some do
    match ← printArguments self n with
    | [] => fail .printfWithoutFormat
    | format :: args => return .printf format args place
  | _ => none

def simpleStatement (self : Phrases) (n : Nat) : Parser Stmt := do
  let c ← get
  match c.kind? with
  | none => unexpected "statement"
  | some (.keyword k) =>
    match keywordStatement? self n k c.place with
    | some p =>
      advance
      p
    | none => return .expr (← assignment self n)
  | some _ => return .expr (← assignment self n)

/-- Statements up to a closing brace. -/
def blockBody (statement : Parser Stmt) : Nat → Parser (List Stmt)
  | 0 => return []
  | n + 1 => do
    let c ← get
    if c.isMark .rightBrace then return []
    else if c.atEnd then fail .unclosedBlock
    else
      let s ← statement
      skipTerminators
      let ss ← blockBody statement n
      return s :: ss

def block (self : Phrases) (n : Nat) : Parser Block := do
  let place ← Parser.place
  expect .leftBrace
  skipTerminators
  let body ← blockBody self.statement n
  expect .rightBrace
  return { body, place }

/-- The parenthesised test of a conditional or a loop. -/
def condition (self : Phrases) : Parser Expr := do
  expect .leftParen
  let e ← nested self.expression
  expect .rightParen
  return e

/-- A semicolon right after the head of a loop is an empty body. -/
def loopBody (self : Phrases) : Parser Stmt := do
  if ← accept .semicolon then return .empty
  skipNewlines
  self.statement

def ifStatement (self : Phrases) (place : Location) : Parser Stmt := do
  let test ← condition self
  skipNewlines
  let ifTrue ← self.statement
  let before ← get
  skipTerminators
  if ← acceptKeyword .else_ then
    skipNewlines
    return .ifElse test ifTrue (some (← self.statement)) place
  else
    set before
    return .ifElse test ifTrue none place

def whileStatement (self : Phrases) (place : Location) : Parser Stmt := do
  let test ← condition self
  return .whileLoop test (← loopBody self) place

def doStatement (self : Phrases) (place : Location) : Parser Stmt := do
  skipNewlines
  let body ← self.statement
  skipTerminators
  expectKeyword .while_
  let test ← condition self
  endOfStatement
  return .doWhile body test place

/-- The rest of a header `name in array )`, if the next tokens are one. -/
def forInHeader? (c : Cursor) : Option (String × String × Cursor) :=
  match c.rest with
  | ⟨.identifier var, _⟩ :: ⟨.keyword .in_, _⟩ :: ⟨.identifier array, _⟩ ::
      ⟨.mark .rightParen, _⟩ :: rest => some (var, array, { c with rest })
  | _ => none

/-- One clause of a loop header with the mark that ends it. -/
def forClause (self : Phrases) (terminator : Mark) : Parser (Option Expr) := do
  let clause ←
    if (← get).isMark terminator then pure none else some <$> nested self.expression
  expect terminator
  skipNewlines
  return clause

def forStatement (self : Phrases) (place : Location) : Parser Stmt := do
  expect .leftParen
  match forInHeader? (← get) with
  | some (var, array, c) =>
    set c
    return .forIn var array (← loopBody self) place
  | none =>
    let init ← forClause self .semicolon
    let test ← forClause self .semicolon
    let update ← forClause self .rightParen
    return .forLoop init test update (← loopBody self) place

def statement (self : Phrases) (n : Nat) : Parser Stmt := do
  skipNewlines
  let c ← get
  match c.kind? with
  | some (.mark .semicolon) =>
    advance
    return .empty
  | some (.mark .leftBrace) =>
    let b ← block self n
    return .block b.body b.place
  | some (.keyword .if_) =>
    advance
    ifStatement self c.place
  | some (.keyword .while_) =>
    advance
    whileStatement self c.place
  | some (.keyword .for_) =>
    advance
    forStatement self c.place
  | some (.keyword .do_) =>
    advance
    doStatement self c.place
  | _ =>
    let s ← simpleStatement self n
    endOfStatement
    return s

/-- The parsers of nested phrases with `n` steps to go.  With none they reject
every text; a text has more steps than tokens, so this is never reached. -/
def phrases : Nat → Phrases
  | 0 =>
    { expression := unexpected "expression"
      unary := unexpected "expression"
      increment := unexpected "expression"
      field := unexpected "expression"
      statement := unexpected "statement" }
  | n + 1 =>
    let self := phrases n
    { expression := assignment self n
      unary := unary self n
      increment := increment self n
      field := field self n
      statement := statement self n }

end Grammar
end Awk
