import Awk.ArrayParam
import Awk.Grammar.Statement
import Awk.Scanner

/-!
# Whole programs

Rules and function definitions in any order, separated by newlines or semicolons.
-/

namespace Awk
namespace Grammar

open Awk.Parser

/-- Parameter names up to the closing parenthesis.  A parameter may have neither the
name of its function nor that of an earlier one; the error points behind it. -/
def parameters (function : String) : Nat → List String → Parser (List String)
  | 0, seen => return seen
  | n + 1, seen => do
    let param ← expectIdentifier
    if param == function || seen.contains param then fail (.invalidParameter param function)
    else if ← accept .comma then parameters function n (seen ++ [param])
    else return seen ++ [param]

def functionName : Parser String := do
  match (← get).kind? with
  | some (.funcName name) | some (.identifier name) =>
    advance
    return name
  | some (.builtin b) => fail (.builtinRedefined b)
  | _ => unexpected "function name"

def functionDefinition (self : Phrases) (n : Nat) : Parser Function := do
  let place ← Parser.place
  expectKeyword .function
  let name ← functionName
  expect .leftParen
  let params ← if (← get).isMark .rightParen then pure [] else parameters name n []
  expect .rightParen
  skipNewlines
  let body ← block self n
  return { name, params, arrayParams := params.map fun _ => false, body, place }

def test (self : Phrases) : Parser Test := do
  match ← self.expression with
  | .regex pattern _ => return .regex pattern
  | e => return .expr e

/-- One test, or two that delimit a range. -/
def testOrRange (self : Phrases) : Parser Pattern := do
  let first ← test self
  if ← accept .comma then
    skipNewlines
    return .range first (← test self)
  else return .test first

/-- `BEGIN` or `END`, which must be followed by an action. -/
def special (p : Pattern) (keyword : String) : Parser (Option Pattern) := do
  advance
  skipNewlines
  if (← get).isMark .leftBrace then return some p else fail (.actionRequired keyword)

/-- A pattern and an action, not both absent.  An action starts on the line of its
pattern. -/
def rule (self : Phrases) (n : Nat) : Parser Rule := do
  let c ← get
  let pattern ←
    match c.kind? with
    | some (.keyword .begin_) => special .begin_ "BEGIN"
    | some (.keyword .end_) => special .end_ "END"
    | some (.mark .leftBrace) => pure none
    | _ => some <$> testOrRange self
  if (← get).isMark .leftBrace then
    return { pattern, action := some (← block self n), place := c.place }
  else
    endOfStatement
    return { pattern, action := none, place := c.place }

/-- Rules and functions up to the end of the text. -/
def items (self : Phrases) (n : Nat) : Nat → Program → Parser Program
  | 0, p => return p
  | m + 1, p => do
    let c ← get
    if c.atEnd then return p
    else if c.isKeyword .function then
      let f ← functionDefinition self n
      if (p.function? f.name).isSome then failAt (.functionDefinedTwice f.name) f.place
      else
        skipTerminators
        items self n m { p with functions := p.functions ++ [f] }
    else
      let r ← rule self n
      skipTerminators
      items self n m { p with rules := p.rules ++ [r] }

def program (self : Phrases) (n : Nat) : Parser Program := do
  skipTerminators
  items self n n { rules := [], functions := [] }

end Grammar

/-- The program that tokens write. -/
def parseTokens (tokens : List Token) : Except Error Program :=
  let n := tokens.length + 1
  match Grammar.program (Grammar.phrases n) n (.ofTokens tokens) with
  | .ok p _ => .ok p.resolveArrayParams
  | .error e _ => .error e

/-- The program that a text writes, or its first fault. -/
def parseProgram (source : String) : Except Error Program :=
  match tokenize source with
  | .error e => .error e
  | .ok tokens => parseTokens tokens

end Awk
