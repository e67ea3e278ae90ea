import Awk.Error
import Awk.Token

/-!
# Reading tokens

A parser works on a cursor: the tokens still to be read, and whether it is inside
the bare argument list of `print`, where `>` does not compare.  Both are known
also after a failure.
-/

namespace Awk

structure Cursor where
  rest : List Token
  /-- Where errors point when no token is left. -/
  last : Location
  inPrint : Bool

namespace Cursor

def ofTokens (tokens : List Token) : Cursor :=
  { rest := tokens
    last := (tokens.getLast?.map (·.place)).getD .start
    inPrint := false }

def kind? (c : Cursor) : Option Token.Kind := c.rest.head?.map (·.kind)

def place (c : Cursor) : Location :=
  match c.rest with
  | t :: _ => t.place
  | [] => c.last

def atEnd (c : Cursor) : Bool :=
  match c.kind? with
  | some k => k.isEof
  | none => true

/-- Past the next token, unless that is the end of the text. -/
def advance (c : Cursor) : Cursor := if c.atEnd then c else { c with rest := c.rest.tail }

def isMark (c : Cursor) (m : Mark) : Bool :=
  match c.kind? with
  | some k => k.isMark m
  | none => false

def isKeyword (c : Cursor) (w : Keyword) : Bool :=
  match c.kind? with
  | some k => k.isKeyword w
  | none => false

def startsExpression (c : Cursor) : Bool :=
  match c.kind? with
  | some k => k.startsExpression
  | none => false

/-- The next token as messages show it. -/
def found (c : Cursor) : String :=
  match c.kind? with
  | some k => k.describe
  | none => "end of input"

end Cursor

abbrev Parser := EStateM Error Cursor

namespace Parser

/-- Fails at the next token. -/
def fail {α : Type} (fault : ParseFault) : Parser α :=
  fun c => .error (.parse fault c.place) c

def failAt {α : Type} (fault : ParseFault) (place : Location) : Parser α :=
  fun c => .error (.parse fault place) c

def unexpected {α : Type} (what : String) : Parser α :=
  fun c => .error (.parse (.expected what c.found) c.place) c

def advance : Parser Unit := modify Cursor.advance

def place : Parser Location := return (← get).place

/-- Takes the next token if it is the given mark. -/
def accept (m : Mark) : Parser Bool := do
  if (← get).isMark m then
    advance
    return true
  else return false

def acceptKeyword (w : Keyword) : Parser Bool := do
  if (← get).isKeyword w then
    advance
    return true
  else return false

def expect (m : Mark) : Parser Unit := do
  unless ← accept m do unexpected (Token.Kind.mark m).describe

def expectKeyword (w : Keyword) : Parser Unit := do
  unless ← acceptKeyword w do unexpected (Token.Kind.keyword w).describe

def expectIdentifier : Parser String := do
  match (← get).kind? with
  | some (.identifier name) =>
    advance
    return name
  | _ => unexpected "identifier"

def skipNewlines : Parser Unit :=
  modify fun c => { c with rest := c.rest.dropWhile (·.kind.isNewline) }

/-- Skips newlines and semicolons. -/
def skipTerminators : Parser Unit :=
  modify fun c =>
    { c with rest := c.rest.dropWhile fun t => t.kind.isNewline || t.kind.isMark .semicolon }

/-- Runs a parser with the print flag set to `flag`, and gives the flag its old
value back whatever the outcome. -/
def withPrint {α : Type} (flag : Bool) (p : Parser α) : Parser α := fun c =>
  match p { c with inPrint := flag } with
  | .ok a c' => .ok a { c' with inPrint := c.inPrint }
  | .error e c' => .error e { c' with inPrint := c.inPrint }

/-- Inside parentheses and brackets `>` compares again. -/
def nested {α : Type} (p : Parser α) : Parser α := withPrint false p

end Parser
end Awk
