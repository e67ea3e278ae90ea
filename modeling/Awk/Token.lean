import Awk.Builtin
import Awk.Location
import Awk.Number.Shortest

namespace Awk

inductive Keyword where
  | begin_ | end_ | if_ | else_ | while_ | for_ | do_ | break_ | continue_
  | function | return_ | delete | exit | next | nextFile | getline | print | printf | in_
deriving DecidableEq, Repr

namespace Keyword

/-- Spellings, in the order in which a description looks for one. -/
def spellings : List (String × Keyword) :=
  [("BEGIN", begin_), ("END", end_), ("if", if_), ("else", else_), ("while", while_),
    ("for", for_), ("do", do_), ("break", break_), ("continue", continue_),
    ("function", function), ("func", function), ("return", return_), ("delete", delete),
    ("exit", exit), ("next", next), ("nextfile", nextFile), ("getline", getline),
    ("print", print), ("printf", printf), ("in", in_)]

def ofText? (s : String) : Option Keyword := spellings.lookup s

def text (k : Keyword) : String :=
  match spellings.find? (·.2 == k) with
  | some (s, _) => s
  | none => "?"

end Keyword

/-- Operators and punctuation. -/
inductive Mark where
  | plus | minus | star | slash | percent | caret
  | less | lessEqual | greater | greaterEqual | equal | notEqual
  | and | or | not | tilde | notTilde
  | assign | plusAssign | minusAssign | starAssign | slashAssign | percentAssign | caretAssign
  | increment | decrement | dollar | question | colon | pipe | append
  | leftParen | rightParen | leftBrace | rightBrace | leftBracket | rightBracket
  | semicolon | comma
deriving DecidableEq, Repr

namespace Mark

/-- Spellings, longer ones first, so that the first that fits is the longest.  A
slash is absent: whether it divides or opens a regular expression depends on the
token before it. -/
def spellings : List (String × Mark) :=
  [("**=", caretAssign),
    ("**", caret), ("<=", lessEqual), (">=", greaterEqual), ("==", equal), ("!=", notEqual),
    ("&&", and), ("||", or), ("!~", notTilde), ("+=", plusAssign), ("-=", minusAssign),
    ("*=", starAssign), ("%=", percentAssign), ("^=", caretAssign), ("++", increment),
    ("--", decrement), (">>", append),
    ("+", plus), ("-", minus), ("*", star), ("%", percent), ("^", caret), ("<", less),
    (">", greater), ("!", not), ("~", tilde), ("=", assign), ("$", dollar),
    ("?", question), (":", colon), ("|", pipe), ("(", leftParen), (")", rightParen),
    ("\x7b", leftBrace), ("\x7d", rightBrace), ("[", leftBracket), ("]", rightBracket),
    (";", semicolon), (",", comma)]

/-- The longest mark at the start of a text, with its spelling. -/
def longest? (cs : List Char) : Option (String × Mark) :=
  spellings.find? fun (s, _) => s.toList.isPrefixOf cs

/-- The spelling that descriptions use. -/
def text : Mark → String
  | slash => "/"
  | slashAssign => "/="
  | caret => "^"
  | caretAssign => "^="
  | m =>
    match spellings.find? (·.2 == m) with
    | some (s, _) => s
    | none => "?"

end Mark

namespace Token

inductive Kind where
  | number (x : Double)
  | string (s : String)
  | regex (pattern : String)
  | identifier (name : String)
  /-- A name with an opening parenthesis right behind it: a call or a definition. -/
  | funcName (name : String)
  | builtin (b : Builtin)
  | keyword (k : Keyword)
  | mark (m : Mark)
  | newline
  | eof
deriving Repr

namespace Kind

def isMark (k : Kind) (m : Mark) : Bool :=
  match k with
  | mark m' => m' == m
  | _ => false

def isKeyword (k : Kind) (w : Keyword) : Bool :=
  match k with
  | keyword w' => w' == w
  | _ => false

def isNewline : Kind → Bool
  | newline => true
  | _ => false

def isEof : Kind → Bool
  | eof => true
  | _ => false

def startsExpression : Kind → Bool
  | number _ | string _ | regex _ | identifier _ | funcName _ | builtin _ => true
  | mark .leftParen | mark .dollar | mark .not | mark .plus | mark .minus => true
  | mark .increment | mark .decrement => true
  | keyword .getline => true
  | _ => false

/-- A slash after one of these divides; otherwise it opens a regular
expression. -/
def endsOperand : Kind → Bool
  | number _ | string _ | identifier _ | builtin _ => true
  | mark .rightParen | mark .rightBracket | mark .increment | mark .decrement => true
  | _ => false

/-- A newline right after one of these has no meaning. -/
def absorbsNewline : Kind → Bool
  | mark .leftBrace | mark .and | mark .or | mark .comma | mark .semicolon => true
  | keyword .do_ | keyword .else_ => true
  | newline => true
  | _ => false

/-- The token as messages show it. -/
def describe : Kind → String
  | number x => "number " ++ Number.plain x
  | string s => "string \"" ++ s ++ "\""
  | regex pattern => "regex /" ++ pattern ++ "/"
  | identifier name | funcName name => "'" ++ name ++ "'"
  | builtin b => "'" ++ b.name ++ "'"
  | keyword k => "'" ++ k.text ++ "'"
  | mark m => "'" ++ m.text ++ "'"
  | newline => "newline"
  | eof => "end of input"

end Kind
end Token

structure Token where
  kind : Token.Kind
  place : Location
deriving Repr

end Awk
