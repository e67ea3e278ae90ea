import Awk.Error
import Awk.Number.Numeral
import Awk.Text.Escape
import Awk.Token

/-!
# From program text to tokens

Two pieces of context reach the scanner: whether a slash opens a regular
expression, which it does unless the token before it ends an operand, and whether
a name has an opening parenthesis right behind it, which makes it the name of a
function.
-/

namespace Awk

/-- What is left of a program text, where it starts, and whether the token before
it ended an operand. -/
structure Scanner where
  rest : List Char
  place : Location
  afterOperand : Bool

namespace Scanner

def ofText (source : String) : Scanner :=
  { rest := source.toList, place := .start, afterOperand := false }

/-- Skips blanks, comments and continued line ends.  The characters of a comment
do not count as columns; a newline or the end of the text follows them. -/
def skipBlanks (place : Location) : List Char → List Char × Location
  | [] => ([], place)
  | c :: cs =>
    if c = ' ' ∨ c = '\t' ∨ c = '\r' then skipBlanks (place.advance c) cs
    else if c = '#' then (cs.dropWhile (· ≠ '\n'), place)
    else if c = '\\' then
      match cs with
      | '\n' :: cs₁ => skipBlanks (place.advanceBy ['\\', '\n']) cs₁
      | '\r' :: '\n' :: cs₂ => skipBlanks (place.advanceBy ['\\', '\r', '\n']) cs₂
      | _ => (c :: cs, place)
    else (c :: cs, place)

/-- A piece of a token: its text, the rest of the source and where that starts. -/
structure Piece where
  text : List Char
  rest : List Char
  place : Location

/-- The characters up to the closing quote, escapes still in place.  A backslash
takes the next character with it, a quote or a newline included. -/
def stringBody (start : Location) (place : Location) (acc : List Char) :
    List Char → Except Error Piece
  | [] => .error (.parse .unterminatedString start)
  | c :: cs =>
    if c = '"' then .ok { text := acc.reverse, rest := cs, place := place.advance c }
    else if c = '\\' then
      match cs with
      | [] => .error (.parse .unterminatedString start)
      | e :: rest =>
        stringBody start ((place.advance c).advance e) (e :: '\\' :: acc) rest
    else if c = '\n' then .error (.parse .newlineInString start)
    else stringBody start (place.advance c) (c :: acc) cs

/-- The characters up to the closing slash.  An escaped slash loses its backslash,
and a slash inside a bracket expression does not close. -/
def regexBody (start : Location) (place : Location) (inBracket : Bool) (acc : List Char) :
    List Char → Except Error Piece
  | [] => .error (.parse .unterminatedRegex start)
  | c :: cs =>
    if c = '/' ∧ ¬ inBracket then
      .ok { text := acc.reverse, rest := cs, place := place.advance c }
    else if c = '\\' then
      match cs with
      | [] => .error (.parse .unterminatedRegex start)
      | e :: rest =>
        regexBody start ((place.advance c).advance e) inBracket
          (if e = '/' then '/' :: acc else e :: '\\' :: acc) rest
    else if c = '[' ∧ ¬ inBracket then
      match cs with
      | '^' :: ']' :: rest =>
        regexBody start (place.advanceBy ['[', '^', ']']) true (']' :: '^' :: '[' :: acc) rest
      | '^' :: rest =>
        regexBody start (place.advanceBy ['[', '^']) true ('^' :: '[' :: acc) rest
      | ']' :: rest =>
        regexBody start (place.advanceBy ['[', ']']) true (']' :: '[' :: acc) rest
      | rest => regexBody start (place.advance c) true ('[' :: acc) rest
    else if c = ']' ∧ inBracket then regexBody start (place.advance c) false (']' :: acc) cs
    else if c = '\n' then .error (.parse .newlineInRegex start)
    else regexBody start (place.advance c) inBracket (c :: acc) cs

/-- The token a word stands for. -/
def wordKind (word : String) (next : Option Char) : Token.Kind :=
  match Keyword.ofText? word, Builtin.ofName? word with
  | some k, _ => .keyword k
  | none, some b => .builtin b
  | none, none => if next = some '(' then .funcName word else .identifier word

/-- Whether a number starts here: with a digit, or with a point and a digit. -/
def startsNumber : List Char → Bool
  | '.' :: c :: _ => Number.isDigit c
  | c :: _ => Number.isDigit c
  | [] => false

/-- The number at the start of a text. -/
def scanNumber (place : Location) (cs : List Char) :
    Except Error (Token.Kind × List Char × Location) :=
  let text := cs.take (Number.Numeral.prefixLength cs)
  match Number.read? text with
  | some x => .ok (.number x, cs.drop text.length, place.advanceBy text)
  | none => .error (.parse (.invalidNumber (String.ofList text)) place)

/-- The kind of the token at the start of a text that is not blank, and what
follows it. -/
def scanKind (afterOperand : Bool) (place : Location) (cs : List Char) :
    Except Error (Token.Kind × List Char × Location) :=
  match cs with
  | [] => .ok (.eof, [], place)
  | c :: rest =>
    if c = '\n' then .ok (.newline, rest, place.advance c)
    else if c = '"' then
      match stringBody place (place.advance c) [] rest with
      | .error e => .error e
      | .ok p => .ok (.string (String.ofList (Text.unescapeChars p.text)), p.rest, p.place)
    else if c = '/' then
      if afterOperand then
        match rest with
        | '=' :: rest' => .ok (.mark .slashAssign, rest', place.advanceBy ['/', '='])
        | _ => .ok (.mark .slash, rest, place.advance c)
      else
        match regexBody place (place.advance c) false [] rest with
        | .error e => .error e
        | .ok p => .ok (.regex (String.ofList p.text), p.rest, p.place)
    else if startsNumber cs then scanNumber place cs
    else if Text.isAsciiLetter c ∨ c = '_' then
      let word := cs.takeWhile Text.isNameChar
      let rest' := cs.dropWhile Text.isNameChar
      .ok (wordKind (String.ofList word) rest'.head?, rest', place.advanceBy word)
    else
      match Mark.longest? cs with
      | some (s, m) => .ok (.mark m, cs.drop s.length, place.advanceBy s.toList)
      | none =>
        .error (.parse (if c = '&' then .loneAmpersand else .unexpectedChar c) place)

/-- The next token, the end of the text included. -/
def nextToken (s : Scanner) : Except Error (Token × Scanner) :=
  let (cs, place) := skipBlanks s.place s.rest
  match scanKind s.afterOperand place cs with
  | .error e => .error e
  | .ok (kind, rest, place') =>
    .ok ({ kind, place }, { rest, place := place', afterOperand := kind.endsOperand })

/-- Whether a newline after the token `previous` is dropped. -/
def absorbed (previous : Option Token) (t : Token) : Bool :=
  t.kind.isNewline &&
    match previous with
    | some p => p.kind.absorbsNewline
    | none => false

/-- All tokens up to the end of the text.  Every token but the last takes a
character, so as much fuel as there are characters, and one more, is enough. -/
def tokensFrom : Nat → Option Token → Scanner → Except Error (List Token)
  | 0, _, _ => .ok []
  | fuel + 1, previous, s =>
    match s.nextToken with
    | .error e => .error e
    | .ok (t, s') =>
      if t.kind.isEof then .ok [t]
      else if absorbed previous t then tokensFrom fuel previous s'
      else
        match tokensFrom fuel (some t) s' with
        | .error e => .error e
        | .ok ts => .ok (t :: ts)

end Scanner

/-- The tokens of a program text, the last of which marks its end.  Newlines that
have no meaning are dropped. -/
def tokenize (source : String) : Except Error (List Token) :=
  Scanner.tokensFrom (source.toList.length + 1) none (.ofText source)

end Awk
