import Awk.Text.Case

/-!
# Flags of patterns

Flags change how the rest of a group is read.
-/

namespace Awk
namespace Regex

open Text (CharSet)

structure Flags where
  caseless : Bool
  multiLine : Bool
  dotAll : Bool
  swapGreed : Bool
  unicode : Bool
  crlf : Bool
  /-- Blanks and comments in the pattern are skipped. -/
  verbose : Bool
deriving DecidableEq, Repr

namespace Flags

def initial (caseless : Bool) : Flags :=
  { caseless, multiLine := false, dotAll := false, swapGreed := false, unicode := true
    crlf := false, verbose := false }

def set? (f : Flags) (letter : Char) (on : Bool) : Option Flags :=
  match letter with
  | 'i' => some { f with caseless := on }
  | 'm' => some { f with multiLine := on }
  | 's' => some { f with dotAll := on }
  | 'U' => some { f with swapGreed := on }
  | 'u' => some { f with unicode := on }
  | 'R' => some { f with crlf := on }
  | 'x' => some { f with verbose := on }
  | _ => none

/-- All that matches a member of a set under the flags. -/
def fold (f : Flags) (s : CharSet) : CharSet :=
  if f.caseless then if f.unicode then s.caseless else s.asciiCaseless else s

/-- A finished class.  Case is ignored before the class is negated.  Without Unicode a
class must not reach beyond ASCII, where it would take part of a character. -/
def finish? (f : Flags) (negated : Bool) (s : CharSet) : Option CharSet :=
  let s := f.fold s
  let s := if negated then s.compl else s
  if f.unicode || s.isAscii then some s else none

/-- Skips white space and comments of a verbose pattern. -/
def skipFrom : Bool → List Char → List Char
  | _, [] => []
  | true, c :: cs => skipFrom (c ≠ '\n') cs
  | false, c :: cs =>
    if Text.isWhiteSpace c then skipFrom false cs
    else if c = '#' then skipFrom true cs
    else c :: cs

/-- Skips what a pattern may hold between its signs. -/
def skip (f : Flags) (cs : List Char) : List Char := if f.verbose then skipFrom false cs else cs

/-- The character behind a hyphen in a class, which decides whether it stands for a
range.  In a verbose pattern white space is passed over and the mark of one comment,
but not the text of the comment. -/
def peek? (f : Flags) (cs : List Char) : Option Char :=
  if f.verbose then
    let rest := match cs.dropWhile Text.isWhiteSpace with
      | '#' :: rest => rest.dropWhile Text.isWhiteSpace
      | rest => rest
    rest.head? <|> cs.head?
  else cs.head?

end Flags
end Regex
end Awk
