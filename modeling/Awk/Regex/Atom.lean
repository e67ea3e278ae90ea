import Awk.Regex.Class
import Awk.Regex.Flags
import Awk.Regex.Look
import Awk.Regex.Property

/-!
# Single characters and escapes

What one character of a pattern, or a backslash and what follows it, stands for.
-/

namespace Awk
namespace Regex

open Text (CharSet)

def isMeta (c : Char) : Bool := "\\.+*?()|[]\x7b\x7d^$#&-~".toList.contains c

/-- Characters that stand for themselves after a backslash. -/
def isEscapable (c : Char) : Bool :=
  isMeta c ||
    (c.toNat < 0x80 && !(Text.isAsciiLetter c || Text.isAsciiDigit c || c == '<' || c == '>'))

def hexValue? (c : Char) : Option Nat :=
  if Text.isAsciiDigit c then some (c.toNat - '0'.toNat)
  else if 'a' ≤ c ∧ c ≤ 'f' then some (c.toNat - 'a'.toNat + 10)
  else if 'A' ≤ c ∧ c ≤ 'F' then some (c.toNat - 'A'.toNat + 10)
  else none

def charOfCode? (n : Nat) : Option Char := if n.isValidChar then some (Char.ofNat n) else none

/-- What a backslash or a single character stands for.  A character given as a byte
in hexadecimal is marked, since without Unicode it is no character above ASCII. -/
inductive Atom where
  | char (c : Char) (byte : Bool)
  | set (s : CharSet)
  | look (l : Look)

namespace Atom

/-- Exactly `n` hexadecimal digits. -/
def takeHexDigits (f : Flags) : Nat → Nat → List Char → Option (Nat × List Char)
  | 0, value, cs => some (value, cs)
  | _ + 1, _, [] => none
  | n + 1, value, c :: cs =>
    match hexValue? c with
    | some d => takeHexDigits f n (16 * value + d) (f.skip cs)
    | none => none

/-- Hexadecimal digits up to a closing brace, at least one. -/
def takeHexBraced (f : Flags) : Nat → Option Nat → List Char → Option (Nat × List Char)
  | 0, _, _ => none
  | _ + 1, _, [] => none
  | fuel + 1, value, c :: cs =>
    if c = '\x7d' then value.map fun v => (v, f.skip cs)
    else
      match hexValue? c with
      | some d => takeHexBraced f fuel (some (16 * value.getD 0 + d)) (f.skip cs)
      | none => none

def takeHex (f : Flags) (digits : Nat) (cs : List Char) : Option (Atom × List Char) :=
  let cs := f.skip cs
  match cs with
  | '\x7b' :: rest => do
    let (n, rest) ← takeHexBraced f (rest.length + 1) none (f.skip rest)
    let c ← charOfCode? n
    return (.char c false, rest)
  | cs => do
    let (n, rest) ← takeHexDigits f digits 0 cs
    let c ← charOfCode? n
    return (.char c (digits == 2), rest)

/-- What stands before a closing brace, without skipped blanks. -/
def takeBraced (f : Flags) : Nat → List Char → List Char → Option (List Char × List Char)
  | 0, _, _ => none
  | _ + 1, _, [] => none
  | fuel + 1, acc, c :: cs =>
    if c = '\x7d' then some (acc.reverse, cs) else takeBraced f fuel (c :: acc) (f.skip cs)

/-- A class by property: one letter, or a name in braces. -/
def takeProperty (f : Flags) (negated : Bool) (cs : List Char) : Option (Atom × List Char) := do
  if !f.unicode then none
  match f.skip cs with
  | [] => none
  | '\x7b' :: rest =>
    let (text, rest) ← takeBraced f (rest.length + 1) [] (f.skip rest)
    let (s, unequal) ← Property.ofText? text
    let s ← f.finish? (negated != unequal) s
    return (.set s, rest)
  | '\\' :: _ => none
  | c :: rest =>
    let s ← Property.named? (Property.plainName [c])
    let s ← f.finish? negated s
    return (.set s, f.skip rest)

/-- A word edge named in braces after `\b`.  Braces that hold no name are left to be
read as a repetition. -/
def takeWordEdge (f : Flags) (cs : List Char) : Option (WordEdge × List Char) :=
  let isNameChar (c : Char) : Bool := Text.isAsciiLetter c || c == '-'
  match cs with
  | '\x7b' :: rest =>
    match f.skip rest with
    | [] => none
    | c :: _ =>
      if isNameChar c then do
        let (name, rest) ← takeBraced f (rest.length + 1) [] (f.skip rest)
        match String.ofList name with
        | "start" => return (.start, rest)
        | "end" => return (.stop, rest)
        | "start-half" => return (.startHalf, rest)
        | "end-half" => return (.stopHalf, rest)
        | _ => none
      else some (.boundary, cs)
  | cs => some (.boundary, cs)

/-- A class by letter; a capital negates it. -/
def takeLetterClass (f : Flags) (c : Char) : Option (Option Atom) :=
  match Class.ofLetter? f.unicode c, Class.ofLetter? f.unicode c.toLower with
  | some s, _ => some (some (.set s))
  | none, some s => if f.unicode then some (some (.set s.compl)) else none
  | none, none => some none

/-- What follows a backslash. -/
def takeEscape (f : Flags) : List Char → Option (Atom × List Char)
  | [] => none
  | c :: cs =>
    if Text.isAsciiDigit c then none
    else if c = 'x' then takeHex f 2 cs
    else if c = 'u' then takeHex f 4 cs
    else if c = 'U' then takeHex f 8 cs
    else if c = 'p' then takeProperty f false cs
    else if c = 'P' then takeProperty f true cs
    else
      match takeLetterClass f c with
      | none => none
      | some (some a) => some (a, cs)
      | some none =>
        if isEscapable c then some (.char c false, cs)
        else
          match c with
          | 'a' => some (.char (Char.ofNat 7) false, cs)
          | 'f' => some (.char (Char.ofNat 12) false, cs)
          | 't' => some (.char '\t' false, cs)
          | 'n' => some (.char '\n' false, cs)
          | 'r' => some (.char '\r' false, cs)
          | 'v' => some (.char (Char.ofNat 11) false, cs)
          | 'A' => some (.look .textStart, cs)
          | 'z' => some (.look .textEnd, cs)
          | 'b' => do
            let (edge, rest) ← takeWordEdge f cs
            return (.look (.word edge f.unicode), rest)
          | 'B' => some (.look (.word .notBoundary f.unicode), cs)
          | '<' => some (.look (.word .start f.unicode), cs)
          | '>' => some (.look (.word .stop f.unicode), cs)
          | _ => none

end Atom
end Regex
end Awk
