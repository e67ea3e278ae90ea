namespace Awk
namespace Text

/-- The character that a backslash and a letter stand for. -/
def escapedChar? : Char → Option Char
  | 'n' => some '\n'
  | 't' => some '\t'
  | 'r' => some '\r'
  | 'b' => some (Char.ofNat 8)
  | 'f' => some (Char.ofNat 12)
  | 'a' => some (Char.ofNat 7)
  | 'v' => some (Char.ofNat 11)
  | '\\' => some '\\'
  | '"' => some '"'
  | '/' => some '/'
  | _ => none

def octalValue? (c : Char) : Option Nat :=
  if '0' ≤ c ∧ c ≤ '7' then some (c.toNat - '0'.toNat) else none

/-- Replaces escapes as a string literal does: the usual letters, one to three
octal digits, and nothing for a backslash before a newline.  Any other pair stays
as it is, backslash included, so that a regular expression still sees it. -/
def unescapeChars : List Char → List Char
  | [] => []
  | c :: cs =>
    if c ≠ '\\' then c :: unescapeChars cs
    else
      match cs with
      | [] => ['\\']
      | e :: rest =>
        if e = '\n' then unescapeChars rest
        else
          match escapedChar? e, octalValue? e with
          | some x, _ => x :: unescapeChars rest
          | none, none => '\\' :: e :: unescapeChars rest
          | none, some d =>
            match rest with
            | [] => [Char.ofNat d]
            | e₁ :: rest₁ =>
              match octalValue? e₁ with
              | none => Char.ofNat d :: unescapeChars (e₁ :: rest₁)
              | some d₁ =>
                match rest₁ with
                | [] => [Char.ofNat (8 * d + d₁)]
                | e₂ :: rest₂ =>
                  match octalValue? e₂ with
                  | none => Char.ofNat (8 * d + d₁) :: unescapeChars (e₂ :: rest₂)
                  | some d₂ => Char.ofNat (64 * d + 8 * d₁ + d₂) :: unescapeChars rest₂

def unescape (s : String) : String := String.ofList (unescapeChars s.toList)

end Text
end Awk
