/-!
# Lossy reading of UTF-8

`decode` reads bytes as characters.  A maximal piece of an ill-formed sequence,
and every byte that can start none, becomes one replacement character.
-/

namespace Awk
namespace Text
namespace Utf8

def replacement : Char := Char.ofNat 0xfffd

def isContinuation (b : UInt8) : Bool := 0x80 ≤ b && b ≤ 0xbf

/-- Whether `b` may follow the lead byte of a sequence of three.  The bounds keep
out overlong forms and surrogates. -/
def isSecondOfThree (lead b : UInt8) : Bool :=
  if lead = 0xe0 then 0xa0 ≤ b && b ≤ 0xbf
  else if lead = 0xed then 0x80 ≤ b && b ≤ 0x9f
  else isContinuation b

/-- Whether `b` may follow the lead byte of a sequence of four.  The bounds keep
out overlong forms and code points past the last. -/
def isSecondOfFour (lead b : UInt8) : Bool :=
  if lead = 0xf0 then 0x90 ≤ b && b ≤ 0xbf
  else if lead = 0xf4 then 0x80 ≤ b && b ≤ 0x8f
  else isContinuation b

/-- The low six bits of a continuation byte. -/
def payload (b : UInt8) : Nat := b.toNat % 64

def decode : List UInt8 → List Char
  | [] => []
  | b :: rest =>
    if b < 0x80 then Char.ofNat b.toNat :: decode rest
    else if 0xc2 ≤ b && b ≤ 0xdf then
      match rest with
      | b₁ :: rest₁ =>
        if isContinuation b₁ then
          Char.ofNat (b.toNat % 32 * 64 + payload b₁) :: decode rest₁
        else replacement :: decode (b₁ :: rest₁)
      | [] => [replacement]
    else if 0xe0 ≤ b && b ≤ 0xef then
      match rest with
      | b₁ :: rest₁ =>
        if isSecondOfThree b b₁ then
          match rest₁ with
          | b₂ :: rest₂ =>
            if isContinuation b₂ then
              Char.ofNat (b.toNat % 16 * 4096 + payload b₁ * 64 + payload b₂) :: decode rest₂
            else replacement :: decode (b₂ :: rest₂)
          | [] => [replacement]
        else replacement :: decode (b₁ :: rest₁)
      | [] => [replacement]
    else if 0xf0 ≤ b && b ≤ 0xf4 then
      match rest with
      | b₁ :: rest₁ =>
        if isSecondOfFour b b₁ then
          match rest₁ with
          | b₂ :: rest₂ =>
            if isContinuation b₂ then
              match rest₂ with
              | b₃ :: rest₃ =>
                if isContinuation b₃ then
                  Char.ofNat (b.toNat % 8 * 262144 + payload b₁ * 4096 + payload b₂ * 64
                    + payload b₃) :: decode rest₃
                else replacement :: decode (b₃ :: rest₃)
              | [] => [replacement]
            else replacement :: decode (b₂ :: rest₂)
          | [] => [replacement]
        else replacement :: decode (b₁ :: rest₁)
      | [] => [replacement]
    else replacement :: decode rest

end Utf8
end Text
end Awk
