import Awk.Text.Derived

/-!
# Named classes of characters

Classes of letters after a backslash, and classes named between `[:` and `:]`.
-/

namespace Awk
namespace Regex
namespace Class

open Text (CharSet)

def digits : CharSet := .range '0' '9'

def lower : CharSet := .range 'a' 'z'

def upper : CharSet := .range 'A' 'Z'

/-- Tab to carriage return, and the blank. -/
def space : CharSet := ⟨#[(0x9, 0xd), (0x20, 0x20)]⟩

def letters : CharSet := upper.union lower

def alphanumeric : CharSet := digits.union letters

/-- ASCII letters, digits and the underscore. -/
def word : CharSet := alphanumeric.union (.single '_')

/-- The class of `d`, `s` or `w` after a backslash. -/
def ofLetter? (unicode : Bool) : Char → Option CharSet
  | 'd' => some (if unicode then Text.Property.decimalDigit else digits)
  | 's' => some (if unicode then Text.Property.whiteSpace else space)
  | 'w' => some (if unicode then Text.Property.word else word)
  | _ => none

/-- The ASCII class of a name. -/
def ofName? : String → Option CharSet
  | "alnum" => some alphanumeric
  | "alpha" => some letters
  | "ascii" => some ⟨#[(0, 0x7f)]⟩
  | "blank" => some ⟨#[(0x9, 0x9), (0x20, 0x20)]⟩
  | "cntrl" => some ⟨#[(0, 0x1f), (0x7f, 0x7f)]⟩
  | "digit" => some digits
  | "graph" => some (.range '!' '~')
  | "lower" => some lower
  | "print" => some (.range ' ' '~')
  | "punct" => some ⟨#[(0x21, 0x2f), (0x3a, 0x40), (0x5b, 0x60), (0x7b, 0x7e)]⟩
  | "space" => some space
  | "upper" => some upper
  | "word" => some word
  | "xdigit" => some ⟨#[(0x30, 0x39), (0x41, 0x46), (0x61, 0x66)]⟩
  | _ => none

end Class
end Regex
end Awk
