namespace Awk

/-- The functions every program can call. -/
inductive Builtin where
  | length | substr | index | split | sub | gsub | matchFirst | sprintf
  | toLower | toUpper
  | sin | cos | atan2 | exp | log | sqrt | int
  | rand | srand
  | asort | asorti
  | fflush | close
deriving DecidableEq, Repr

namespace Builtin

def all : List Builtin :=
  [length, substr, index, split, sub, gsub, matchFirst, sprintf, toLower, toUpper, sin, cos,
    atan2, exp, log, sqrt, int, rand, srand, asort, asorti, fflush, close]

def name : Builtin → String
  | length => "length"
  | substr => "substr"
  | index => "index"
  | split => "split"
  | sub => "sub"
  | gsub => "gsub"
  | matchFirst => "match"
  | sprintf => "sprintf"
  | toLower => "tolower"
  | toUpper => "toupper"
  | sin => "sin"
  | cos => "cos"
  | atan2 => "atan2"
  | exp => "exp"
  | log => "log"
  | sqrt => "sqrt"
  | int => "int"
  | rand => "rand"
  | srand => "srand"
  | asort => "asort"
  | asorti => "asorti"
  | fflush => "fflush"
  | close => "close"

def ofName? (s : String) : Option Builtin := all.find? (·.name == s)

theorem mem_all (b : Builtin) : b ∈ all := by cases b <;> decide

/-- Least and greatest number of arguments, the latter absent where any number
will do. -/
structure Arity where
  least : Nat
  most : Option Nat
deriving DecidableEq, Repr

def arity : Builtin → Arity
  | length => ⟨0, some 1⟩
  | substr => ⟨2, some 3⟩
  | index => ⟨2, some 2⟩
  | split => ⟨2, some 3⟩
  | sub => ⟨2, some 3⟩
  | gsub => ⟨2, some 3⟩
  | matchFirst => ⟨2, some 2⟩
  | sprintf => ⟨1, none⟩
  | toLower => ⟨1, some 1⟩
  | toUpper => ⟨1, some 1⟩
  | sin => ⟨1, some 1⟩
  | cos => ⟨1, some 1⟩
  | atan2 => ⟨2, some 2⟩
  | exp => ⟨1, some 1⟩
  | log => ⟨1, some 1⟩
  | sqrt => ⟨1, some 1⟩
  | int => ⟨1, some 1⟩
  | rand => ⟨0, some 0⟩
  | srand => ⟨0, some 1⟩
  | asort => ⟨1, some 1⟩
  | asorti => ⟨1, some 1⟩
  | fflush => ⟨0, some 1⟩
  | close => ⟨1, some 1⟩

namespace Arity

def accepts (a : Arity) (n : Nat) : Bool :=
  a.least ≤ n &&
    match a.most with
    | some m => n ≤ m
    | none => true

/-- The number of arguments as messages write it. -/
def text (a : Arity) : String :=
  match a.most with
  | none => "at least " ++ toString a.least
  | some m =>
    if a.least = m then toString m else toString a.least ++ " to " ++ toString m

end Arity

/-- The position of the argument that names an array, for the functions that
fill one. -/
def arrayPosition? : Builtin → Option Nat
  | split => some 1
  | asort | asorti => some 0
  | _ => none

end Builtin
end Awk
