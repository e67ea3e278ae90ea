import Awk.Builtin
import Awk.Location
import Awk.Number.Double

/-!
# Programs

The tree of a program.  Every node that can fail when it runs carries the place it
was read from.
-/

namespace Awk

inductive Arith where
  | add | sub | mul | div | mod | pow
deriving DecidableEq, Repr

inductive Relation where
  | lt | le | gt | ge | eq | ne
deriving DecidableEq, Repr

inductive Logic where
  | and | or
deriving DecidableEq, Repr

inductive UnaryOp where
  | neg | pos | not
deriving DecidableEq, Repr

/-- The four ways to step a variable by one. -/
inductive Step where
  | preIncrement | preDecrement | postIncrement | postDecrement
deriving DecidableEq, Repr

inductive Expr where
  | number (x : Double) (place : Location)
  | string (s : String) (place : Location)
  /-- A regular expression; as a value, whether it matches the record. -/
  | regex (pattern : String) (place : Location)
  | var (name : String) (place : Location)
  | field (index : Expr) (place : Location)
  | element (array : String) (indices : List Expr) (place : Location)
  | arith (op : Arith) (left right : Expr) (place : Location)
  | relation (op : Relation) (left right : Expr) (place : Location)
  | logic (op : Logic) (left right : Expr) (place : Location)
  | concat (left right : Expr) (place : Location)
  | unary (op : UnaryOp) (operand : Expr) (place : Location)
  /-- Plain assignment, or one that combines with the old value. -/
  | assign (op : Option Arith) (target value : Expr) (place : Location)
  | step (how : Step) (target : Expr) (place : Location)
  | cond (test ifTrue ifFalse : Expr) (place : Location)
  /-- A function of the program, or else of the host. -/
  | call (name : String) (args : List Expr) (place : Location)
  | builtin (b : Builtin) (args : List Expr) (place : Location)
  | contains (key : List Expr) (array : String) (place : Location)
  | matching (subject pattern : Expr) (negated : Bool) (place : Location)
  | getline (target file : Option Expr) (place : Location)
  | group (inner : Expr) (place : Location)

instance : Inhabited Expr := ⟨.number 0.0 .start⟩

namespace Expr

def place : Expr → Location
  | number _ l | string _ l | regex _ l | var _ l | field _ l | element _ _ l => l
  | arith _ _ _ l | relation _ _ _ l | logic _ _ _ l | concat _ _ l | unary _ _ l => l
  | assign _ _ _ l | step _ _ l | cond _ _ _ l | call _ _ l | builtin _ _ l => l
  | contains _ _ l | matching _ _ _ l | getline _ _ l | group _ l => l

/-- Variables, array elements and fields can be assigned, also in parentheses. -/
def isAssignable : Expr → Bool
  | var .. | element .. | field .. => true
  | group inner _ => inner.isAssignable
  | _ => false

end Expr

inductive Stmt where
  | expr (e : Expr)
  /-- Without arguments prints the record. -/
  | print (args : List Expr) (place : Location)
  | printf (format : Expr) (args : List Expr) (place : Location)
  | ifElse (test : Expr) (ifTrue : Stmt) (ifFalse : Option Stmt) (place : Location)
  | whileLoop (test : Expr) (body : Stmt) (place : Location)
  | doWhile (body : Stmt) (test : Expr) (place : Location)
  | forLoop (init test update : Option Expr) (body : Stmt) (place : Location)
  | forIn (var array : String) (body : Stmt) (place : Location)
  | block (body : List Stmt) (place : Location)
  | breakLoop (place : Location)
  | continueLoop (place : Location)
  | next (place : Location)
  | nextFile (place : Location)
  | exit (code : Option Expr) (place : Location)
  | returnValue (value : Option Expr) (place : Location)
  /-- Without subscripts empties the array. -/
  | delete (array : String) (index : List Expr) (place : Location)
  | empty

instance : Inhabited Stmt := ⟨.empty⟩

structure Block where
  body : List Stmt
  place : Location

/-- What is asked of a record. -/
inductive Test where
  | expr (e : Expr)
  | regex (pattern : String)

inductive Pattern where
  | begin_
  | end_
  | test (t : Test)
  /-- On from a record that passes the first test through the next one that passes
  the second. -/
  | range (first last : Test)

/-- Without an action a rule prints the record. -/
structure Rule where
  pattern : Option Pattern
  action : Option Block
  place : Location

structure Function where
  name : String
  params : List String
  /-- For each parameter, whether it stands for an array. -/
  arrayParams : List Bool
  body : Block
  place : Location

namespace Function

def isArrayParam (f : Function) (i : Nat) : Bool := (f.arrayParams[i]?).getD false

end Function

structure Program where
  rules : List Rule
  functions : List Function

namespace Program

def function? (p : Program) (name : String) : Option Function :=
  p.functions.find? (·.name == name)

/-- A program of `BEGIN` rules alone reads no input. -/
def onlyBegin (p : Program) : Bool :=
  p.rules.all fun r =>
    match r.pattern with
    | some .begin_ => true
    | _ => false

end Program
end Awk
