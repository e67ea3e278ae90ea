import Awk.Builtin
import Awk.Location
import Awk.Number.Shortest
import Awk.Text.Quoted

/-!
# Errors

An error is a cause and, where one is known, a place.  The wording of every cause
is in this module.
-/

namespace Awk

/-- Why a program text is not a program. -/
inductive ParseFault where
  | loneAmpersand
  | unexpectedChar (c : Char)
  | newlineInString
  | unterminatedString
  | newlineInRegex
  | unterminatedRegex
  | invalidNumber (text : String)
  | expected (what found : String)
  | assignmentToValue
  | stepOfValue (mark : String)
  | builtinWithoutArguments (b : Builtin)
  | subscriptListWithoutIn
  | functionDefinedTwice (name : String)
  | builtinRedefined (b : Builtin)
  | invalidParameter (param function : String)
  | actionRequired (keyword : String)
  | unclosedBlock
  | printfWithoutFormat
  | redirection (mark : String)
deriving DecidableEq, Repr

namespace ParseFault

def message : ParseFault → String
  | loneAmpersand => "unexpected '&', did you mean '&&'?"
  | unexpectedChar c => "unexpected character '" ++ c.toString ++ "'"
  | newlineInString => "unterminated string (newline in string)"
  | unterminatedString => "unterminated string"
  | newlineInRegex => "unterminated regex (newline in regex)"
  | unterminatedRegex => "unterminated regex"
  | invalidNumber text => "invalid number '" ++ text ++ "'"
  | expected what found => "expected " ++ what ++ ", found " ++ found
  | assignmentToValue => "assignment to a non-lvalue"
  | stepOfValue mark => "'" ++ mark ++ "' applied to a non-lvalue"
  | builtinWithoutArguments b => "built-in function '" ++ b.name ++ "' requires arguments"
  | subscriptListWithoutIn => "expected 'in' after parenthesized subscript list"
  | functionDefinedTwice name => "function '" ++ name ++ "' is already defined"
  | builtinRedefined b => "cannot redefine built-in function '" ++ b.name ++ "'"
  | invalidParameter param function =>
    "invalid parameter '" ++ param ++ "' in function '" ++ function ++ "'"
  | actionRequired keyword => keyword ++ " requires an action block"
  | unclosedBlock => "missing '\x7d' at end of block"
  | printfWithoutFormat => "printf requires a format argument"
  | redirection mark => "output redirection '" ++ mark ++ "' is not supported"

end ParseFault

/-- Why a regular expression cannot be used. -/
inductive RegexFault where
  | malformed
  | tooLarge
deriving DecidableEq, Repr

namespace RegexFault

def message : RegexFault → String
  | malformed => "regex parse error:"
  | tooLarge => "Compiled regex exceeds size limit of 10485760 bytes."

end RegexFault

/-- The greatest field number and number of fields. -/
def maxFields : Nat := 1000000

/-- The deepest nesting of calls of a program's own functions. -/
def maxCallDepth : Nat := 512

/-- Why a running program cannot go on. -/
inductive Fault where
  | divisionByZero
  | remainderByZero
  | arrayAsScalar (name : String)
  | scalarAsArray (name : String)
  | fieldCountNegative (n : Double)
  | fieldCountAboveLimit (n : Double)
  | fieldIndexInvalid (n : Double)
  | fieldIndexAboveLimit (n : Double)
  | fieldSeparator (fs : String) (cause : RegexFault)
  | recordSeparator (rs : String) (cause : RegexFault)
  | tooManyArguments (function : String) (given declared : Nat)
  | callDepthExceeded (function : String)
  | wrongArity (b : Builtin) (given : Nat)
  | argumentNotArray (b : Builtin)
  | targetNotAssignable (b : Builtin)
  | notAssignable
  | invalidName (name : String)
  | invalidAssignment (text : String)
deriving Repr

namespace Fault

def message : Fault → String
  | divisionByZero => "division by zero"
  | remainderByZero => "division by zero in %"
  | arrayAsScalar name => "attempt to use array `" ++ name ++ "` in a scalar context"
  | scalarAsArray name => "attempt to use scalar `" ++ name ++ "` as an array"
  | fieldCountNegative n => "NF set to negative value " ++ Number.plain n
  | fieldCountAboveLimit n =>
    "NF set to " ++ Number.plain n ++ ", above the limit of " ++ toString maxFields
  | fieldIndexInvalid n => "attempt to access field " ++ Number.plain n
  | fieldIndexAboveLimit n =>
    "field index " ++ Number.plain n ++ " exceeds the limit of " ++ toString maxFields
  | fieldSeparator fs cause =>
    "invalid field separator " ++ Text.quoted fs ++ ": " ++ cause.message
  | recordSeparator rs cause =>
    "invalid record separator " ++ Text.quoted rs ++ ": " ++ cause.message
  | tooManyArguments function given declared =>
    "function `" ++ function ++ "` called with " ++ toString given ++ " arguments but declares "
      ++ toString declared ++ " parameters"
  | callDepthExceeded function =>
    "call depth limit of " ++ toString maxCallDepth ++ " exceeded in `" ++ function ++ "`"
  | wrongArity b given =>
    b.name ++ ": expected " ++ b.arity.text ++ " arguments, got " ++ toString given
  | argumentNotArray b => b.name ++ ": argument is not an array"
  | targetNotAssignable b =>
    b.name ++ ": third argument must be a variable, array element or field"
  | notAssignable => "assignment target is not a variable, array element or field"
  | invalidName name => "invalid variable name `" ++ name ++ "`"
  | invalidAssignment text => "invalid assignment `" ++ text ++ "`"

end Fault

inductive ErrorKind where
  | parse | name | runtime | io
deriving DecidableEq, Repr

inductive Error where
  | parse (fault : ParseFault) (place : Location)
  | undefinedFunction (name : String) (place : Location)
  | runtime (fault : Fault) (place : Option Location)
  | io (text : String)
  | regex (fault : RegexFault)
deriving Repr

namespace Error

/-- A failure to open or read a file that is known by name. -/
def ioAt (path text : String) : Error := .io (path ++ ": " ++ text)

def noSuchFile : String := "No such file or directory (os error 2)"

def isDirectory : String := "Is a directory (os error 21)"

def notText : String := "stream did not contain valid UTF-8"

def message : Error → String
  | parse fault place => "syntax error at " ++ place.text ++ ": " ++ fault.message
  | undefinedFunction name place =>
    "name error at " ++ place.text ++ ": function `" ++ name ++ "` is not defined"
  | runtime fault none => "runtime error: " ++ fault.message
  | runtime fault (some place) =>
    "runtime error at " ++ place.text ++ ": " ++ fault.message
  | io text => "I/O error: " ++ text
  | regex fault => "regex error: " ++ fault.message

def kind : Error → ErrorKind
  | parse .. => .parse
  | undefinedFunction .. => .name
  | runtime .. | regex _ => .runtime
  | io _ => .io

def place? : Error → Option Location
  | parse _ place | undefinedFunction _ place => some place
  | runtime _ place => place
  | io _ | regex _ => none

/-- Gives a place to a run-time error that has none yet.  A place once given
stays. -/
def orAt (e : Error) (place : Location) : Error :=
  match e with
  | runtime fault none => runtime fault (some place)
  | e => e

theorem place?_orAt_of_isSome {e : Error} (h : e.place?.isSome) (place : Location) :
    e.orAt place = e := by
  cases e with
  | runtime fault at? => cases at? <;> simp_all [orAt, place?]
  | _ => rfl

end Error
end Awk
