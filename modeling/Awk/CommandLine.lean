import Awk.Grammar
import Awk.Host.Simulated
import Awk.Session

/-!
# The command line
-/

namespace Awk
namespace CommandLine

def versionText : String := "awk-ai 0.1.0\n"

def helpText : String :=
  "Usage: awk-ai [OPTIONS] 'program' [file ...]\n" ++
  "       awk-ai [OPTIONS] -f progfile [file ...]\n" ++
  "\n" ++
  "An AWK-style interpreter with built-in ai_* text functions.\n" ++
  "\n" ++
  "Options:\n" ++
  "  -F fs          Set the field separator to fs (t means tab)\n" ++
  "  -v var=val     Assign value to variable before execution\n" ++
  "  -f progfile    Read the program from file\n" ++
  "  --version      Print version information\n" ++
  "  --help         Print this help message\n" ++
  "\n" ++
  "Operands of the form var=val are assignments made when reached.\n" ++
  "Set AWK_AI_LOG (e.g. AWK_AI_LOG=debug) to control diagnostics on stderr.\n" ++
  "\n" ++
  "Examples:\n" ++
  "  awk-ai '\x7b print $1 \x7d' file.txt\n" ++
  "  awk-ai -F: '\x7b print $1 \x7d' /etc/passwd\n" ++
  "  awk-ai '\x7b print ai_sentiment($0) \x7d' reviews.txt\n" ++
  "\n"

/-- What a command line asks for. -/
structure Invocation where
  fieldSeparator : Option String
  assignments : List String
  source : Option String
  operands : List String
deriving Repr

inductive Request where
  | help
  | version
  | run (i : Invocation)
deriving Repr

/-- Why a command line cannot be followed. -/
inductive Trouble where
  | argumentMissing (option : String)
  | unknownOption (option : String)
  | programMissing
  | unreadableProgram (path why : String)
  | needs (n : Need)
deriving Repr

namespace Trouble

def message : Trouble → String
  | argumentMissing option => "option " ++ option ++ " requires an argument"
  | unknownOption option => "unknown option: " ++ option
  | programMissing => "no program provided"
  | unreadableProgram path why => path ++ ": " ++ why
  | needs _ => ""

end Trouble

/-- The text of a program that is kept in a file. -/
def readProgram (w : World) (path : String) : Except Trouble String :=
  match w.file? path with
  | none => .error (.needs (.file path))
  | some (.unavailable why) => .error (.unreadableProgram path why)
  | some .directory => .error (.unreadableProgram path Error.isDirectory)
  | some (.contents bytes) =>
    match String.fromUTF8? (ByteArray.mk bytes.toArray) with
    | some text => .ok text
    | none => .error (.unreadableProgram path Error.notText)

/-- What stands behind an option in the same argument. -/
def attached? (option arg : String) : Option String :=
  if option.isPrefixOf arg then some (String.ofList (arg.toList.drop option.length)) else none

/-- Reads arguments from the left.  The first that is not an option is the program,
unless a file holds it. -/
def readArguments (w : World) (i : Invocation) : List String → Except Trouble Request
  | [] => .ok (.run i)
  | arg :: rest =>
    if arg = "--help" || arg = "-h" then .ok .help
    else if arg = "--version" then .ok .version
    else if arg = "-F" then
      match rest with
      | [] => .error (.argumentMissing arg)
      | fs :: rest => readArguments w { i with fieldSeparator := some fs } rest
    else if let some fs := attached? "-F" arg then
      readArguments w { i with fieldSeparator := some fs } rest
    else if arg = "-v" then
      match rest with
      | [] => .error (.argumentMissing arg)
      | text :: rest => readArguments w { i with assignments := i.assignments ++ [text] } rest
    else if let some text := attached? "-v" arg then
      readArguments w { i with assignments := i.assignments ++ [text] } rest
    else if arg = "-f" then
      match rest with
      | [] => .error (.argumentMissing arg)
      | path :: rest =>
        match readProgram w path with
        | .error trouble => .error trouble
        | .ok source => readArguments w { i with source := some source } rest
    else if arg = "--" then
      match i.source with
      | some _ => .ok (.run { i with operands := i.operands ++ rest })
      | none =>
        .ok (.run { i with source := rest.head?, operands := i.operands ++ rest.tail })
    else if "-".isPrefixOf arg && arg ≠ "-" then .error (.unknownOption arg)
    else
      match i.source with
      | none => readArguments w { i with source := some arg } rest
      | some _ => readArguments w { i with operands := i.operands ++ [arg] } rest

def request (w : World) (args : List String) : Except Trouble Request :=
  readArguments w { fieldSeparator := none, assignments := [], source := none, operands := [] } args

/-- What a command has written, and its status as the system reports it. -/
structure Outcome where
  status : Nat
  output : String
  errors : String
deriving Repr

namespace Outcome

def success (output : String) : Outcome := { status := 0, output, errors := "" }

def failure (output message : String) : Outcome :=
  { status := 2, output, errors := "awk-ai: " ++ message ++ "\n" }

/-- A status has eight bits. -/
def exited (code : Int) (output : String) : Outcome :=
  { status := (code % 256).toNat, output, errors := "" }

end Outcome

/-- The letter `t` stands for a tab, and other separators may hold escapes. -/
def separatorText (fs : String) : String := if fs = "t" then "\t" else Text.unescape fs

def settings (i : Invocation) : List Setting :=
  [.host .simulated] ++ (i.fieldSeparator.map fun fs => .fieldSeparator (separatorText fs)).toList
    ++ [.args ("awk-ai" :: i.operands)] ++ i.assignments.map .assign

def runInvocation (w : World) (i : Invocation) : Except Stop Outcome :=
  match i.source with
  | none => .ok (.failure "" Trouble.programMissing.message)
  | some source =>
    match parseProgram source with
    | .error e => .ok (.failure "" e.message)
    | .ok p =>
      let action : Eval Int := do
        Setting.applyAll (settings i)
        Session.run p (Session.operandSources i.operands) .unlimited
      match action (Session.start p w) with
      | .ok code m => .ok (.exited code m.sink.text)
      | .error (.failed e) m => .ok (.failure m.sink.text e.message)
      | .error stop _ => .error stop

/-- Follows a command line.  A part of the world that is not known yet stops it. -/
def run (w : World) (args : List String) : Except Stop Outcome :=
  match request w args with
  | .ok .help => .ok (.success helpText)
  | .ok .version => .ok (.success versionText)
  | .ok (.run i) => runInvocation w i
  | .error (.needs n) => .error (.needs n)
  | .error trouble => .ok (.failure "" trouble.message)

end CommandLine
end Awk
