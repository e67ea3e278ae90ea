import Awk.Machine
import Awk.Text.Escape

/-!
# Input

Records come from the inputs in order, each opened when the one before it has ended,
and from files that a program reads by name.
-/

namespace Awk

namespace Assignment

/-- Name and value of a text `name=value`, divided at the first equals sign. -/
def divide? (text : String) : Option (String × String) :=
  match text.toList.span (· != '=') with
  | (name, _ :: value) => some (String.ofList name, String.ofList value)
  | (_, []) => none

/-- An operand is an assignment if a valid name stands before an equals sign. -/
def isOperand (text : String) : Bool :=
  match divide? text with
  | some (name, _) => isValidName name
  | none => false

end Assignment

namespace Scope

/-- Assigns a variable from outside the program. -/
def preset (name value : String) : Op Unit :=
  if isValidName name then setVar name (.infer value) else throw (.invalidName name)

/-- Performs an assignment `name=value`.  The value may hold escapes. -/
def assign (text : String) : Op Unit :=
  match Assignment.divide? text with
  | some (name, value) => preset name (Text.unescape value)
  | none => throw (.invalidAssignment text)

end Scope

namespace Eval

def openFile (name : String) : Eval ByteStream := do
  match (← get).world.file? name with
  | none => throw (.needs (.file name))
  | some entry =>
    match entry.stream with
    | .ok stream => return stream
    | .error why => raise (.ioAt name why)

/-- Goes on to another input, or performs an assignment. -/
def openSource (source : Source) : Eval Unit := do
  let start (name : String) (stream : ByteStream) : Eval Unit :=
    modify (Machine.openInput name false (.ofStream stream))
  match source with
  | .stream name stream => start name stream
  | .operand text =>
    if Assignment.isOperand text then onScope (Scope.assign text)
    else if text = "-" then modify (Machine.openInput text true .empty)
    else start text (← openFile text)

/-- The next record of a reader, which may draw on standard input, and the reader behind it. -/
def readRecord (onInput : Bool) (reader : Reader) :
    Eval (Except String (Option String) × Reader) := fun m =>
  if onInput then
    match m.world.input with
    | none => .error (.needs .input) m
    | some blocks =>
      let (record, reader, blocks) := reader.readShared m.scope.separator blocks
      .ok (record, reader) { m with world := { m.world with input := some blocks } }
  else .ok (reader.read m.scope.separator) m

/-- The next record of the current input.  An input that has ended is left. -/
def readCurrent : Eval (Option String) := fun m =>
  match m.current with
  | none => .ok none m
  | some reader =>
    match readRecord m.onInput reader m with
    | .error stop m => .error stop m
    | .ok (.ok (some record), reader) m => .ok (some record) (m.deliver reader)
    | .ok (.ok none, _) m => .ok none { m with current := none }
    | .ok (.error why, reader) m => .error (.failed (.io why)) { m with current := some reader }

/-- The first record of the inputs still to come. -/
def readSources : List Source → Eval (Option String)
  | [] => return none
  | source :: rest => do
    modify fun m => { m with sources := rest }
    openSource source
    match ← readCurrent with
    | some record => return some record
    | none => readSources rest

/-- The next record of the main input. -/
def nextRecord : Eval (Option String) := do
  match ← readCurrent with
  | some record => return some record
  | none => readSources (← get).sources

/-- Takes the program down on a record that cannot be counted, which counts as not given. -/
def overflow : Eval Unit := do
  modify Machine.withdraw
  throw (.crashed .overflow)

def countRecord : Eval Unit := do
  if (← scope).hasRoom then modifyScope Scope.countOne else overflow

/-- Names under which files are read that mean standard input. -/
def isInputName (name : String) : Bool := name = "-" || name = "/dev/stdin"

def readerOf (name : String) : Eval Reader := do
  match (← get).opened[name]? with
  | some reader => return reader
  | none => if isInputName name then return .empty else return .ofStream (← openFile name)

/-- The next record of a file that is read by name, from its reader, which is kept. -/
def readOn (name : String) (reader : Reader) : Eval (Except Unit (Option String)) := do
  let (record, reader) ← readRecord (isInputName name) reader
  modify fun m => { m with opened := m.opened.insert name reader }
  return record.mapError fun _ => ()

/-- The next record of a file that is read by name, opened on first use.  Nothing
tells why one cannot be read. -/
def readFile (name : String) : Eval (Except Unit (Option String)) := fun m =>
  match readerOf name m with
  | .error (.failed _) m => .ok (.error ()) m
  | .error stop m => .error stop m
  | .ok reader m => readOn name reader m

end Eval
end Awk
