import Awk.Arena
import Awk.Record
import Awk.Special
import Awk.Value

/-!
# Variables

A scope holds what names stand for: the special variables, the globals, one frame of
locals for each call that has not returned, and the record with its fields.  Only
the innermost frame and the globals are visible.
-/

namespace Awk

/-- What a name stands for. -/
inductive Binding where
  | scalar (v : Value)
  | array (id : Nat)
deriving Repr

abbrev Bindings := Std.TreeMap String Binding

/-- The locals of a call. -/
structure Frame where
  locals : Bindings
  /-- Arrays made for the call, which go when it returns. -/
  owned : List Nat

structure Scope where
  globals : Bindings
  arena : Arena
  /-- Innermost first. -/
  frames : List Frame
  record : Record
  splitter : FieldSplitter
  separator : RecordSeparator
  fs : String
  ofs : String
  ors : String
  rs : String
  subsep : String
  convfmt : String
  ofmt : String
  ignoreCase : Value
  argc : Value
  filename : String
  /-- Records so far, in all and in the current input.  The counters are words of 64
  bits. -/
  nr : UInt64
  fnr : UInt64
  /-- What was assigned last to the counters, and one more for every record since.  No operation
  looks at that; it is there to be spoken about. -/
  nrExact : Nat
  fnrExact : Nat
  rstart : Double
  rlength : Double

namespace Scope

/-- An operation on a scope.  One that fails may have changed the scope. -/
abbrev Op := EStateM Fault Scope

def depth (s : Scope) : Nat := s.frames.length

def ignoresCase (s : Scope) : Bool := s.ignoreCase.isTruthy

/-- What a name stands for in the innermost frame. -/
def local? (s : Scope) (name : String) : Option Binding :=
  match s.frames with
  | [] => none
  | frame :: _ => frame.locals[name]?

def lookup? (s : Scope) (name : String) : Option Binding :=
  match s.local? name with
  | some b => some b
  | none => s.globals[name]?

def isArray (s : Scope) (name : String) : Bool :=
  match s.lookup? name with
  | some (.array _) => true
  | _ => false

/-- Binds a name in the innermost frame, or globally outside of calls. -/
def bind (s : Scope) (name : String) (b : Binding) : Scope :=
  match s.frames with
  | [] => { s with globals := s.globals.insert name b }
  | frame :: frames =>
    { s with frames := { frame with locals := frame.locals.insert name b } :: frames }

/-! ## Scalars -/

def special (s : Scope) : Special → Value
  | .nr => .ofNat s.nr.toNat
  | .nf => .ofNat s.record.fieldCount
  | .fnr => .ofNat s.fnr.toNat
  | .fs => .ofText s.fs
  | .ofs => .ofText s.ofs
  | .ors => .ofText s.ors
  | .rs => .ofText s.rs
  | .filename => .ofText s.filename
  | .subsep => .ofText s.subsep
  | .rstart => .num s.rstart
  | .rlength => .num s.rlength
  | .ignoreCase => s.ignoreCase
  | .convfmt => .ofText s.convfmt
  | .ofmt => .ofText s.ofmt
  | .argc => s.argc

/-- The value of a name.  One that stands for nothing is uninitialized. -/
def value (s : Scope) (name : String) : Except Fault Value :=
  match Special.ofName? name with
  | some v => .ok (s.special v)
  | none =>
    match s.lookup? name with
    | some (.scalar v) => .ok v
    | some (.array _) => .error (.arrayAsScalar name)
    | none => .ok .uninit

def getVar (name : String) : Op Value := fun s =>
  match s.value name with
  | .ok v => .ok v s
  | .error fault => .error fault s

/-- A counter as a program sets it: whole, from zero to the greatest word. -/
def counter (v : Value) : UInt64 := UInt64.ofNat (v.toNumber.toNat64)

def setFieldCount (n : Double) : Op Unit := do
  if n < 0.0 then throw (.fieldCountNegative n)
  if Double.ofNat maxFields < n then throw (.fieldCountAboveLimit n)
  modify fun s => { s with record := s.record.setFieldCount (n.toNat64) s.ofs }

def setFieldSeparator (fs : String) : Op Unit := fun s =>
  match FieldSplitter.ofSeparator fs s.ignoresCase with
  | .ok splitter => .ok () { s with fs, splitter }
  | .error fault => .error fault s

/-- The new setting holds even where the field separator has no form for it. -/
def setIgnoreCase (v : Value) : Op Unit := fun s =>
  let s := { s with ignoreCase := v }
  match FieldSplitter.ofSeparator s.fs s.ignoresCase with
  | .ok splitter => .ok () { s with splitter }
  | .error fault => .error fault s

def setRecordSeparator (rs : String) : Op Unit := fun s =>
  match RecordSeparator.ofSeparator rs with
  | .ok separator => .ok () { s with rs, separator }
  | .error fault => .error fault s

def setSpecial (name : Special) (v : Value) : Op Unit := do
  let text := v.toText (← get).convfmt
  match name with
  | .nr => modify fun s => { s with nr := counter v, nrExact := (counter v).toNat }
  | .fnr => modify fun s => { s with fnr := counter v, fnrExact := (counter v).toNat }
  | .nf => setFieldCount v.toNumber
  | .fs => setFieldSeparator text
  | .ignoreCase => setIgnoreCase v
  | .rs => setRecordSeparator text
  | .ofs => modify fun s => { s with ofs := text }
  | .ors => modify fun s => { s with ors := text }
  | .filename => modify fun s => { s with filename := text }
  | .subsep => modify fun s => { s with subsep := text }
  | .convfmt => modify fun s => { s with convfmt := text }
  | .ofmt => modify fun s => { s with ofmt := text }
  | .rstart => modify fun s => { s with rstart := v.toNumber }
  | .rlength => modify fun s => { s with rlength := v.toNumber }
  | .argc => modify fun s => { s with argc := v }

/-- What a name stands for where an assignment would write it. -/
def assigned? (s : Scope) (name : String) : Option Binding :=
  match s.frames with
  | [] => s.globals[name]?
  | frame :: _ => frame.locals[name]?

/-- Assigns a scalar.  Inside a call a name that is not special is always local. -/
def setVar (name : String) (v : Value) : Op Unit :=
  match Special.ofName? name with
  | some special => setSpecial special v
  | none => fun s =>
    match s.assigned? name with
    | some (.array _) => .error (.arrayAsScalar name) s
    | _ => .ok () (s.bind name (.scalar v))

/-! ## Arrays -/

def newArray : Op Nat := fun s =>
  let (id, arena) := s.arena.alloc
  .ok id { s with arena }

/-- The array that a name stands for.  A local that was never set becomes an array of
its frame, and a name that stands for nothing a global one. -/
def arrayId (name : String) : Op Nat := fun s =>
  match s.local? name with
  | some (.array id) => .ok id s
  | some (.scalar .uninit) =>
    let (id, arena) := s.arena.alloc
    match s.frames with
    | [] => .ok id { s with arena }
    | frame :: frames =>
      let frame :=
        { locals := frame.locals.insert name (.array id), owned := frame.owned ++ [id] }
      .ok id { s with arena, frames := frame :: frames }
  | some (.scalar _) => .error (.scalarAsArray name) s
  | none =>
    if (Special.ofName? name).isSome then .error (.scalarAsArray name) s
    else
      match s.globals[name]? with
      | some (.array id) => .ok id s
      | some (.scalar .uninit) | none =>
        let (id, arena) := s.arena.alloc
        .ok id { s with arena, globals := s.globals.insert name (.array id) }
      | some (.scalar _) => .error (.scalarAsArray name) s

def table (s : Scope) (id : Nat) : Table := s.arena.table id

def modifyTable (id : Nat) (f : Table → Table) : Op Unit :=
  modify fun s => { s with arena := s.arena.modify id f }

/-- Reading an element creates it. -/
def getElement (array key : String) : Op Value := do
  let id ← arrayId array
  match ((← get).table id)[key]? with
  | some v => return v
  | none =>
    modifyTable id fun t => t.insert key .uninit
    return .uninit

def setElement (array key : String) (v : Value) : Op Unit := do
  let id ← arrayId array
  modifyTable id fun t => t.insert key v

def deleteElement (array key : String) : Op Unit := do
  let id ← arrayId array
  modifyTable id fun t => t.erase key

def clearArray (array : String) : Op Unit := do
  let id ← arrayId array
  modifyTable id fun _ => Table.empty

def arrayKeys (array : String) : Op (List String) := do
  let id ← arrayId array
  return ((← get).table id).keys

/-- Asking for an element does not create it. -/
def hasElement (array key : String) : Op Bool := do
  let id ← arrayId array
  return ((← get).table id).contains key

def arraySize (array : String) : Op Nat := do
  let id ← arrayId array
  return ((← get).table id).size

/-- Replaces all elements by a list, numbered from one. -/
def fillArray (id : Nat) (values : List Value) : Op Unit :=
  modifyTable id fun _ => Table.numbered values

/-! ## Calls -/

/-- Enters a call.  Of two bindings of one name the later counts. -/
def pushFrame (bindings : List (String × Binding)) (owned : List Nat) (s : Scope) : Scope :=
  let locals := bindings.foldl (fun m (name, b) => m.insert name b) (∅ : Bindings)
  { s with frames := { locals, owned } :: s.frames }

/-- Leaves a call and gives back the arrays made for it. -/
def popFrame (s : Scope) : Scope :=
  match s.frames with
  | [] => s
  | frame :: frames =>
    { s with frames, arena := frame.owned.foldl Arena.release s.arena }

/-- Leaves all calls, the innermost first. -/
def popAll (s : Scope) : Scope := s.frames.foldl (fun s _ => s.popFrame) s

/-! ## The record -/

/-- Installs a record and divides it into fields. -/
def setRecord (text : String) (s : Scope) : Scope :=
  let fields :=
    if s.separator.isParagraph then s.splitter.splitParagraph text else s.splitter.split text
  { s with record := { text, fields } }

def getField (s : Scope) (i : Nat) : Value := .ofText (s.record.field i)

def setField (i : Nat) (text : String) (s : Scope) : Scope :=
  if i = 0 then s.setRecord text
  else { s with record := s.record.setField i text s.ofs }

/-! ## Counting -/

/-- The counters can count one more record. -/
def hasRoom (s : Scope) : Bool :=
  s.nr.toNat < 0xffffffffffffffff && s.fnr.toNat < 0xffffffffffffffff

def countOne (s : Scope) : Scope :=
  { s with nr := s.nr + 1, fnr := s.fnr + 1
           nrExact := s.nrExact + 1, fnrExact := s.fnrExact + 1 }

/-! ## The start of a run -/

/-- Replaces `ARGV` and sets `ARGC` to its length. -/
def setArgs (args : List String) (s : Scope) : Scope :=
  let elements := (args.zipIdx).foldl (fun t (arg, i) => t.insert (toString i) (.ofText arg))
    Table.empty
  let s : Scope := { s with argc := .ofNat args.length }
  match s.globals["ARGV"]? with
  | some (.array id) => { s with arena := s.arena.modify id fun _ => elements }
  | _ =>
    let (id, arena) := s.arena.alloc
    { s with arena := arena.modify id fun _ => elements
             globals := s.globals.insert "ARGV" (.array id) }

/-- The scope of a program that has not run, in an environment of named texts. -/
def initial (environment : List (String × String)) : Scope :=
  let (environ, arena) := Arena.empty.alloc
  let elements := environment.foldl (fun t (name, text) => t.insert name (.ofText text))
    Table.empty
  setArgs ["awk-ai"]
    { globals := (∅ : Bindings).insert "ENVIRON" (.array environ)
      arena := arena.modify environ fun _ => elements
      frames := []
      record := .empty
      splitter := .blanks
      separator := .char '\n'
      fs := " ", ofs := " ", ors := "\n", rs := "\n", subsep := "\x1c"
      convfmt := Format.defaultNumberFormat, ofmt := Format.defaultNumberFormat
      ignoreCase := .num 0.0, argc := .num 0.0
      filename := "", nr := 0, fnr := 0, nrExact := 0, fnrExact := 0
      rstart := 0.0, rlength := -1.0 }

end Scope
end Awk
