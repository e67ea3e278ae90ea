import Awk.Host
import Awk.Random
import Awk.Regex.Braces
import Awk.Scope
import Awk.World

/-!
# The machine

The state of a run, and the computations on it.  A computation yields a value and a
new state, or stops; a state survives a stop, because what was done before it can be
seen.
-/

namespace Awk

/-- What ends the handling of a record early. -/
inductive Signal where
  | next
  | nextFile
  | exit (code : Int)
deriving DecidableEq, Repr

/-- How a statement ends.  Loops take `break` and `continue`, calls take `return`, and
the run takes signals. -/
inductive Flow where
  | normal
  | break_
  | continue_
  | signal (s : Signal)
  | return_ (v : Value)
deriving Repr

/-- An input that has not been reached yet. -/
inductive Source where
  | stream (name : String) (stream : ByteStream)
  /-- A file, `-` for standard input, or an assignment. -/
  | operand (text : String)
deriving Repr

/-- Where output goes. -/
structure Sink where
  text : String
  /-- The number of bytes after which no more are taken. -/
  limit : Option Nat
  flushFails : Bool
deriving Repr

namespace Sink

def unlimited : Sink := { text := "", limit := none, flushFails := false }

/-- A text is taken whole or not at all.  An empty one is never refused. -/
def accepts (s : Sink) (text : String) : Bool :=
  match s.limit with
  | none => true
  | some n => text.isEmpty || s.text.utf8ByteSize + text.utf8ByteSize ≤ n

def append (s : Sink) (text : String) : Sink := { s with text := s.text ++ text }

def full : String := "sink full"

def flushFailed : String := "flush failed"

end Sink

/-- What to do when a rule fails. -/
inductive Policy where
  /-- Read no more input, run the `END` rules and report the error. -/
  | abort
  /-- Note the error and go on behind the rule. -/
  | skipRule
deriving DecidableEq, Repr

structure Machine where
  scope : Scope
  host : Host
  world : World
  random : Random
  seed : Double
  /-- For each rule, whether it is a range that has begun and not ended. -/
  activeRanges : Array Bool
  exitCode : Int
  /-- Raised by a function, for the statement that called it. -/
  pending : Option Signal
  /-- How many calls of functions of the program have not returned. -/
  callDepth : Nat
  sources : List Source
  current : Option Reader
  /-- Whether the current input is standard input. -/
  onInput : Bool
  /-- The inputs opened so far, latest first, each with the number of records it has given.  No
  computation looks at it; it is there to be spoken about. -/
  delivered : List (String × Nat)
  /-- Files that `getline` reads by name. -/
  opened : Std.TreeMap String Reader
  policy : Policy
  /-- Errors passed over, latest first. -/
  skipped : List Error
  sink : Sink

namespace Machine

def initial (world : World) : Machine :=
  { scope := .initial world.environment
    host := .empty
    world
    random := .ofSeed 0.0
    seed := 0.0
    activeRanges := #[]
    exitCode := 0
    pending := none
    callDepth := 0
    sources := []
    current := none
    onInput := false
    delivered := []
    opened := ∅
    policy := .abort
    skipped := []
    sink := .unlimited }

def setSeed (seed : Double) (m : Machine) : Machine := { m with seed, random := .ofSeed seed }

/-- The machine with one more input opened. -/
def openInput (name : String) (onInput : Bool) (reader : Reader) (m : Machine) : Machine :=
  { m with scope := { m.scope with filename := name, fnr := 0, fnrExact := 0 }
           current := some reader
           onInput
           delivered := (name, 0) :: m.delivered }

/-- The machine behind a record of the latest input. -/
def deliver (reader : Reader) (m : Machine) : Machine :=
  { m with current := some reader
           delivered :=
             match m.delivered with
             | [] => [("", 1)]
             | (name, n) :: before => (name, n + 1) :: before }

/-- The machine as if the latest record had not been given. -/
def withdraw (m : Machine) : Machine :=
  { m with delivered :=
             match m.delivered with
             | [] => []
             | (name, n) :: before => (name, n - 1) :: before }

/-- The machine inside of a call that has just begun. -/
def enterCall (bindings : List (String × Binding)) (owned : List Nat) (m : Machine) : Machine :=
  { m with scope := m.scope.pushFrame bindings owned, callDepth := m.callDepth + 1 }

/-- The machine behind the innermost call. -/
def leaveCall (m : Machine) : Machine :=
  { m with scope := m.scope.popFrame, callDepth := m.callDepth - 1 }

/-- Errors passed over, in order. -/
def diagnostics (m : Machine) : List Error := m.skipped.reverse

end Machine

/-- What takes the whole program down.  Nothing catches it, and nothing is done behind it. -/
inductive Crash where
  /-- One is added to the greatest word. -/
  | overflow
  /-- A conversion asks for itself without end. -/
  | recursion
deriving DecidableEq, Repr

/-- Why a computation does not go on. -/
inductive Stop where
  | failed (e : Error)
  | crashed (c : Crash)
  /-- Something of the world has to be known first. -/
  | needs (n : Need)
  /-- The fuel did not suffice. -/
  | exhausted
deriving Repr

/-- A computation on a machine. -/
abbrev Eval := EStateM Stop Machine

namespace Eval

def raise {α : Type} (e : Error) : Eval α := throw (.failed e)

def fail {α : Type} (fault : Fault) : Eval α := raise (.runtime fault none)

def failAt {α : Type} (fault : Fault) (place : Location) : Eval α :=
  raise (.runtime fault (some place))

/-- Gives a place to an error that has none. -/
def located {α : Type} (place : Location) (x : Eval α) : Eval α := fun m =>
  match x m with
  | .ok a m => .ok a m
  | .error (.failed e) m => .error (.failed (e.orAt place)) m
  | .error stop m => .error stop m

/-- An operation on the scope alone. -/
def onScope {α : Type} (op : Scope.Op α) : Eval α := fun m =>
  match op m.scope with
  | .ok a scope => .ok a { m with scope }
  | .error fault scope => .error (.failed (.runtime fault none)) { m with scope }

def ofExcept {α : Type} : Except Fault α → Eval α
  | .ok a => pure a
  | .error fault => fail fault

def modifyScope (f : Scope → Scope) : Eval Unit :=
  modify fun m => { m with scope := f m.scope }

def scope : Eval Scope := return (← get).scope

/-- Goes on if the values have texts under a number format. -/
def requireTexts (format : String) (values : List Value) : Eval Unit :=
  if values.all (·.hasText format) then return () else throw (.crashed .recursion)

/-- The text of a value under one of the number formats. -/
def textUnder (numberFormat : Scope → String) (v : Value) : Eval String := do
  let format := numberFormat (← scope)
  requireTexts format [v]
  return v.toText format

theorem textUnder_run (numberFormat : Scope → String) (v : Value) (m : Machine) :
    textUnder numberFormat v m =
      if v.hasText (numberFormat m.scope) then .ok (v.toText (numberFormat m.scope)) m
      else .error (.crashed .recursion) m := by
  show (requireTexts (numberFormat m.scope) [v] >>= fun _ =>
    pure (v.toText (numberFormat m.scope))) m = _
  rw [requireTexts, List.all_cons, List.all_nil, Bool.and_true]
  split <;> rfl

/-- The text of a value outside of output. -/
def textOf (v : Value) : Eval String := textUnder (·.convfmt) v

/-- What `sprintf` makes of its arguments. -/
def formatted (format : String) (args : List Value) : Eval String := do
  let numberFormat := (← scope).convfmt
  requireTexts numberFormat (Format.textArguments (Format.items format.toList) args)
  return sprintf format args numberFormat

/-- Whether the run has been cancelled by now. -/
def isCancelled : Eval Bool := fun m =>
  .ok m.world.cancelled.now
    { m with world := { m.world with cancelled := m.world.cancelled.later } }

/-- Keys in the order in which they are gone through this time. -/
def arranged (keys : List String) : Eval (List String) := fun m =>
  .ok (m.world.keyOrder.now.arrange keys)
    { m with world := { m.world with keyOrder := m.world.keyOrder.later } }

def isPending : Eval Bool := return (← get).pending.isSome

/-- Takes the signal that a function left behind. -/
def takePending : Eval (Option Signal) := fun m => .ok m.pending { m with pending := none }

def write (text : String) : Eval Unit := fun m =>
  if m.sink.accepts text then .ok () { m with sink := m.sink.append text }
  else .error (.failed (.io Sink.full)) m

def flush : Eval Unit := fun m =>
  if m.sink.flushFails then .error (.failed (.io Sink.flushFailed)) m else .ok () m

/-- Writes the record and the separator that ends it, one after the other. -/
def printRecord : Eval Unit := do
  write (← scope).record.text
  write (← scope).ors

/-- The regular expression that a pattern writes, as case counts at the moment. -/
def regexOf (pattern : String) : Eval Regex := do
  match Regex.compile (Regex.escapeStray pattern) (← scope).ignoresCase with
  | .ok re => return re
  | .error fault => raise (.regex fault)

end Eval
end Awk
