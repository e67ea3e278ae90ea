import Awk.Host

/-!
# Slots of helpers

A function with a deadline runs on a helper, so that the caller can give up waiting.
A helper that nobody waits for any more still runs to its end, and a counter bounds
how many of them there are.  A caller counts itself first and looks afterwards: one
that finds the counter at the bound takes its count back and is refused.  Calls and
helpers go on side by side; each event below is one indivisible step of one of them.
-/

namespace Awk
namespace Host

/-- Where a caller stands. -/
inductive Caller where
  /-- Counted within the bound; the helper has not started. -/
  | admitted
  /-- Counted beyond the bound; the count has not been taken back. -/
  | refused
  | waiting
  | returned (text : String)
deriving DecidableEq, Repr

/-- Where the helper of a call stands. -/
inductive Helper where
  | absent
  | running
  /-- The answer is sent, and the slot still held. -/
  | answered (text : String)
  /-- The slot is given back, with the answer that was sent, if one was. -/
  | ended (text : Option String)
deriving DecidableEq, Repr

structure SlotCall where
  args : List String
  caller : Caller
  helper : Helper
deriving DecidableEq, Repr

/-- All calls of one function, and the counter they share. -/
structure Slots where
  counter : Int
  calls : List SlotCall
deriving DecidableEq, Repr

inductive SlotEvent where
  | enter (args : List String)
  /-- A caller that was refused takes its count back and returns. -/
  | leave (i : Nat)
  | start (i : Nat)
  /-- The helper sends what the function says. -/
  | send (i : Nat)
  /-- The helper ends after it has sent an answer. -/
  | finish (i : Nat)
  /-- The helper ends without an answer. -/
  | crash (i : Nat)
  /-- The caller takes the answer and returns. -/
  | receive (i : Nat)
  /-- The caller stops waiting and returns. -/
  | giveUp (i : Nat)
deriving DecidableEq, Repr

namespace Slots

def initial : Slots := { counter := 0, calls := [] }

/-- Changes call `i`, if it stands where the event finds it, and adds to the
counter. -/
def update (s : Slots) (i : Nat) (change : Int) (f : SlotCall → Option SlotCall) :
    Option Slots :=
  match s.calls[i]? with
  | none => none
  | some call => (f call).map fun call =>
    { counter := s.counter + change, calls := s.calls.set i call }

/-- What an event does; nothing if it cannot happen. -/
def step (most : Nat) (fallback : String) (f : HostFunction) (s : Slots) :
    SlotEvent → Option Slots
  | .enter args =>
    let caller := if s.counter < most then Caller.admitted else Caller.refused
    some { counter := s.counter + 1
           calls := s.calls ++ [{ args, caller, helper := .absent }] }
  | .leave i => s.update i (-1) fun call =>
    match call.caller with
    | .refused => some { call with caller := .returned fallback }
    | _ => none
  | .start i => s.update i 0 fun call =>
    match call.caller with
    | .admitted => some { call with caller := .waiting, helper := .running }
    | _ => none
  | .send i => s.update i 0 fun call =>
    match call.helper with
    | .running => some { call with helper := .answered (f call.args) }
    | _ => none
  | .finish i => s.update i (-1) fun call =>
    match call.helper with
    | .answered text => some { call with helper := .ended (some text) }
    | _ => none
  | .crash i => s.update i (-1) fun call =>
    match call.helper with
    | .running => some { call with helper := .ended none }
    | _ => none
  | .receive i => s.update i 0 fun call =>
    match call.caller, call.helper with
    | .waiting, .answered text | .waiting, .ended (some text) =>
      some { call with caller := .returned text }
    | _, _ => none
  | .giveUp i => s.update i 0 fun call =>
    match call.caller with
    | .waiting => some { call with caller := .returned fallback }
    | _ => none

/-- The state after a sequence of events that can all happen. -/
def run (most : Nat) (fallback : String) (f : HostFunction) :
    List SlotEvent → Slots → Option Slots
  | [], s => some s
  | e :: es, s => (s.step most fallback f e).bind (run most fallback f es)

end Slots
end Host
end Awk
