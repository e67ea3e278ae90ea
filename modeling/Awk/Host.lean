import Awk.Text.Quoted
import Std.Data.TreeMap

/-!
# Functions of the host

A program calls a function of the host like one of its own.  The function gets the
texts of the arguments and always gives a text back.
-/

namespace Awk

abbrev HostFunction := List String → String

structure Host where
  functions : Std.TreeMap String HostFunction

namespace Host

def empty : Host := { functions := ∅ }

/-- Adds or replaces a function. -/
def register (h : Host) (name : String) (f : HostFunction) : Host :=
  { functions := h.functions.insert name f }

def function? (h : Host) (name : String) : Option HostFunction := h.functions[name]?

def contains (h : Host) (name : String) : Bool := h.functions.contains name

def remove (h : Host) (name : String) : Host := { functions := h.functions.erase name }

/-- The names of all functions, in order. -/
def names (h : Host) : List String := h.functions.keys

def size (h : Host) : Nat := h.functions.size

def isEmpty (h : Host) : Bool := h.functions.isEmpty

/-- The names as a listing for diagnosis. -/
def listing (h : Host) : String :=
  "ExternalFunctions \x7b names: [" ++ ", ".intercalate (h.names.map Text.quoted) ++ "] \x7d"

/-- A function that can fail, with the text that then stands for its answer. -/
def withFallback (fallback : String) (f : List String → Option String) : HostFunction :=
  fun args => (f args).getD fallback

/-- What a call that is given a limited time comes to. -/
inductive Answer where
  | inTime (text : String)
  /-- The function answers when nobody waits any more, or never. -/
  | late
  | crashed
deriving DecidableEq, Repr

/-- A function that is waited for a limited time, with the text that stands for an
answer that does not come. -/
def withDeadline (fallback : String) (f : List String → Answer) : HostFunction :=
  fun args =>
    match f args with
    | .inTime text => text
    | .late | .crashed => fallback

end Host
end Awk
