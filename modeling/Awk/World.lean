import Awk.Reader

namespace Awk

/-- What the world answers to a question that is asked again and again. -/
abbrev Answers (α : Type) := Nat → α

namespace Answers

variable {α : Type}

def now (a : Answers α) : α := a 0

/-- What it answers from the next time on. -/
def later (a : Answers α) : Answers α := fun n => a (n + 1)

end Answers

/-- An order in which the keys of an array are gone through. -/
structure KeyOrder where
  arrange : List String → List String
  perm : ∀ keys, (arrange keys).Perm keys

namespace KeyOrder

def sorted : KeyOrder := { arrange := id, perm := fun keys => .refl keys }

end KeyOrder

/-- What is found under the name of a file. -/
inductive Entry where
  | contents (bytes : List UInt8)
  | directory
  /-- Nothing that can be opened, and why. -/
  | unavailable (why : String)
deriving Repr

/-- What of the world a run has to ask for before it can go on. -/
inductive Need where
  | file (name : String)
  | input
deriving DecidableEq, Repr

/-- What a run sees of the world around it.  A part that is not known yet stops the
run, which can be started again once it is. -/
structure World where
  file? : String → Option Entry
  /-- What each further read of standard input gives: at least a byte, and no more than a buffer
  holds.  Behind the last of these every read finds the end. -/
  input : Option (List (List UInt8))
  environment : List (String × String)
  /-- Seconds, for a seed that is left to chance. -/
  clock : Double
  /-- Whether the run has been cancelled, each time it looks.  Anyone may cancel it at any time. -/
  cancelled : Answers Bool := fun _ => false
  /-- The order of keys each time a loop goes through those of an array.  There is no telling. -/
  keyOrder : Answers KeyOrder := fun _ => .sorted

namespace World

/-- A world without files, input or variables. -/
def empty : World :=
  { file? := fun _ => some (.unavailable Error.noSuchFile), input := some [], environment := [],
    clock := 0.0 }

/-- The world once the entry of one more file is known. -/
def learn (w : World) (name : String) (e : Entry) : World :=
  { w with file? := fun other => if other = name then some e else w.file? other }

end World

namespace Entry

/-- A directory can be opened, and then not read. -/
def stream : Entry → Except String ByteStream
  | contents bytes => .ok (.ofBytes bytes)
  | directory => .ok (.failing Error.isDirectory)
  | unavailable why => .error why

end Entry
end Awk
