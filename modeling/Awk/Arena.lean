import Awk.Value.Basic
import Std.Data.TreeMap

/-!
# The arena of arrays

Arrays are referred to by number, so that a parameter can stand for an array of the
caller.  The number of an array that is no longer needed is used again, the last
one released first.
-/

namespace Awk

/-- The elements of one array. -/
abbrev Table := Std.TreeMap String Value

namespace Table

def empty : Table := ∅

/-- The elements `1`, `2`, … of a list. -/
def numbered (values : List Value) : Table :=
  (values.zipIdx 1).foldl (fun t (v, i) => t.insert (toString i) v) empty

end Table

structure Arena where
  tables : Array Table
  /-- Numbers to be used again. -/
  free : List Nat

namespace Arena

def empty : Arena := { tables := #[], free := [] }

/-- An array without elements that nothing refers to. -/
def alloc (a : Arena) : Nat × Arena :=
  match a.free with
  | id :: free => (id, { a with free })
  | [] => (a.tables.size, { a with tables := a.tables.push Table.empty })

def table (a : Arena) (id : Nat) : Table := (a.tables[id]?).getD Table.empty

def modify (a : Arena) (id : Nat) (f : Table → Table) : Arena :=
  { a with tables := a.tables.modify id f }

/-- Empties an array and gives its number back. -/
def release (a : Arena) (id : Nat) : Arena :=
  { tables := a.tables.modify id fun _ => Table.empty, free := id :: a.free }

end Arena
end Awk
