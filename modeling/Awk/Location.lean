namespace Awk

/-- A place in a program text.  Lines and columns count from one, and a column is
a number of characters, not of bytes. -/
structure Location where
  line : Nat
  column : Nat
deriving DecidableEq, Repr, Inhabited

namespace Location

def start : Location := { line := 1, column := 1 }

/-- The place after one more character. -/
def advance (l : Location) (c : Char) : Location :=
  if c = '\n' then { line := l.line + 1, column := 1 }
  else { line := l.line, column := l.column + 1 }

/-- The place after a run of characters. -/
def advanceBy (l : Location) (cs : List Char) : Location := cs.foldl advance l

theorem advanceBy_nil (l : Location) : l.advanceBy [] = l := rfl

theorem advanceBy_cons (l : Location) (c : Char) (cs : List Char) :
    l.advanceBy (c :: cs) = (l.advance c).advanceBy cs := rfl

theorem advanceBy_append (l : Location) (cs ds : List Char) :
    l.advanceBy (cs ++ ds) = (l.advanceBy cs).advanceBy ds := by
  simp [advanceBy, List.foldl_append]

/-- The place as error messages write it. -/
def text (l : Location) : String :=
  "line " ++ toString l.line ++ ", column " ++ toString l.column

end Location

end Awk
