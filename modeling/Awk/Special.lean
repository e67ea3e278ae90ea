import Awk.Text.Class

namespace Awk

/-- The variables that have a meaning of their own.  They are global wherever they
are used, and never arrays. -/
inductive Special where
  | nr | nf | fnr | fs | ofs | ors | rs | filename | subsep | rstart | rlength
  | ignoreCase | convfmt | ofmt | argc
deriving DecidableEq, Repr

namespace Special

def all : List Special :=
  [nr, nf, fnr, fs, ofs, ors, rs, filename, subsep, rstart, rlength, ignoreCase, convfmt, ofmt,
    argc]

def name : Special → String
  | nr => "NR"
  | nf => "NF"
  | fnr => "FNR"
  | fs => "FS"
  | ofs => "OFS"
  | ors => "ORS"
  | rs => "RS"
  | filename => "FILENAME"
  | subsep => "SUBSEP"
  | rstart => "RSTART"
  | rlength => "RLENGTH"
  | ignoreCase => "IGNORECASE"
  | convfmt => "CONVFMT"
  | ofmt => "OFMT"
  | argc => "ARGC"

def ofName? (s : String) : Option Special := all.find? (·.name == s)

theorem mem_all (v : Special) : v ∈ all := by cases v <;> decide

/-- The variable is kept as a text, whatever is assigned to it. -/
def isText : Special → Bool
  | fs | ofs | ors | rs | filename | subsep | convfmt | ofmt => true
  | nr | nf | fnr | rstart | rlength | ignoreCase | argc => false

end Special

/-- Whether a text can name a variable. -/
def isValidName (s : String) : Bool :=
  match s.toList with
  | [] => false
  | c :: cs => (Text.isAsciiLetter c || c == '_') && cs.all Text.isNameChar

end Awk
