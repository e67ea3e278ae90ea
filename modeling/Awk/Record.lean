import Awk.Regex
import Awk.Text.Split

/-!
# Records and fields
-/

namespace Awk

/-- How a text is divided into fields. -/
inductive FieldSplitter where
  /-- At runs of blanks, tabs and newlines, those at the ends aside. -/
  | blanks
  /-- One field per character. -/
  | characters
  /-- At every occurrence of one character. -/
  | literal (c : Char)
  | regex (re : Regex)

namespace FieldSplitter

/-- The splitter for a field separator.  A single character other than the blank
and the backslash is taken literally, unless case is ignored and it is a letter;
anything longer is a regular expression. -/
def ofSeparator (fs : String) (ignoreCase : Bool) : Except Fault FieldSplitter :=
  let regexOf (pattern : String) : Except Fault FieldSplitter :=
    match Regex.compile pattern ignoreCase with
    | .ok re => .ok (.regex re)
    | .error cause => .error (.fieldSeparator fs cause)
  match fs.toList with
  | [] => .ok .characters
  | [c] =>
    if c = ' ' then .ok .blanks
    else if c = '\\' || (ignoreCase && Text.isAlphabetic c) then regexOf (Regex.quote fs)
    else .ok (.literal c)
  | _ => regexOf fs

def isBlank (c : Char) : Bool := c == ' ' || c == '\t' || c == '\n'

/-- The fields of a text.  An empty text has none. -/
def splitChars (s : FieldSplitter) (text : List Char) : List (List Char) :=
  if text.isEmpty then []
  else
    match s with
    | blanks => (Text.splitBy isBlank text).filter (!·.isEmpty)
    | characters => Text.characters text
    | literal c => Text.splitBy (· == c) text
    | regex re => re.split text

def split (s : FieldSplitter) (text : String) : List String :=
  (s.splitChars text.toList).map String.ofList

/-- The fields of a paragraph, where a newline always separates. -/
def splitParagraph (s : FieldSplitter) (text : String) : List String :=
  match s with
  | blanks => s.split text
  | s =>
    ((Text.splitBy (· == '\n') text.toList).flatMap s.splitChars).map String.ofList

end FieldSplitter

/-- How input is divided into records. -/
inductive RecordSeparator where
  | char (c : Char)
  /-- At runs of empty lines. -/
  | paragraph
  | regex (re : Regex)

namespace RecordSeparator

def ofSeparator (rs : String) : Except Fault RecordSeparator :=
  match rs.toList with
  | [] => .ok .paragraph
  | [c] => .ok (.char c)
  | _ =>
    match Regex.compile rs false with
    | .ok re => .ok (.regex re)
    | .error cause => .error (.recordSeparator rs cause)

def isParagraph : RecordSeparator → Bool
  | paragraph => true
  | _ => false

end RecordSeparator

/-- The whole text of a record, and its fields. -/
structure Record where
  text : String
  fields : List String
deriving DecidableEq, Repr

namespace Record

def empty : Record := { text := "", fields := [] }

def fieldCount (r : Record) : Nat := r.fields.length

/-- Field zero is the whole record, and a field past the last is empty. -/
def field (r : Record) (i : Nat) : String :=
  match i with
  | 0 => r.text
  | i + 1 => (r.fields[i]?).getD ""

/-- A list of exactly `n` fields, cut off or filled up with empty ones. -/
def resize (fields : List String) (n : Nat) : List String :=
  fields.take n ++ List.replicate (n - fields.length) ""

/-- The record with these fields, joined by `ofs`. -/
def ofFields (fields : List String) (ofs : String) : Record :=
  { text := ofs.intercalate fields, fields }

/-- Assigns a field, counted from one; fields missing before it become empty. -/
def setField (r : Record) (i : Nat) (value ofs : String) : Record :=
  ofFields ((resize r.fields (max i r.fieldCount)).set (i - 1) value) ofs

def setFieldCount (r : Record) (n : Nat) (ofs : String) : Record :=
  ofFields (resize r.fields n) ofs

end Record
end Awk
