import Awk.Record
import Awk.Text.Utf8

/-!
# Reading records

A reader draws lines from a stream of bytes into a buffer of characters and takes
records off its front.  The separator is given anew for every record, so that a
program may change it between two of them.
-/

namespace Awk

/-- Bytes to come, and the failure that comes after them instead of an end. -/
structure ByteStream where
  bytes : List UInt8
  failure : Option String
deriving DecidableEq, Repr

namespace ByteStream

def ofBytes (bytes : List UInt8) : ByteStream := { bytes, failure := none }

/-- A stream from which nothing can be read. -/
def failing (text : String) : ByteStream := { bytes := [], failure := some text }

def newline : UInt8 := 10

/-- Bytes cut behind every newline. -/
def lines : List UInt8 → List (List UInt8)
  | [] => []
  | b :: bs =>
    if b = newline then [b] :: lines bs
    else
      match lines bs with
      | [] => [[b]]
      | line :: rest => (b :: line) :: rest

/-- How much of standard input is read at a time. -/
def bufferSize : Nat := 8192

/-- Bytes as reads of a full buffer each give them.  Every read takes a byte, so fuel for each of
them is enough. -/
def blocksFrom : Nat → List UInt8 → List (List UInt8)
  | 0, _ => []
  | _ + 1, [] => []
  | n + 1, bytes => bytes.take bufferSize :: blocksFrom n (bytes.drop bufferSize)

def blocks (bytes : List UInt8) : List (List UInt8) := blocksFrom bytes.length bytes

/-- A failure cuts off the last line, so that no newline ends it. -/
def isWhole (line : List UInt8) : Bool := line.getLast? == some newline

end ByteStream

structure Reader where
  /-- Lines that have not been drawn. -/
  lines : List (List UInt8)
  failure : Option String
  /-- Text drawn and not yet taken. -/
  buffer : List Char
deriving Repr

namespace Reader

def ofStream (stream : ByteStream) : Reader :=
  { lines := ByteStream.lines stream.bytes, failure := stream.failure, buffer := [] }

/-- Whether an attempt to draw another line finds the end of the input. -/
def atEnd (r : Reader) : Bool := r.lines.isEmpty && r.failure.isNone

/-- A record, the end of input, or a failure to read. -/
abbrev Outcome := Except String (Option (List Char))

/-- All that is left, if anything is. -/
def takeRest (r : Reader) : Outcome × Reader :=
  (.ok (if r.buffer.isEmpty then none else some r.buffer), { r with buffer := [] })

/-- Takes a record that ends at `start` and whose separator ends at `stop`. -/
def splitOff (r : Reader) (start stop : Nat) : Outcome × Reader :=
  (.ok (some (r.buffer.take start)), { r with buffer := r.buffer.drop stop })

/-- Draws lines until `finish?` can tell from the buffer how the read ends; at the end
of the input `last` tells it.  Bytes that are not UTF-8 are replaced.  A line that a
failure cuts short is lost. -/
def draw {α : Type} (finish? : Reader → Option (Except String α × Reader))
    (last : Reader → Except String α × Reader) (failure : Option String) :
    List (List UInt8) → List Char → Except String α × Reader
  | [], buffer =>
    let r : Reader := { lines := [], failure, buffer }
    match finish? r, failure with
    | some result, _ => result
    | none, some text => (.error text, r)
    | none, none => last r
  | line :: lines, buffer =>
    match finish? { lines := line :: lines, failure, buffer }, failure with
    | some result, _ => result
    | none, none => draw finish? last failure lines (buffer ++ Text.Utf8.decode line)
    | none, some text =>
      if ByteStream.isWhole line then
        draw finish? last failure lines (buffer ++ Text.Utf8.decode line)
      else (.error text, { lines, failure, buffer })

/-- Draws lines until `found?` sees the end of a record in the buffer, and takes the
record.  When the input ends first, `last` takes what there is. -/
def takeRecord (found? : Reader → Option (Nat × Nat)) (last : Reader → Outcome × Reader)
    (r : Reader) : Outcome × Reader :=
  draw (fun r => (found? r).map fun (start, stop) => r.splitOff start stop) last r.failure
    r.lines r.buffer

/-- The first occurrence of a character in the buffer. -/
def findChar? (c : Char) (r : Reader) : Option (Nat × Nat) :=
  (r.buffer.findIdx? (· == c)).map fun i => (i, i + 1)

/-- The first empty line in the buffer. -/
def findBlankLine? (r : Reader) : Option (Nat × Nat) :=
  (Text.indexOf? ['\n', '\n'] r.buffer).map fun i => (i, i + 2)

/-- The first match in the buffer that is not empty.  One that touches the end of the
buffer might be longer with more input, and counts only when there is none. -/
def findMatch? (re : Regex) (r : Reader) : Option (Nat × Nat) :=
  match re.findNonEmpty? r.buffer with
  | some m => if r.atEnd || m.stop < r.buffer.length then some (m.start, m.stop) else none
  | none => none

/-- Drops newlines from the front until something else comes.  Tells whether
anything does. -/
def skipNewlines (r : Reader) : Except String Bool × Reader :=
  let anything? (r : Reader) : Option (Except String Bool × Reader) :=
    if r.buffer.all (· == '\n') then none else some (.ok true, r)
  let (result, r) := draw anything? (fun r => (.ok false, r)) r.failure r.lines r.buffer
  (result, { r with buffer := r.buffer.dropWhile (· == '\n') })

/-- The last paragraph, without the newlines that end it. -/
def takeLastParagraph (r : Reader) : Outcome × Reader :=
  match r.takeRest with
  | (.ok (some text), r) => (.ok (some (text.reverse.dropWhile (· == '\n')).reverse), r)
  | other => other

def readParagraph (r : Reader) : Outcome × Reader :=
  match r.skipNewlines with
  | (.error text, r) => (.error text, r)
  | (.ok false, r) => (.ok none, r)
  | (.ok true, r) => takeRecord findBlankLine? takeLastParagraph r

/-- The next record without its separator. -/
def readChars (r : Reader) : RecordSeparator → Outcome × Reader
  | .char c => takeRecord (findChar? c) takeRest r
  | .paragraph => r.readParagraph
  | .regex re => takeRecord (findMatch? re) takeRest r

/-- The next record as text. -/
def read (r : Reader) (separator : RecordSeparator) : Except String (Option String) × Reader :=
  match r.readChars separator with
  | (.ok record, r) => (.ok (record.map String.ofList), r)
  | (.error text, r) => (.error text, r)

/-! ## Standard input

Several readers may draw on standard input.  Each has a buffer of its own, which it fills by a
read when it needs another line. -/

/-- A reader that has drawn nothing yet. -/
def empty : Reader := ofStream (.ofBytes [])

/-- The reader behind a read that gave it a block. -/
def fill (r : Reader) (block : List UInt8) : Reader :=
  { r with lines := ByteStream.lines (r.lines.flatten ++ block) }

/-- The reader as long as its end is not the end of the input: what is behind is not known. -/
def unended (r : Reader) : Reader := { r with failure := some "" }

/-- The next record of a reader that draws on blocks, and the blocks that are left.  The reader
takes a block only if what it has does not tell how the record ends. -/
def readShared (separator : RecordSeparator) (r : Reader) :
    List (List UInt8) → Except String (Option String) × Reader × List (List UInt8)
  | [] =>
    let (record, r) := r.read separator
    (record, r, [])
  | block :: blocks =>
    match r.unended.read separator with
    | (.ok record, r') => (.ok record, { r' with failure := none }, block :: blocks)
    | (.error _, _) => readShared separator (r.fill block) blocks

end Reader
end Awk
