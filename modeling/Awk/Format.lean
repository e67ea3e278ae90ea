import Awk.Format.Layout
import Awk.Value.Basic

/-!
# Formatted text

Arguments are taken from left to right.  A conversion that has none left, or whose
letter is not known, is copied as it was written.
-/

namespace Awk

/-- The text of the number does not depend on a format: it is an integer below `10 ^ 16`, infinite
or not a number. -/
def Double.writesItself (x : Double) : Bool :=
  match x.view with
  | .finite d => d.isInteger && d.wholePart < 10000000000000000
  | _ => true

namespace Format

def defaultNumberFormat : String := "%.6g"

/-- What a conversion letter asks for. -/
inductive Conversion where
  | text
  | char
  | signed
  | unsigned (radix : Layout.Radix)
  | float (style : Layout.Style) (upper : Bool)
deriving DecidableEq, Repr

def conversion? : Char → Option Conversion
  | 's' => some .text
  | 'c' => some .char
  | 'd' | 'i' => some .signed
  | 'o' => some (.unsigned .octal)
  | 'u' => some (.unsigned .decimal)
  | 'x' => some (.unsigned .lowerHex)
  | 'X' => some (.unsigned .upperHex)
  | 'e' => some (.float .scientific false)
  | 'E' => some (.float .scientific true)
  | 'f' => some (.float .positional false)
  | 'F' => some (.float .positional true)
  | 'g' => some (.float .general false)
  | 'G' => some (.float .general true)
  | _ => none

/-- A number asked for by a star, zero when no argument is left. -/
def starArgument (args : List Value) : Double := (args.head?.map Value.toNumber).getD 0.0

/-- Settles width and precision.  A negative width argument justifies to the left,
and a negative precision argument is none. -/
def settle (spec : Spec) (args : List Value) : Layout × List Value :=
  let (left, width, args) :=
    match spec.width with
    | .absent => (spec.left, 0, args)
    | .written n => (spec.left, n, args)
    | .argument =>
      let w := starArgument args
      (spec.left || w < 0.0, w.abs.toNat64, args.tail)
  let (precision, args) :=
    match spec.precision with
    | .absent => (none, args)
    | .written n => (some n, args)
    | .argument =>
      let p := starArgument args
      (if 0.0 ≤ p then some (p.toNat64) else none, args.tail)
  ({ left, plus := spec.plus, space := spec.space, alternate := spec.alternate
     zero := spec.zero, width, precision }, args)

/-- The text of an argument, with `numberText` for numbers. -/
def argumentText (numberText : Double → List Char) : Value → List Char
  | .uninit => []
  | .num x => numberText x
  | .str s | .numStr s _ => s.toList

/-- A number is a code point; of anything else the first character counts. -/
def argumentChar : Value → List Char
  | .num x =>
    let n := (x.toIntWithin 0 0xffffffff).toNat
    if n.isValidChar then [Char.ofNat n] else []
  | .uninit => []
  | .str s | .numStr s _ => s.toList.take 1

def convert (numberText : Double → List Char) (l : Layout) (c : Conversion) (v : Value) :
    List Char :=
  match c with
  | .text => l.text (argumentText numberText v)
  | .char => l.pad [] (argumentChar v) false
  | .signed => l.signedInteger v.toNumber
  | .unsigned radix => l.unsignedInteger radix v.toNumber
  | .float style upper => l.float style upper v.toNumber

/-- The text of one item, and the arguments it leaves. -/
def renderItem (numberText : Double → List Char) (item : Item) (args : List Value) :
    List Char × List Value :=
  match item with
  | .char c => ([c], args)
  | .unfinished source => (source, args)
  | .conversion spec letter source =>
    let (layout, args) := settle spec args
    if letter = '%' then (layout.pad [] ['%'] false, args)
    else
      match conversion? letter, args with
      | some c, v :: rest => (convert numberText layout c v, rest)
      | _, args => (source, args)

def render (numberText : Double → List Char) : List Item → List Value → List Char
  | [], _ => []
  | item :: rest, args =>
    let (cs, args) := renderItem numberText item args
    cs ++ render numberText rest args

/-- The argument that an item writes as a text. -/
def textArgument? (item : Item) (args : List Value) : Option Value :=
  match item with
  | .conversion spec letter _ =>
    if conversion? letter = some .text then (settle spec args).2.head? else none
  | _ => none

/-- The arguments that items write as texts, with `%s`. -/
def textArguments : List Item → List Value → List Value
  | [], _ => []
  | item :: rest, args =>
    (textArgument? item args).toList ++ textArguments rest (renderItem (fun _ => []) item args).2

/-- Whether the text of a number under a number format asks for itself: the format is made
use of, and writes the number with `%s`.  Then there is no text, and asking for it never ends. -/
def endless (format : String) (x : Double) : Bool :=
  !x.writesItself && !(textArguments (items format.toList) [.num x]).isEmpty

/-- The text of a number under a number format, which is made use of unless the number is an
integer below `10 ^ 16`.  Where asking for the text never ends, what stands here is nobody's
answer: evaluation stops before it asks. -/
def numberChars (format : String) (x : Double) : List Char :=
  match x.view with
  | .notANumber => if x.signBit then "-nan".toList else "nan".toList
  | .infinite negative => if negative then "-inf".toList else "inf".toList
  | .finite d =>
    if d.isInteger && d.wholePart < 10000000000000000 then
      if d.negative && d.wholePart ≠ 0 then '-' :: Number.digits d.wholePart
      else Number.digits d.wholePart
    else render (fun _ => []) (items format.toList) [.num x]

def numberText (format : String) (x : Double) : String := String.ofList (numberChars format x)

end Format

/-- Formats arguments; numbers that `%s` writes use the number format
`numberFormat`. -/
def sprintf (format : String) (args : List Value) (numberFormat : String) : String :=
  String.ofList
    (Format.render (Format.numberChars numberFormat) (Format.items format.toList) args)

end Awk
