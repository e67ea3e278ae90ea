import Awk.Evaluation.Target
import Awk.Substitution
import Awk.Text.Case
import Awk.Text.Substring

/-!
# Built-in functions
-/

namespace Awk
namespace Builtin

open Eval

/-- The array that an argument names. -/
def arrayName (b : Builtin) : Expr → Eval String
  | .var name _ => return name
  | .group inner _ => arrayName b inner
  | e => failAt (.argumentNotArray b) e.place

def callLength (self : Meaning) : Option Expr → Eval Value
  | none => return .ofNat (← scope).record.text.length
  | some (.var name place) => do
    if (← scope).isArray name then return .ofNat (← onScope (Scope.arraySize name))
    else return .ofNat (← self.text (.var name place)).length
  | some e => return .ofNat (← self.text e).length

def callSubstr (self : Meaning) (s start : Expr) (length : Option Expr) : Eval Value := do
  let s ← self.text s
  let start ← self.number start
  match length with
  | none => return .ofText (Text.substring s start none)
  | some e => return .ofText (Text.substring s start (some (← self.number e)))

def callIndex (self : Meaning) (s word : Expr) : Eval Value := do
  let s ← self.text s
  let word ← self.text word
  match Text.indexOf? word.toList s.toList with
  | some i => return .ofNat (i + 1)
  | none => return .ofNat 0

/-- How `split` divides: as it is told, or like a record. -/
def splitterOf (self : Meaning) : Option Expr → Eval FieldSplitter
  | some (.regex pattern _) => return .regex (← regexOf pattern)
  | some e => do
    let fs ← self.text e
    ofExcept (FieldSplitter.ofSeparator fs (← scope).ignoresCase)
  | none => return (← scope).splitter

def callSplit (self : Meaning) (s array : Expr) (separator : Option Expr) : Eval Value := do
  let s ← self.text s
  let name ← arrayName .split array
  let splitter ← splitterOf self separator
  let pieces := splitter.split s
  let id ← onScope (Scope.arrayId name)
  onScope (Scope.fillArray id (pieces.map .ofText))
  return .ofNat pieces.length

/-- What a substitution changes, the record unless it is told otherwise. -/
def substitutionTarget (self : Meaning) (b : Builtin) : Option Expr → Eval Target
  | none => return .field 0
  | some e =>
    if e.isAssignable then Target.resolve self e else failAt (.targetNotAssignable b) e.place

/-- Replaces the first match, or all of them.  Without a match nothing is written. -/
def callSubstitute (self : Meaning) (b : Builtin) (everywhere : Bool)
    (pattern replacement : Expr) (target : Option Expr) : Eval Value := do
  let pattern ← self.pattern pattern
  let replacement ← self.text replacement
  let target ← substitutionTarget self b target
  let text ← textOf (← target.read)
  let re ← regexOf pattern
  let (result, count) := Substitution.substitute re everywhere text replacement
  if 0 < count then target.write (.ofText result)
  return .ofNat count

/-- Position and length of the first match, for `RSTART` and `RLENGTH`. -/
def matchPosition (re : Regex) (s : String) : Double × Double :=
  match re.find? s.toList with
  | some m => (Double.ofNat m.start + 1.0, Double.ofNat (m.stop - m.start))
  | none => (0.0, -1.0)

def callMatch (self : Meaning) (s pattern : Expr) : Eval Value := do
  let s ← self.text s
  let pattern ← self.pattern pattern
  let (rstart, rlength) := matchPosition (← regexOf pattern) s
  modifyScope fun scope => { scope with rstart, rlength }
  return .num rstart

def callSprintf (self : Meaning) (format : Expr) (args : List Expr) : Eval Value := do
  let format ← self.text format
  let values ← self.values args
  return .ofText (← formatted format values)

def callRand : Eval Value := fun m =>
  let (x, random) := m.random.next
  .ok (.num x) { m with random }

/-- Sets a new seed and tells the old one. -/
def callSrand (self : Meaning) (seed : Option Expr) : Eval Value := do
  let previous := (← get).seed
  let seed ←
    match seed with
    | some e => self.number e
    | none => pure (← get).world.clock
  modify (Machine.setSeed seed)
  return .num previous

/-- Replaces the elements of an array by a list made from them, numbered from one. -/
def renumber (b : Builtin) (array : Expr) (listed : Table → List Value) : Eval Value := do
  let id ← onScope (Scope.arrayId (← arrayName b array))
  let values := listed ((← scope).table id)
  onScope (Scope.fillArray id values)
  return .ofNat values.length

/-- The values of a table in sorted order.  They are taken in the order of `enumerate`, in which
those that are equal stay. -/
def sortedValues (enumerate : Table → List Value) (t : Table) : List Value :=
  (enumerate t).mergeSort fun a b => a.sortOrder b != .gt

/-- The keys of a table in order, as values.  They are taken in the order of `enumerate`. -/
def sortedKeys (enumerate : Table → List String) (t : Table) : List Value :=
  ((enumerate t).mergeSort fun a b => compare a b != .gt).map .ofText

/-- Numbers the values of an array anew in sorted order. -/
def callAsort (array : Expr) : Eval Value :=
  renumber .asort array (sortedValues fun t => t.values)

/-- Replaces the elements of an array by its keys in order. -/
def callAsorti (array : Expr) : Eval Value :=
  renumber .asorti array (sortedKeys fun t => t.keys)

def callClose (self : Meaning) (name : Expr) : Eval Value := do
  let name ← self.text name
  if (← get).opened.contains name then
    modify fun m => { m with opened := m.opened.erase name }
    return .num 0.0
  else return .num (-1.0)

def callNumeric (self : Meaning) (f : Double → Double) (e : Expr) : Eval Value :=
  return .num (f (← self.number e))

/-- A call with a number of arguments that the function takes. -/
def dispatch (self : Meaning) (b : Builtin) (args : List Expr) (place : Location) : Eval Value :=
  match b, args with
  | .length, args => callLength self args.head?
  | .substr, s :: start :: more => callSubstr self s start more.head?
  | .index, [s, word] => callIndex self s word
  | .split, s :: array :: more => callSplit self s array more.head?
  | .sub, pattern :: replacement :: more =>
    callSubstitute self .sub false pattern replacement more.head?
  | .gsub, pattern :: replacement :: more =>
    callSubstitute self .gsub true pattern replacement more.head?
  | .matchFirst, [s, pattern] => callMatch self s pattern
  | .sprintf, format :: args => callSprintf self format args
  | .toLower, [s] => return .ofText (Text.toLower (← self.text s))
  | .toUpper, [s] => return .ofText (Text.toUpper (← self.text s))
  | .sin, [x] => callNumeric self (.map Float.sin) x
  | .cos, [x] => callNumeric self (.map Float.cos) x
  | .exp, [x] => callNumeric self (.map Float.exp) x
  | .log, [x] => callNumeric self (.map Float.log) x
  | .sqrt, [x] => callNumeric self (.map Float.sqrt) x
  | .int, [x] => callNumeric self Double.truncate x
  | .atan2, [y, x] => do
    let y ← self.number y
    let x ← self.number x
    return .num (.map₂ Float.atan2 y x)
  | .rand, _ => callRand
  | .srand, args => callSrand self args.head?
  | .asort, [array] => callAsort array
  | .asorti, [array] => callAsorti array
  | .fflush, _ => do
    flush
    return .num 0.0
  | .close, [name] => callClose self name
  | b, args => failAt (.wrongArity b args.length) place

def call (self : Meaning) (b : Builtin) (args : List Expr) (place : Location) : Eval Value :=
  if b.arity.accepts args.length then dispatch self b args place
  else failAt (.wrongArity b args.length) place

end Builtin
end Awk
