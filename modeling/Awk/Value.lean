import Awk.Format

namespace Awk
namespace Value

/-- The text of a value; numbers that are not integers are written with `format`. -/
def toText (format : String) : Value → String
  | uninit => ""
  | num x => Format.numberText format x
  | str s | numStr s _ => s

/-- Whether asking for the text of a value comes to an end. -/
def hasText (format : String) : Value → Bool
  | num x => !Format.endless format x
  | _ => true

theorem hasText_ofText (format s : String) : (ofText s).hasText format = true := by
  unfold ofText
  split <;> rfl

/-- The text of a value with six digits. -/
def text (v : Value) : String := v.toText Format.defaultNumberFormat

/-- By number when both sides compare as numbers, else by text, character by
character.  What is not a number equals everything. -/
def compare (a b : Value) : Ordering :=
  if a.comparesNumerically && b.comparesNumerically then
    (Double.compare? a.toNumber b.toNumber).getD .eq
  else Ord.compare a.text b.text

/-- The order of sorting: numbers before texts, numbers by value, texts character
by character.  Unlike comparison it is total. -/
def sortOrder (a b : Value) : Ordering :=
  match a.comparesNumerically, b.comparesNumerically with
  | true, true => Ord.compare a.toNumber.orderKey b.toNumber.orderKey
  | true, false => .lt
  | false, true => .gt
  | false, false => Ord.compare a.text b.text

end Value
end Awk
