import Awk.Text.CaseRuns
import Awk.Text.Class

/-!
# Letter case

Lowercase and uppercase forms of whole texts, and the families of characters that
caseless matching does not tell apart.
-/

namespace Awk
namespace Text

namespace CaseRun

def image? (r : CaseRun) (n : Nat) : Option Nat :=
  if r.first ≤ n ∧ n ≤ r.last ∧ (n - r.first) % r.step = 0 then
    some ((n : Int) + r.shift).toNat
  else none

def lookup (runs : List CaseRun) (n : Nat) : Nat := (runs.findSome? (·.image? n)).getD n

/-- The code points that a run maps. -/
def members (r : CaseRun) : List Nat :=
  (List.range ((r.last - r.first) / r.step + 1)).map fun i => r.first + i * r.step

end CaseRun

/-- The lowercase form of a character apart from its context. -/
def lowerChar (c : Char) : List Char :=
  if c.toNat < 0x80 then [if 'A' ≤ c ∧ c ≤ 'Z' then Char.ofNat (c.toNat + 32) else c]
  else if c.toNat = 0x130 then ['i', Char.ofNat 0x307]
  else [Char.ofNat (CaseRun.lookup CaseRun.lower c.toNat)]

/-- The uppercase form of a character, which may be several. -/
def upperChar (c : Char) : List Char :=
  if c.toNat < 0x80 then [if 'a' ≤ c ∧ c ≤ 'z' then Char.ofNat (c.toNat - 32) else c]
  else
    match CaseRun.upperExpansions.lookup c.toNat with
    | some ns => ns.map Char.ofNat
    | none => [Char.ofNat (CaseRun.lookup CaseRun.upper c.toNat)]

/-- Whether the first character that is not case-ignorable has a case. -/
def casedNext (cs : List Char) : Bool :=
  match cs.dropWhile isCaseIgnorable with
  | c :: _ => isCased c
  | [] => false

/-- A capital sigma that ends a word has a lowercase form of its own.  `before`
holds what precedes, nearest first. -/
def lowerFrom (before : List Char) : List Char → List Char
  | [] => []
  | c :: cs =>
    let form :=
      if c.toNat = 0x3a3 then
        [Char.ofNat (if casedNext before && !casedNext cs then 0x3c2 else 0x3c3)]
      else lowerChar c
    form ++ lowerFrom (c :: before) cs

def toLower (s : String) : String := String.ofList (lowerFrom [] s.toList)

def toUpper (s : String) : String := String.ofList (s.toList.flatMap upperChar)

namespace CaseRun

/-- Ranges moved by a shift. -/
def shifted (shift : Int) (s : CharSet) : CharSet :=
  ⟨s.ranges.map fun (first, last) => (((first : Int) + shift).toNat, ((last : Int) + shift).toNat)⟩

/-- The images of the members of a set. -/
def imageOf (r : CaseRun) (s : CharSet) : CharSet :=
  if r.step = 1 then shifted r.shift (s.inter ⟨#[(r.first, r.last)]⟩)
  else
    shifted r.shift (.ofRanges ((r.members.filter fun n => s.contains (Char.ofNat n)).map
      fun n => (n, n)))

/-- The code points whose images are members of a set. -/
def sourceOf (r : CaseRun) (s : CharSet) : CharSet :=
  if r.step = 1 then
    shifted (-r.shift) (s.inter (shifted r.shift ⟨#[(r.first, r.last)]⟩))
  else
    .ofRanges ((r.members.filter fun (n : Nat) =>
      s.contains (Char.ofNat ((n : Int) + r.shift).toNat)).map fun n => (n, n))

end CaseRun

namespace CharSet

/-- All characters that caseless matching takes for a member: first those that stand
for the families of members, then all of these families. -/
def caseless (s : CharSet) : CharSet :=
  let joined (s : CharSet) (more : List CharSet) : CharSet :=
    unionAll (s :: more.filter fun t => !t.isEmpty)
  let t := joined s (CaseRun.fold.map (·.imageOf s))
  joined t (CaseRun.fold.map (·.sourceOf t))

/-- Caseless among ASCII letters only. -/
def asciiCaseless (s : CharSet) : CharSet :=
  let lower := CaseRun.shifted 32 (s.inter (range 'A' 'Z'))
  let upper := CaseRun.shifted (-32) (s.inter (range 'a' 'z'))
  (s.union lower).union upper

end CharSet

/-- Equality that does not tell ASCII letters of different case apart. -/
def equalsIgnoringAsciiCase (s t : String) : Bool :=
  s.toList.map asciiLower == t.toList.map asciiLower
where
  asciiLower (c : Char) : Char :=
    if 'A' ≤ c ∧ c ≤ 'Z' then Char.ofNat (c.toNat + 32) else c

end Text
end Awk
