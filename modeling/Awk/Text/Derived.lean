import Awk.Text.Case

/-!
# Derived properties of characters

Properties that version 16 of the Unicode standard derives from the categories, the
case pairs and the listed properties.
-/

namespace Awk
namespace Text

namespace Property

/-- Code points whose category is another since version 17, and the one they had. -/
def formerCategories : List (CodeRange × Category) := [
  ((0x295, 0x295), .ll), ((0x88f, 0x88f), .cn), ((0xc5c, 0xc5c), .cn), ((0xcdc, 0xcdc), .cn),
  ((0x1acf, 0x1add), .cn), ((0x1ae0, 0x1aeb), .cn), ((0x20c1, 0x20c1), .cn),
  ((0x2b96, 0x2b96), .cn), ((0xa7ce, 0xa7cf), .cn), ((0xa7d2, 0xa7d2), .cn),
  ((0xa7d4, 0xa7d4), .cn), ((0xa7f1, 0xa7f1), .cn), ((0xfbc3, 0xfbd2), .cn),
  ((0xfd90, 0xfd91), .cn), ((0xfdc8, 0xfdce), .cn), ((0x10940, 0x10959), .cn),
  ((0x10ec5, 0x10ec7), .cn), ((0x10ed0, 0x10ed8), .cn), ((0x10efa, 0x10efb), .cn),
  ((0x11b60, 0x11b67), .cn), ((0x11db0, 0x11ddb), .cn), ((0x11de0, 0x11de9), .cn),
  ((0x16ea0, 0x16eb8), .cn), ((0x16ebb, 0x16ed3), .cn), ((0x16ff2, 0x16ff6), .cn),
  ((0x187f8, 0x187ff), .cn), ((0x18d09, 0x18d1e), .cn), ((0x18d80, 0x18df2), .cn),
  ((0x1ccfa, 0x1ccfc), .cn), ((0x1ceba, 0x1ced0), .cn), ((0x1cee0, 0x1cef0), .cn),
  ((0x1e6c0, 0x1e6de), .cn), ((0x1e6e0, 0x1e6f5), .cn), ((0x1e6fe, 0x1e6ff), .cn),
  ((0x1f6d8, 0x1f6d8), .cn), ((0x1f777, 0x1f77a), .cn), ((0x1f8d0, 0x1f8d8), .cn),
  ((0x1fa54, 0x1fa57), .cn), ((0x1fa8a, 0x1fa8a), .cn), ((0x1fa8e, 0x1fa8e), .cn),
  ((0x1fac8, 0x1fac8), .cn), ((0x1facd, 0x1facd), .cn), ((0x1faea, 0x1faea), .cn),
  ((0x1faef, 0x1faef), .cn), ((0x1fbfa, 0x1fbfa), .cn), ((0x2b73a, 0x2b73f), .cn),
  ((0x2cea2, 0x2cead), .cn), ((0x323b0, 0x33479), .cn)]

/-- The characters of some categories. -/
def ofCategories (p : Category → Bool) : CharSet :=
  let changed := CharSet.ofRanges (formerCategories.map (·.1))
  let back := CharSet.ofRanges ((formerCategories.filter fun e => p e.2).map (·.1))
  ((CharSet.ofRuns Category.runs p).diff changed).union back

/-- The characters of one category. -/
def ofCategory (k : Category) : CharSet := ofCategories (· == k)

def unassigned : CharSet := ofCategory .cn

def lowercase : CharSet := (ofCategory .ll).union otherLowercase

def uppercase : CharSet := (ofCategory .lu).union otherUppercase

def cased : CharSet := (lowercase.union uppercase).union (ofCategory .lt)

def alphabetic : CharSet :=
  (ofCategories fun k => k.isLetter || k == .nl).union otherAlphabetic

def math : CharSet := (ofCategory .sm).union otherMath

def graphemeExtend : CharSet :=
  (ofCategories fun k => k == .mn || k == .me).union otherGraphemeExtend

def graphemeBase : CharSet :=
  ((ofCategories fun k => k.isOther || k == .zl || k == .zp).union graphemeExtend).compl

def defaultIgnorable : CharSet :=
  let hidden := (otherDefaultIgnorable.union (ofCategory .cf)).union variationSelector
  let shown := CharSet.ofRanges [(0xfff9, 0xfffb), (0x13430, 0x13440)]
  ((hidden.diff whiteSpace).diff shown).diff prependedConcatenationMark

def idStart : CharSet :=
  let letters := (ofCategories fun k => k.isLetter || k == .nl).union otherIDStart
  (letters.diff patternSyntax).diff patternWhiteSpace

def idContinue : CharSet :=
  let more := (ofCategories fun k => k == .mn || k == .mc || k == .nd || k == .pc).union
    otherIDContinue
  ((idStart.union more).diff patternSyntax).diff patternWhiteSpace

/-- Characters that stop continuing an identifier when their compatibility forms
replace them. -/
def unstableContinue : CharSet := ⟨#[
  (0x37a, 0x37a), (0x309b, 0x309c), (0xfc5e, 0xfc63), (0xfdfa, 0xfdfb), (0xfe70, 0xfe70),
  (0xfe72, 0xfe72), (0xfe74, 0xfe74), (0xfe76, 0xfe76), (0xfe78, 0xfe78), (0xfe7a, 0xfe7a),
  (0xfe7c, 0xfe7c), (0xfe7e, 0xfe7e)]⟩

/-- The same for characters that start one. -/
def unstableStart : CharSet :=
  unstableContinue.union ⟨#[(0xe33, 0xe33), (0xeb3, 0xeb3), (0xff9e, 0xff9f)]⟩

def xidStart : CharSet := idStart.diff unstableStart

def xidContinue : CharSet := idContinue.diff unstableContinue

/-- Punctuation that may stand inside a word. -/
def midWord : CharSet := ⟨#[
  (0x27, 0x27), (0x2e, 0x2e), (0x3a, 0x3a), (0xb7, 0xb7), (0x387, 0x387), (0x55f, 0x55f),
  (0x5f4, 0x5f4), (0x2018, 0x2019), (0x2024, 0x2024), (0x2027, 0x2027), (0xfe13, 0xfe13),
  (0xfe52, 0xfe52), (0xfe55, 0xfe55), (0xff07, 0xff07), (0xff0e, 0xff0e), (0xff1a, 0xff1a)]⟩

def caseIgnorable : CharSet :=
  (ofCategories fun k => k == .mn || k == .me || k == .cf || k == .lm || k == .sk).union midWord

/-! ## Changes of case -/

/-- The code points that runs map, where both the code point and its image are
assigned. -/
def mapped (runs : List CaseRun) : CharSet :=
  let isAssigned (n : Nat) : Bool := !unassigned.contains (Char.ofNat n)
  .ofRanges (runs.flatMap fun r =>
    (r.members.filter fun (n : Nat) =>
      isAssigned n && isAssigned ((n : Int) + r.shift).toNat).map fun n => (n, n))

/-- The capital I with a dot has a lowercase form of two characters. -/
def changesWhenLowercased : CharSet := (mapped CaseRun.lower).union ⟨#[(0x130, 0x130)]⟩

def changesWhenUppercased : CharSet :=
  (mapped CaseRun.upper).union (.ofRanges (CaseRun.upperExpansions.map fun e => (e.1, e.1)))

/-- Digraphs have a form between capital and small, and some letters keep their form
at the head of a word. -/
def changesWhenTitlecased : CharSet :=
  let kept : CharSet := ⟨#[
    (0x1c5, 0x1c5), (0x1c8, 0x1c8), (0x1cb, 0x1cb), (0x1f2, 0x1f2), (0x10d0, 0x10fa),
    (0x10fd, 0x10ff), (0x1f88, 0x1f8f), (0x1f98, 0x1f9f), (0x1fa8, 0x1faf), (0x1fbc, 0x1fbc),
    (0x1fcc, 0x1fcc), (0x1ffc, 0x1ffc)]⟩
  (changesWhenUppercased.diff kept).union
    ⟨#[(0x1c4, 0x1c4), (0x1c7, 0x1c7), (0x1ca, 0x1ca), (0x1f1, 0x1f1)]⟩

def changesWhenCasemapped : CharSet :=
  (changesWhenLowercased.union changesWhenUppercased).union changesWhenTitlecased

/-- Folding replaces capitals by small letters, but small Cherokee letters by
capitals, and it replaces variants of small letters. -/
def changesWhenCasefolded : CharSet :=
  (changesWhenLowercased.diff ⟨#[(0x13a0, 0x13f5)]⟩).union ⟨#[
    (0xb5, 0xb5), (0xdf, 0xdf), (0x149, 0x149), (0x17f, 0x17f), (0x345, 0x345),
    (0x3c2, 0x3c2), (0x3d0, 0x3d1), (0x3d5, 0x3d6), (0x3f0, 0x3f1), (0x3f5, 0x3f5),
    (0x587, 0x587), (0x13f8, 0x13fd), (0x1c80, 0x1c88), (0x1e9a, 0x1e9b), (0x1f80, 0x1f87),
    (0x1f90, 0x1f97), (0x1fa0, 0x1fa7), (0x1fb2, 0x1fb4), (0x1fb7, 0x1fb7),
    (0x1fc2, 0x1fc4), (0x1fc7, 0x1fc7), (0x1ff2, 0x1ff4), (0x1ff7, 0x1ff7),
    (0xab70, 0xabbf), (0xfb00, 0xfb06), (0xfb13, 0xfb17)]⟩

/-! ## Words and digits -/

def decimalDigit : CharSet := ofCategory .nd

/-- Letters, marks, decimal digits, letter numbers, connectors and the two
joiners. -/
def word : CharSet :=
  (alphabetic.union (ofCategories fun k => k.isMark || k == .nd || k == .pc)).union joinControl

end Property
end Text
end Awk
