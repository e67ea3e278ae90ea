import Awk.Text.Derived
import Awk.Text.ScriptRanges

/-!
# Classes of the segmentation rules

Version 16 of the Unicode standard divides a text into graphemes, words and sentences
by rules over three partitions of the characters.
-/

namespace Awk
namespace Text

open Property

/-- The zero width joiner. -/
def joiner : CharSet := .single (Char.ofNat 0x200d)

/-- Spacing marks and all that extends a grapheme. -/
def anyExtend : CharSet := graphemeExtend.union (ofCategory .mc)

/-- Format characters that neither join nor extend. -/
def plainFormat : CharSet :=
  ((ofCategory .cf).diff ⟨#[(0x200c, 0x200d)]⟩).diff graphemeExtend

/-! ## Graphemes -/

namespace GraphemeBreak

def control : CharSet :=
  let special := ofCategories fun k => k == .zl || k == .zp || k == .cc || k == .cf
  let reserved := unassigned.inter defaultIgnorable
  let kept := (CharSet.ofRanges [(0xa, 0xa), (0xd, 0xd), (0x200c, 0x200d)]).union
    (prependedConcatenationMark.union graphemeExtend)
  (special.union reserved).diff kept

def extend : CharSet := graphemeExtend.union emojiModifier

/-- Marks that follow a letter and take room of their own.  Some marks of Myanmar and
its neighbours stand apart. -/
def spacingMark : CharSet :=
  let apart : CharSet := ⟨#[
    (0x102b, 0x102c), (0x1038, 0x1038), (0x1062, 0x1064), (0x1067, 0x106d), (0x1083, 0x1083),
    (0x1087, 0x108c), (0x108f, 0x108f), (0x109a, 0x109c), (0x1a61, 0x1a61), (0x1a63, 0x1a64),
    (0xaa7b, 0xaa7b), (0xaa7d, 0xaa7d), (0x11720, 0x11721)]⟩
  (((ofCategory .mc).diff graphemeExtend).diff apart).union
    ⟨#[(0xe33, 0xe33), (0xeb3, 0xeb3)]⟩

/-- Characters that are drawn together with what follows. -/
def prepend : CharSet :=
  prependedConcatenationMark.union ⟨#[
    (0xd4e, 0xd4e), (0x111c2, 0x111c3), (0x113d1, 0x113d1), (0x1193f, 0x1193f),
    (0x11941, 0x11941), (0x11a3a, 0x11a3a), (0x11a84, 0x11a89), (0x11d46, 0x11d46),
    (0x11f02, 0x11f02)]⟩

def hangulLeading : CharSet := ⟨#[(0x1100, 0x115f), (0xa960, 0xa97c)]⟩

def hangulVowel : CharSet :=
  ⟨#[(0x1160, 0x11a7), (0xd7b0, 0xd7c6), (0x16d63, 0x16d63), (0x16d67, 0x16d6a)]⟩

def hangulTrailing : CharSet := ⟨#[(0x11a8, 0x11ff), (0xd7cb, 0xd7fb)]⟩

/-- Every block of 28 syllables starts with the one that has no trailing consonant. -/
def hangulOpen : CharSet :=
  .ofRanges ((List.range 399).map fun i => (0xac00 + 28 * i, 0xac00 + 28 * i))

def hangulClosed : CharSet :=
  .ofRanges ((List.range 399).map fun i => (0xac01 + 28 * i, 0xac1b + 28 * i))

end GraphemeBreak

/-! ## Words -/

namespace WordBreak

def newline : CharSet := ⟨#[(0xb, 0xc), (0x85, 0x85), (0x2028, 0x2029)]⟩

def extend : CharSet := anyExtend.union emojiModifier

def format : CharSet := (plainFormat.diff ⟨#[(0x200b, 0x200b)]⟩).diff prependedConcatenationMark

def katakana : CharSet :=
  Script.katakana.chars.union ⟨#[
    (0x3031, 0x3035), (0x309b, 0x309c), (0x30a0, 0x30a0), (0x30fc, 0x30fc), (0xff70, 0xff70)]⟩

def hebrewLetter : CharSet := Script.hebrew.chars.inter (ofCategory .lo)

/-- Scripts that write no blank between words. -/
def unspaced : CharSet :=
  .unionAll ([Script.thai, .lao, .myanmar, .khmer, .taiLe, .newTaiLue, .taiTham, .taiViet,
    .ahom, .hiragana].map Script.chars)

/-- Letters of scripts that write blanks between words, and signs that are used like
letters. -/
def letter : CharSet :=
  let others := .unionAll [ideographic, katakana, hebrewLetter, unspaced, extend]
  (alphabetic.diff others).union ⟨#[
    (0x2c2, 0x2c5), (0x2d2, 0x2d7), (0x2de, 0x2df), (0x2e5, 0x2eb), (0x2ed, 0x2ed),
    (0x2ef, 0x2ff), (0x55a, 0x55c), (0x55e, 0x55e), (0x58a, 0x58a), (0x5f3, 0x5f3),
    (0x70f, 0x70f), (0xa708, 0xa716), (0xa720, 0xa721), (0xa789, 0xa78a), (0xab5b, 0xab5b)]⟩

def midLetter : CharSet := ⟨#[
  (0x3a, 0x3a), (0xb7, 0xb7), (0x387, 0x387), (0x55f, 0x55f), (0x5f4, 0x5f4), (0x2027, 0x2027),
  (0xfe13, 0xfe13), (0xfe55, 0xfe55), (0xff1a, 0xff1a)]⟩

def midNumber : CharSet := ⟨#[
  (0x2c, 0x2c), (0x3b, 0x3b), (0x37e, 0x37e), (0x589, 0x589), (0x60c, 0x60d), (0x66c, 0x66c),
  (0x7f8, 0x7f8), (0x2044, 0x2044), (0xfe50, 0xfe50), (0xfe54, 0xfe54), (0xff0c, 0xff0c),
  (0xff1b, 0xff1b)]⟩

def midNumberLetter : CharSet := ⟨#[
  (0x2e, 0x2e), (0x2018, 0x2019), (0x2024, 0x2024), (0xfe52, 0xfe52), (0xff07, 0xff07),
  (0xff0e, 0xff0e)]⟩

def numeric : CharSet :=
  (ofCategory .nd).union ⟨#[
    (0x600, 0x605), (0x66b, 0x66b), (0x6dd, 0x6dd), (0x890, 0x891), (0x8e2, 0x8e2),
    (0x19da, 0x19da), (0x110bd, 0x110bd), (0x110cd, 0x110cd)]⟩

def connector : CharSet := (ofCategory .pc).union ⟨#[(0x202f, 0x202f)]⟩

def space : CharSet := ⟨#[
  (0x20, 0x20), (0x1680, 0x1680), (0x2000, 0x2006), (0x2008, 0x200a), (0x205f, 0x205f),
  (0x3000, 0x3000)]⟩

end WordBreak

/-! ## Sentences -/

namespace SentenceBreak

def separator : CharSet := ⟨#[(0x85, 0x85), (0x2028, 0x2029)]⟩

def space : CharSet := (whiteSpace.diff separator).diff ⟨#[(0xa, 0xa), (0xd, 0xd)]⟩

def extend : CharSet := anyExtend.union joiner

def format : CharSet :=
  (plainFormat.diff prependedConcatenationMark).union ⟨#[(0x70f, 0x70f)]⟩

/-- Modern Georgian does without capitals. -/
def lower : CharSet :=
  (lowercase.diff graphemeExtend).diff ⟨#[(0x10d0, 0x10fa), (0x10fd, 0x10ff)]⟩

def upper : CharSet :=
  (uppercase.union (ofCategory .lt)).diff ⟨#[(0x1c90, 0x1cba), (0x1cbd, 0x1cbf)]⟩

def letter : CharSet :=
  (alphabetic.diff (.unionAll [lower, upper, extend])).union ⟨#[(0x5f3, 0x5f3)]⟩

def numeric : CharSet := WordBreak.numeric.union ⟨#[(0x66c, 0x66c)]⟩

/-- Full stops, which also mark abbreviations. -/
def stop : CharSet :=
  ⟨#[(0x2e, 0x2e), (0x2024, 0x2024), (0xfe52, 0xfe52), (0xff0e, 0xff0e)]⟩

def terminator : CharSet := sentenceTerminal.diff stop

def close : CharSet :=
  (ofCategories fun k => k == .ps || k == .pe || k == .pi || k == .pf).union ⟨#[
    (0x22, 0x22), (0x27, 0x27), (0x275b, 0x2760), (0x2e00, 0x2e01), (0x2e06, 0x2e08),
    (0x2e0b, 0x2e0b), (0x1f676, 0x1f678)]⟩

def continuation : CharSet := ⟨#[
  (0x2c, 0x2d), (0x3a, 0x3b), (0x37e, 0x37e), (0x55d, 0x55d), (0x60c, 0x60d), (0x7f8, 0x7f8),
  (0x1802, 0x1802), (0x1808, 0x1808), (0x2013, 0x2014), (0x3001, 0x3001), (0xfe10, 0xfe11),
  (0xfe13, 0xfe14), (0xfe31, 0xfe32), (0xfe50, 0xfe51), (0xfe54, 0xfe55), (0xfe58, 0xfe58),
  (0xfe63, 0xfe63), (0xff0c, 0xff0d), (0xff1a, 0xff1b), (0xff64, 0xff64)]⟩

end SentenceBreak
end Text
end Awk
