import Awk.Text.CategoryRuns
import Awk.Text.Property

/-!
# Character classes

Each class is a union of general categories and a short list of further ranges, as of
version 17 of the Unicode standard.  ASCII characters are settled without a look at
the category table.
-/

namespace Awk
namespace Text

/-- The general category of a character. -/
def category (c : Char) : Category :=
  let i := locate Category.runs c.toNat 16 0 Category.runs.size
  match Category.runs[i]? with
  | some (_, k) => k
  | none => .cn

def inRanges (ranges : List (Nat × Nat)) (c : Char) : Bool :=
  ranges.any fun (first, last) => first ≤ c.toNat && c.toNat ≤ last

/-- White space: the blank and the controls from tab to carriage return, and the
spaces and separators beyond ASCII. -/
def isWhiteSpace (c : Char) : Bool :=
  inRanges [(0x9, 0xd), (0x20, 0x20), (0x85, 0x85), (0xa0, 0xa0), (0x1680, 0x1680),
    (0x2000, 0x200a), (0x2028, 0x2029), (0x202f, 0x202f), (0x205f, 0x205f), (0x3000, 0x3000)] c

def isAsciiLetter (c : Char) : Bool := ('a' ≤ c && c ≤ 'z') || ('A' ≤ c && c ≤ 'Z')

def isAsciiDigit (c : Char) : Bool := '0' ≤ c && c ≤ '9'

/-- Characters of names: ASCII letters, digits and the underscore. -/
def isNameChar (c : Char) : Bool := isAsciiLetter c || isAsciiDigit c || c == '_'

/-- Letters, letter numbers, and the marks and signs that are used like letters. -/
def isAlphabetic (c : Char) : Bool :=
  if c.toNat < 0x80 then isAsciiLetter c
  else
    let k := category c
    k.isLetter || k == .nl || Property.otherAlphabetic.contains c ||
      inRanges [(0x10efa, 0x10efb), (0x11b60, 0x11b67), (0x1e6e3, 0x1e6e3), (0x1e6e6, 0x1e6e6),
        (0x1e6ee, 0x1e6ef), (0x1e6f5, 0x1e6f5)] c

/-- Characters with a case, or that are forms of a cased letter. -/
def isCased (c : Char) : Bool :=
  if c.toNat < 0x80 then isAsciiLetter c
  else
    let k := category c
    k == .lu || k == .ll || k == .lt ||
      inRanges [(0xaa, 0xaa), (0xba, 0xba), (0x2b0, 0x2b8), (0x2c0, 0x2c1), (0x2e0, 0x2e4),
        (0x345, 0x345), (0x37a, 0x37a), (0x10fc, 0x10fc), (0x1d2c, 0x1d6a), (0x1d78, 0x1d78),
        (0x1d9b, 0x1dbf), (0x2071, 0x2071), (0x207f, 0x207f), (0x2090, 0x209c),
        (0x2160, 0x217f), (0x24b6, 0x24e9), (0x2c7c, 0x2c7d), (0xa69c, 0xa69d),
        (0xa770, 0xa770), (0xa7f1, 0xa7f4), (0xa7f8, 0xa7f9), (0xab5c, 0xab5f),
        (0xab69, 0xab69), (0x10780, 0x10780), (0x10783, 0x10785), (0x10787, 0x107b0),
        (0x107b2, 0x107ba), (0x1e030, 0x1e06d), (0x1f130, 0x1f149), (0x1f150, 0x1f169),
        (0x1f170, 0x1f189)] c

/-- Characters that a search for the nearest cased letter passes over: marks,
format controls, modifiers and the punctuation that may stand inside a word. -/
def isCaseIgnorable (c : Char) : Bool :=
  let k := category c
  k == .mn || k == .me || k == .cf || k == .lm || k == .sk ||
    inRanges [(0x27, 0x27), (0x2e, 0x2e), (0x3a, 0x3a), (0xb7, 0xb7), (0x387, 0x387),
      (0x55f, 0x55f), (0x5f4, 0x5f4), (0x2018, 0x2019), (0x2024, 0x2024), (0x2027, 0x2027),
      (0xfe13, 0xfe13), (0xfe52, 0xfe52), (0xfe55, 0xfe55), (0xff07, 0xff07),
      (0xff0e, 0xff0e), (0xff1a, 0xff1a)] c

/-- Marks that are drawn as part of the character before them. -/
def extendsGrapheme (c : Char) : Bool :=
  let k := category c
  k == .mn || k == .me ||
    inRanges [(0x9be, 0x9be), (0x9d7, 0x9d7), (0xb3e, 0xb3e), (0xb57, 0xb57), (0xbbe, 0xbbe),
      (0xbd7, 0xbd7), (0xcc0, 0xcc0), (0xcc2, 0xcc2), (0xcc7, 0xcc8), (0xcca, 0xccb),
      (0xcd5, 0xcd6), (0xd3e, 0xd3e), (0xd57, 0xd57), (0xdcf, 0xdcf), (0xddf, 0xddf),
      (0x1715, 0x1715), (0x1734, 0x1734), (0x1b35, 0x1b35), (0x1b3b, 0x1b3b),
      (0x1b3d, 0x1b3d), (0x1b43, 0x1b44), (0x1baa, 0x1baa), (0x1bf2, 0x1bf3),
      (0x200c, 0x200c), (0x302e, 0x302f), (0xa953, 0xa953), (0xa9c0, 0xa9c0),
      (0x111c0, 0x111c0), (0x11235, 0x11235), (0x1133e, 0x1133e), (0x1134d, 0x1134d),
      (0x11357, 0x11357), (0x113b8, 0x113b8), (0x113c2, 0x113c2),
      (0x113c5, 0x113c5), (0x113c7, 0x113c9), (0x113cf, 0x113cf), (0x114b0, 0x114b0),
      (0x114bd, 0x114bd), (0x115af, 0x115af), (0x116b6, 0x116b6), (0x11930, 0x11930),
      (0x1193d, 0x1193d), (0x11f41, 0x11f41), (0x16ff0, 0x16ff1), (0x1d165, 0x1d166),
      (0x1d16d, 0x1d172), (0xe0020, 0xe007f)] c

/-- The letters that only hold a place in a Hangul syllable. -/
def isFiller (c : Char) : Bool :=
  inRanges [(0x115f, 0x1160), (0x3164, 0x3164), (0xffa0, 0xffa0)] c

/-- Characters that leave a mark on paper, and the blank. -/
def isPrintable (c : Char) : Bool :=
  if c.toNat < 0x80 then 0x20 ≤ c.toNat && c.toNat < 0x7f
  else
    let k := category c
    !(k.isOther || k.isSeparator || isFiller c)

/-- Drops white space from the front. -/
def trimStart (cs : List Char) : List Char := cs.dropWhile isWhiteSpace

/-- Drops the characters of a class from both ends. -/
def trimBoth (p : Char → Bool) (cs : List Char) : List Char :=
  ((cs.dropWhile p).reverse.dropWhile p).reverse

/-- Whether one text occurs inside another. -/
def contains (cs : List Char) (word : List Char) : Bool :=
  word.isPrefixOf cs ||
    match cs with
    | [] => false
    | _ :: rest => contains rest word

end Text
end Awk
