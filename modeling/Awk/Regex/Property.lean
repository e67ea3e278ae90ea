import Awk.Text.Age
import Awk.Text.Break
import Awk.Text.ScriptSharing

/-!
# Properties by name

A pattern names a set of characters by a category, a script or another property, with
or without a value.  Names are read without case, blanks, hyphens, underscores and
characters beyond ASCII.
-/

namespace Awk
namespace Regex
namespace Property

open Text (CharSet Script Age)
open Text.Property

open Text.Category in
/-- The general categories that a name stands for. -/
def categories? : String → Option (Text.Category → Bool)
  | "l" | "letter" => some isLetter
  | "lc" | "casedletter" => some fun k => k == lu || k == ll || k == lt
  | "lu" | "uppercaseletter" => some (· == lu)
  | "ll" | "lowercaseletter" => some (· == ll)
  | "lt" | "titlecaseletter" => some (· == lt)
  | "lm" | "modifierletter" => some (· == lm)
  | "lo" | "otherletter" => some (· == lo)
  | "m" | "mark" | "combiningmark" => some isMark
  | "mn" | "nonspacingmark" => some (· == mn)
  | "mc" | "spacingmark" => some (· == mc)
  | "me" | "enclosingmark" => some (· == me)
  | "n" | "number" => some isNumber
  | "nd" | "decimalnumber" | "digit" => some (· == nd)
  | "nl" | "letternumber" => some (· == nl)
  | "no" | "othernumber" => some (· == no)
  | "p" | "punctuation" | "punct" => some isPunctuation
  | "pc" | "connectorpunctuation" => some (· == pc)
  | "pd" | "dashpunctuation" => some (· == pd)
  | "ps" | "openpunctuation" => some (· == ps)
  | "pe" | "closepunctuation" => some (· == pe)
  | "pi" | "initialpunctuation" => some (· == pi)
  | "pf" | "finalpunctuation" => some (· == pf)
  | "po" | "otherpunctuation" => some (· == po)
  | "s" | "symbol" => some isSymbol
  | "sm" | "mathsymbol" => some (· == sm)
  | "sc" | "currencysymbol" => some (· == sc)
  | "sk" | "modifiersymbol" => some (· == sk)
  | "so" | "othersymbol" => some (· == so)
  | "z" | "separator" => some isSeparator
  | "zs" | "spaceseparator" => some (· == zs)
  | "zl" | "lineseparator" => some (· == zl)
  | "zp" | "paragraphseparator" => some (· == zp)
  | "c" | "other" => some isOther
  | "cc" | "control" | "cntrl" => some (· == cc)
  | "cf" | "format" => some (· == cf)
  | "co" | "privateuse" => some (· == co)
  | "cn" | "unassigned" => some (· == cn)
  | _ => none

/-- The characters of a category, or of one of three sets that are named like one. -/
def category? : String → Option CharSet
  | "any" => some .all
  | "ascii" => some ⟨#[(0, 0x7f)]⟩
  | "assigned" => some unassigned.compl
  | name => (categories? name).map ofCategories

/-- The characters of a property that holds or does not. -/
def binary? : String → Option CharSet
  | "ahex" | "asciihexdigit" => some asciiHexDigit
  | "alpha" | "alphabetic" => some alphabetic
  | "bidic" | "bidicontrol" => some bidiControl
  | "bidim" | "bidimirrored" => some bidiMirrored
  | "ci" | "caseignorable" => some caseIgnorable
  | "cased" => some cased
  | "cwcf" | "changeswhencasefolded" => some changesWhenCasefolded
  | "cwcm" | "changeswhencasemapped" => some changesWhenCasemapped
  | "cwl" | "changeswhenlowercased" => some changesWhenLowercased
  | "cwt" | "changeswhentitlecased" => some changesWhenTitlecased
  | "cwu" | "changeswhenuppercased" => some changesWhenUppercased
  | "dash" => some dash
  | "di" | "defaultignorablecodepoint" => some defaultIgnorable
  | "dep" | "deprecated" => some deprecated
  | "dia" | "diacritic" => some diacritic
  | "emoji" => some emoji
  | "ecomp" | "emojicomponent" => some emojiComponent
  | "emod" | "emojimodifier" => some emojiModifier
  | "ebase" | "emojimodifierbase" => some emojiModifierBase
  | "epres" | "emojipresentation" => some emojiPresentation
  | "extpict" | "extendedpictographic" => some extendedPictographic
  | "ext" | "extender" => some extender
  | "grbase" | "graphemebase" => some graphemeBase
  | "grext" | "graphemeextend" => some graphemeExtend
  | "grlink" | "graphemelink" => some graphemeLink
  | "hex" | "hexdigit" => some hexDigit
  | "hyphen" => some hyphen
  | "idsb" | "idsbinaryoperator" => some idsBinaryOperator
  | "idst" | "idstrinaryoperator" => some idsTrinaryOperator
  | "idsu" | "idsunaryoperator" => some idsUnaryOperator
  | "idcompatmathcontinue" => some idCompatMathContinue
  | "idcompatmathstart" => some idCompatMathStart
  | "idc" | "idcontinue" => some idContinue
  | "ids" | "idstart" => some idStart
  | "ideo" | "ideographic" => some ideographic
  | "joinc" | "joincontrol" => some joinControl
  | "loe" | "logicalorderexception" => some logicalOrderException
  | "lower" | "lowercase" => some lowercase
  | "math" => some math
  | "mcm" | "modifiercombiningmark" => some modifierCombiningMark
  | "nchar" | "noncharactercodepoint" => some noncharacter
  | "oalpha" | "otheralphabetic" => some otherAlphabetic
  | "odi" | "otherdefaultignorablecodepoint" => some otherDefaultIgnorable
  | "ogrext" | "othergraphemeextend" => some otherGraphemeExtend
  | "oidc" | "otheridcontinue" => some otherIDContinue
  | "oids" | "otheridstart" => some otherIDStart
  | "olower" | "otherlowercase" => some otherLowercase
  | "omath" | "othermath" => some otherMath
  | "oupper" | "otheruppercase" => some otherUppercase
  | "patsyn" | "patternsyntax" => some patternSyntax
  | "patws" | "patternwhitespace" => some patternWhiteSpace
  | "pcm" | "prependedconcatenationmark" => some prependedConcatenationMark
  | "qmark" | "quotationmark" => some quotationMark
  | "radical" => some radical
  | "ri" | "regionalindicator" => some regionalIndicator
  | "sterm" | "sentenceterminal" => some sentenceTerminal
  | "sd" | "softdotted" => some softDotted
  | "term" | "terminalpunctuation" => some terminalPunctuation
  | "uideo" | "unifiedideograph" => some unifiedIdeograph
  | "upper" | "uppercase" => some uppercase
  | "vs" | "variationselector" => some variationSelector
  | "space" | "wspace" | "whitespace" => some whiteSpace
  | "xidc" | "xidcontinue" => some xidContinue
  | "xids" | "xidstart" => some xidStart
  | _ => none

def carriageReturn : CharSet := .single '\r'

def lineFeed : CharSet := .single '\n'

open Text.GraphemeBreak in
def graphemeBreak? : String → Option CharSet
  | "cn" | "control" => some control
  | "cr" => some carriageReturn
  | "ex" | "extend" => some extend
  | "l" => some hangulLeading
  | "lf" => some lineFeed
  | "lv" => some hangulOpen
  | "lvt" => some hangulClosed
  | "pp" | "prepend" => some prepend
  | "ri" | "regionalindicator" => some regionalIndicator
  | "sm" | "spacingmark" => some spacingMark
  | "t" => some hangulTrailing
  | "v" => some hangulVowel
  | "zwj" => some Text.joiner
  | _ => none

open Text.WordBreak in
def wordBreak? : String → Option CharSet
  | "le" | "aletter" => some letter
  | "cr" => some carriageReturn
  | "dq" | "doublequote" => some (.single '"')
  | "extend" => some extend
  | "ex" | "extendnumlet" => some connector
  | "fo" | "format" => some format
  | "hl" | "hebrewletter" => some hebrewLetter
  | "ka" | "katakana" => some katakana
  | "lf" => some lineFeed
  | "ml" | "midletter" => some midLetter
  | "mn" | "midnum" => some midNumber
  | "mb" | "midnumlet" => some midNumberLetter
  | "nl" | "newline" => some newline
  | "nu" | "numeric" => some numeric
  | "ri" | "regionalindicator" => some regionalIndicator
  | "sq" | "singlequote" => some (.single '\'')
  | "wsegspace" => some space
  | "zwj" => some Text.joiner
  | _ => none

open Text.SentenceBreak in
def sentenceBreak? : String → Option CharSet
  | "at" | "aterm" => some stop
  | "cr" => some carriageReturn
  | "cl" | "close" => some close
  | "ex" | "extend" => some extend
  | "fo" | "format" => some format
  | "lf" => some lineFeed
  | "lo" | "lower" => some lower
  | "nu" | "numeric" => some numeric
  | "le" | "oletter" => some letter
  | "sc" | "scontinue" => some continuation
  | "st" | "sterm" => some terminator
  | "se" | "sep" => some separator
  | "sp" => some space
  | "up" | "upper" => some upper
  | _ => none

/-- The characters for which a property has a value. -/
def withValue? (property value : String) : Option CharSet :=
  match property with
  | "gc" | "generalcategory" => category? value
  | "sc" | "script" => (Script.ofName? value).map Script.chars
  | "scx" | "scriptextensions" => (Script.ofName? value).map Script.usedChars
  | "age" => Age.assigned? value
  | "gcb" | "graphemeclusterbreak" => graphemeBreak? value
  | "wb" | "wordbreak" => wordBreak? value
  | "sb" | "sentencebreak" => sentenceBreak? value
  | _ => none

/-- What a name alone stands for: a property that holds or does not, a category or a
script. -/
def named? (name : String) : Option CharSet :=
  binary? name <|> category? name <|> (Script.ofName? name).map Script.chars

/-- A name without case, separators and a leading `is`.  The name `isc` is kept, since
it is the short form of a property of its own. -/
def plainName (name : List Char) : String :=
  let plain (cs : List Char) : List Char :=
    (cs.filter fun c => c.toNat < 0x80 && !(c == ' ' || c == '_' || c == '-')).map Char.toLower
  match name with
  | i :: s :: rest =>
    if (i == 'i' || i == 'I') && (s == 's' || s == 'S') then
      if plain rest == ['c'] then "isc" else String.ofList (plain rest)
    else String.ofList (plain name)
  | name => String.ofList (plain name)

/-- What stands before and behind the first `!=`. -/
def splitUnequal? : List Char → Option (List Char × List Char)
  | [] => none
  | '!' :: '=' :: rest => some ([], rest)
  | c :: rest => (splitUnequal? rest).map fun (before, after) => (c :: before, after)

/-- What stands before and behind the first occurrence of a character. -/
def splitAtChar? (mark : Char) (cs : List Char) : Option (List Char × List Char) :=
  match cs.dropWhile (· != mark) with
  | _ :: rest => some (cs.takeWhile (· != mark), rest)
  | [] => none

/-- The set that the text between braces stands for, and whether it is negated by an
inequality. -/
def ofText? (text : List Char) : Option (CharSet × Bool) :=
  let valued (parts : List Char × List Char) : Option CharSet :=
    withValue? (plainName parts.1) (plainName parts.2)
  match splitUnequal? text with
  | some parts => (valued parts).map fun s => (s, true)
  | none =>
    match splitAtChar? ':' text <|> splitAtChar? '=' text with
    | some parts => (valued parts).map fun s => (s, false)
    | none => (named? (plainName text)).map fun s => (s, false)

end Property
end Regex
end Awk
