import Awk.Format
import Awk.Host
import Awk.Regex
import Awk.Text.Case
import Awk.Text.Split

/-!
# Simulated text functions

Stand-ins for functions that would ask a language model.  They look for keywords, so
their answers depend on nothing but the arguments.
-/

namespace Awk
namespace Host
namespace Simulated

def argument (args : List String) (i : Nat) : String := (args[i]?).getD ""

def mentions (text word : String) : Bool := Text.contains text.toList word.toList

def mentionsAny (text : String) (words : List String) : Bool := words.any (mentions text)

def sentiment (text : String) : String :=
  let text := Text.toLower text
  if mentionsAny text ["love", "amazing", "great", "perfect", "excited", "beautiful"] then
    "positive"
  else if mentionsAny text ["hate", "terrible", "awful", "bad", "frustrated", "stressful"] then
    "negative"
  else "neutral"

/-- Topics in order of preference, with the words that tell them. -/
def topics : List (String × List String) :=
  [("science", ["discover", "species", "ocean", "earthquake"]),
    ("business", ["stock", "market", "economic", "budget", "layoffs"]),
    ("sports", ["championship", "basketball", "wins"]),
    ("technology", ["technology", "tech", "healthcare", " ai "]),
    ("politics", ["political", "leaders", "climate", "policies"]),
    ("entertainment", ["celebrity", "chef", "restaurant"])]

def trimmed (s : String) : String := String.ofList (Text.trimBoth Text.isWhiteSpace s.toList)

/-- The topic of a text, as one of the categories if any are given.  A topic that is
not among them becomes the first. -/
def classify (text categories : String) : String :=
  let padded := " " ++ Text.toLower text ++ " "
  let topic :=
    match topics.find? (fun (_, words) => mentionsAny padded words) with
    | some (topic, _) => topic
    | none => "general"
  let allowed :=
    ((Text.splitBy (· == ',') categories.toList).map fun c => trimmed (String.ofList c)).filter
      (!·.isEmpty)
  match allowed with
  | [] => topic
  | first :: _ => (allowed.find? (Text.equalsIgnoringAsciiCase · topic)).getD first

def spanish : List (String × String) :=
  [("i love this", "me encanta esto"), ("good morning", "buenos días"),
    ("thank you", "gracias"), ("hello", "hola"), ("laptop", "portátil"),
    ("headphones", "auriculares"), ("phone", "teléfono")]

/-- Replaces the first phrase of the word list that occurs.  Other languages only get
a label. -/
def translate (text language : String) : String :=
  if Text.equalsIgnoringAsciiCase language "spanish" ||
      Text.equalsIgnoringAsciiCase language "es" then
    let lower := Text.toLower text
    match spanish.find? (fun (phrase, _) => mentions lower phrase) with
    | some (phrase, meaning) =>
      String.ofList (Text.replace phrase.toList meaning.toList lower.toList)
    | none => "traducción simulada"
  else "[" ++ language ++ "] " ++ text

def words (text : String) : List String :=
  ((Text.splitBy Text.isWhiteSpace text.toList).filter (!·.isEmpty)).map String.ofList

def summarize (text : String) (most : Nat) : String :=
  let all := words text
  if all.length ≤ most then " ".intercalate all
  else " ".intercalate (all.take most) ++ "..."

/-- A count below `2 ^ 64`, in digits alone. -/
def digits? (cs : List Char) : Option Nat :=
  if cs.isEmpty || !cs.all Number.isDigit then none
  else
    let n := Number.ofDigits cs
    if n < 0x10000000000000000 then some n else none

/-- A count as an argument writes it: digits, a plus sign before them if need be. -/
def count? (s : String) : Option Nat :=
  match (trimmed s).toList with
  | '+' :: cs => digits? cs
  | cs => digits? cs

/-- All texts that match a pattern. -/
def matchesOf (pattern text : String) : List String :=
  match Regex.compile pattern false with
  | .ok re => (re.pieces text.toList).1.map fun (_, matched) => String.ofList matched
  | .error _ => []

def personPattern : String := "\\b[A-Z][a-z]+ [A-Z][a-z]+\\b"

def emailPattern : String := "[\\w.+-]+@[\\w-]+(\\.[\\w-]+)+"

def numberPattern : String := "-?\\d+(\\.\\d+)?"

/-- All persons, addresses or numbers in a text, as `kind` asks. -/
def extract (text kind : String) : String :=
  let kind := Text.toLower kind
  let found :=
    if mentionsAny kind ["person", "people", "name"] then matchesOf personPattern text
    else if mentions kind "email" then matchesOf emailPattern text
    else if mentionsAny kind ["number", "amount", "price"] then matchesOf numberPattern text
    else []
  if found.isEmpty then "none" else ", ".intercalate found

def factCheck (statement : String) : String :=
  let text := Text.toLower statement
  if mentions text "pacific ocean" && mentions text "largest" then "true"
  else if mentions text "cats" && mentions text "fly" then "false"
  else "uncertain"

/-- Takes all numbers of a text from the left with the operation that its words
suggest. -/
def solve (problem : String) : String :=
  let text := Text.toLower problem
  let numbers := (matchesOf numberPattern text).filterMap fun s => Number.read? s.toList
  match numbers with
  | [] => "0"
  | first :: rest =>
    let answer : Double :=
      if mentionsAny text ["left", "remain", "minus", "fewer", "gave", "spent", "lost", "ate"] then
        rest.foldl (fun x y => x - y) first
      else if mentionsAny text ["times", "each", "product"] then
        rest.foldl (fun x y => x * y) first
      else rest.foldl (fun x y => x + y) first
    Format.numberText Format.defaultNumberFormat answer

/-- Fills the places of a template, given as the text before each place and the place
itself.  A place that is numbered takes the value of that number, one that is named
the next value in turn.  A place without a value stays as it is. -/
def fillPlaces (values : List String) : Nat → List (List Char × List Char) → List Char
  | _, [] => []
  | next, (gap, place) :: more =>
    let key := (place.drop 1).dropLast
    let (value, next) :=
      match digits? key with
      | some i => (values[i]?, next)
      | none => (values[next]?, next + 1)
    gap ++ (value.map String.toList).getD place ++ fillPlaces values next more

def fillTemplate (template : String) (values : List String) : String :=
  match Regex.compile "\\\x7b(\\w+)\\\x7d" false with
  | .error _ => template
  | .ok re =>
    let (places, tail) := re.pieces template.toList
    String.ofList (fillPlaces values 0 places ++ tail)

end Simulated

open Simulated in
/-- The simulated functions under their names. -/
def simulated : Host :=
  let onText (f : String → String) : HostFunction := fun args => f (argument args 0)
  let onTwo (f : String → String → String) : HostFunction :=
    fun args => f (argument args 0) (argument args 1)
  empty
    |>.register "ai_sentiment" (onText sentiment)
    |>.register "ai_classify" (onTwo classify)
    |>.register "ai_translate" (onTwo translate)
    |>.register "ai_summarize" (onTwo fun text most => summarize text ((count? most).getD 50))
    |>.register "ai_extract_info" (onTwo extract)
    |>.register "ai_entity_extract" (onTwo extract)
    |>.register "ai_fact_check" (onText factCheck)
    |>.register "ai_math_word_problem" (onText solve)
    |>.register "ai_generate" fun args => fillTemplate (argument args 0) (args.drop 1)

end Host
end Awk
