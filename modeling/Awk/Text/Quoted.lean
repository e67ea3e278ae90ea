import Awk.Text.Class

namespace Awk
namespace Text

/-- Braced hexadecimal, the escape of last resort. -/
private def hexEscape (c : Char) : List Char :=
  ['\\', 'u', '\x7b'] ++ Nat.toDigits 16 c.toNat ++ ['\x7d']

/-- A character as it stands in a quoted text. -/
def quotedChar (c : Char) : List Char :=
  if c = Char.ofNat 0 then ['\\', '0']
  else if c = '\t' then ['\\', 't']
  else if c = '\r' then ['\\', 'r']
  else if c = '\n' then ['\\', 'n']
  else if c = '"' then ['\\', '"']
  else if c = '\\' then ['\\', '\\']
  else if c.toNat < 0x80 then if isPrintable c then [c] else hexEscape c
  else if extendsGrapheme c || !isPrintable c then hexEscape c
  else [c]

/-- A text between double quotes, as messages show it: what cannot be seen is
written as an escape. -/
def quoted (s : String) : String :=
  String.ofList ('"' :: s.toList.flatMap quotedChar ++ ['"'])

end Text
end Awk
