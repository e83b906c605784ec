import QuestionSearch.Text.Visible

/-!
# Quoted text

Messages and plans show a text between double quotes. A quote, a backslash and the common controls
are escaped by a backslash and one character, everything else that does not show by its code point
in hexadecimal digits.
-/

namespace QuestionSearch.Text

/-- The code point of a character in lower-case hexadecimal digits. -/
def hexCode (c : Char) : List Char :=
  Nat.toDigits 16 c.toNat

/-- A character as it stands between quotes. -/
def escapeChar (c : Char) : List Char :=
  if c = '\x00' then ['\\', '0']
  else if c = '\t' then ['\\', 't']
  else if c = '\r' then ['\\', 'r']
  else if c = '\n' then ['\\', 'n']
  else if c = '"' then ['\\', '"']
  else if c = '\\' then ['\\', '\\']
  else if isExtender c || !isVisible c then ['\\', 'u', '\x7b'] ++ hexCode c ++ ['\x7d']
  else [c]

/-- A text between quotes, with every character escaped that would not show. -/
def quoted (text : String) : String :=
  String.ofList ('"' :: (text.toList.flatMap escapeChar ++ ['"']))

end QuestionSearch.Text
