import QuestionSearch.Json.Numeral

/-!
# Tokens of JSON

A text is cut into brackets, separators and atoms. A quoted text with half of a surrogate pair is a
token as well, but stands for no value.
-/

namespace QuestionSearch.Json

/-- A token of JSON. -/
inductive Token
  /-- An opening square bracket. -/
  | openList
  /-- A closing square bracket. -/
  | closeList
  /-- An opening curly bracket. -/
  | openRecord
  /-- A closing curly bracket. -/
  | closeRecord
  /-- What separates items. -/
  | comma
  /-- What separates a key from its value. -/
  | colon
  /-- A value that is neither a text nor in brackets. -/
  | atom (value : Data)
  /-- A text, or none for one that is not made of characters. -/
  | text (value : Option String)
deriving Inhabited

/-- The value of a hexadecimal digit. -/
def hexValue? (c : Char) : Option Nat :=
  if c.isDigit then some (c.toNat - '0'.toNat)
  else if 'a' ≤ c ∧ c ≤ 'f' then some (c.toNat - 'a'.toNat + 10)
  else if 'A' ≤ c ∧ c ≤ 'F' then some (c.toNat - 'A'.toNat + 10)
  else none

/-- The number of hexadecimal digits. -/
def hexNumber? (digits : List Char) : Option Nat :=
  digits.foldlM (fun number digit => (hexValue? digit).map (16 * number + ·)) 0

/-- The character that a letter after a backslash stands for. -/
def escaped? (letter : Char) : Option Char :=
  if letter = '"' ∨ letter = '\\' ∨ letter = '/' then some letter
  else if letter = 'b' then some '\x08'
  else if letter = 'f' then some '\x0c'
  else if letter = 'n' then some '\n'
  else if letter = 'r' then some '\r'
  else if letter = 't' then some '\t'
  else none

/-- Joins surrogate pairs; fails on half of a pair. -/
def joinPairs? : List Nat → Option (List Char)
  | [] => some []
  | [unit] => if 0xD800 ≤ unit ∧ unit ≤ 0xDFFF then none else some [Char.ofNat unit]
  | unit :: next :: rest =>
    if 0xD800 ≤ unit ∧ unit ≤ 0xDBFF ∧ 0xDC00 ≤ next ∧ next ≤ 0xDFFF then
      (joinPairs? rest).map (Char.ofNat (0x10000 + (unit - 0xD800) * 0x400 + (next - 0xDC00)) :: ·)
    else if 0xD800 ≤ unit ∧ unit ≤ 0xDFFF then none
    else (joinPairs? (next :: rest)).map (Char.ofNat unit :: ·)

/-- Reads a text after its opening quote: its units, the last one first, and the rest. -/
def readUnits? (units : List Nat) : List Char → Option (List Nat × List Char)
  | [] => none
  | '"' :: rest => some (units, rest)
  | '\\' :: 'u' :: a :: b :: c :: d :: rest =>
    match hexNumber? [a, b, c, d] with
    | none => none
    | some unit => readUnits? (unit :: units) rest
  | '\\' :: letter :: rest =>
    match escaped? letter with
    | none => none
    | some c => readUnits? (c.toNat :: units) rest
  | c :: rest => if c = '\\' ∨ c.toNat < 0x20 then none else readUnits? (c.toNat :: units) rest

/-- Whether a character may stand between tokens. -/
def isSpace (c : Char) : Bool :=
  c = ' ' || c = '\n' || c = '\r' || c = '\t'

/-- The atom that a word stands for. -/
def wordAtom? (word : List Char) : Option Data :=
  if word = ['n', 'u', 'l', 'l'] then some .null
  else if word = ['t', 'r', 'u', 'e'] then some (.bool true)
  else if word = ['f', 'a', 'l', 's', 'e'] then some (.bool false)
  else none

/-- Reads the token at the start of a text. -/
def nextToken? : List Char → Option (Token × List Char)
  | [] => none
  | '[' :: rest => some (.openList, rest)
  | ']' :: rest => some (.closeList, rest)
  | '\x7b' :: rest => some (.openRecord, rest)
  | '\x7d' :: rest => some (.closeRecord, rest)
  | ',' :: rest => some (.comma, rest)
  | ':' :: rest => some (.colon, rest)
  | '"' :: rest =>
    (readUnits? [] rest).map fun (units, rest) =>
      (.text ((joinPairs? units.reverse).map String.ofList), rest)
  | c :: rest =>
    if c.isAlpha then
      (wordAtom? (c :: rest.takeWhile Char.isAlpha)).map fun atom =>
        (.atom atom, rest.dropWhile Char.isAlpha)
    else
      (Numeral.read? (c :: rest)).map fun (numeral, rest) => (.atom numeral.value, rest)

/-- Cuts a text into tokens, after those found before it, the last one first. Every token uses up a
part of the text, so as many steps as the text has characters are enough. -/
def tokensWithin? (found : List Token) : Nat → List Char → Option (List Token)
  | 0, text => if text.all isSpace then some found.reverse else none
  | fuel + 1, text =>
    match text.dropWhile isSpace with
    | [] => some found.reverse
    | c :: rest =>
      match nextToken? (c :: rest) with
      | none => none
      | some (token, rest) => tokensWithin? (token :: found) fuel rest

/-- The tokens of a text. -/
def tokens? (text : String) : Option (List Token) :=
  tokensWithin? [] text.length text.toList

end QuestionSearch.Json
