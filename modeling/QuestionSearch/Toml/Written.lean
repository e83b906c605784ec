import QuestionSearch.Decimal.Written

/-!
# Written TOML

Pairs of a key and a value below headers. A text is written in the first of five forms that fits
it: between double quotes, between single quotes, between three of either kind, and with escapes if
none of these can hold it as it is.
-/

namespace QuestionSearch.Toml

open QuestionSearch.Decimal

/-- The forms of a quoted text. -/
inductive QuoteForm
  /-- Between double quotes. -/
  | basic
  /-- Between single quotes. -/
  | literal
  /-- Between three double quotes. -/
  | longBasic
  /-- Between three single quotes. -/
  | longLiteral
deriving DecidableEq, Repr

/-- Whether a character is a control other than the tab and the line feed. -/
def isBareControl (c : Char) : Bool :=
  (c.toNat < 0x20 && c != '\t' && c != '\n') || c.toNat = 0x7F

/-- Whether some character occurs three times in a row. -/
def hasTriple (c : Char) : List Char → Bool
  | [] => false
  | first :: rest => [c, c, c].isPrefixOf (first :: rest) || hasTriple c rest

/-- The first form that fits a text. -/
def QuoteForm.choose (text : List Char) : QuoteForm :=
  let controlled := text.any isBareControl
  let broken := text.contains '\n'
  if !controlled && !broken && !text.contains '\\' && !text.contains '"' then .basic
  else if !controlled && !broken && !text.contains '\'' then .literal
  else if !controlled && !text.contains '\\' && !hasTriple '"' text then .longBasic
  else if !controlled && !hasTriple '\'' text then .longLiteral
  else if broken then .longBasic
  else .basic

/-- How many double quotes may stand in a row, by form. -/
def QuoteForm.quotesInRow : QuoteForm → Nat
  | .longBasic => 2
  | _ => 0

/-- A control character by its code point in four hexadecimal digits. -/
def escapedControl (c : Char) : List Char :=
  let digits := (Nat.toDigits 16 c.toNat).map Char.toUpper
  '\\' :: 'u' :: (List.replicate (4 - digits.length) '0' ++ digits)

/-- A character other than a double quote in a form that has escapes. -/
def escapeChar (form : QuoteForm) (c : Char) : List Char :=
  if c = '\x08' then ['\\', 'b']
  else if c = '\t' then ['\\', 't']
  else if c = '\n' then if form = .longBasic then ['\n'] else ['\\', 'n']
  else if c = '\x0c' then ['\\', 'f']
  else if c = '\r' then ['\\', 'r']
  else if c = '\\' then ['\\', '\\']
  else if isBareControl c then escapedControl c
  else [c]

/-- The characters of a text in a form that has escapes, after so many double quotes. -/
def escapeText (form : QuoteForm) (quotes : Nat) : List Char → List Char
  | [] => []
  | '"' :: rest =>
    if quotes < form.quotesInRow then '"' :: escapeText form (quotes + 1) rest
    else '\\' :: '"' :: escapeText form 0 rest
  | c :: rest => escapeChar form c ++ escapeText form 0 rest

/-- A text with its quotes. A text of several lines starts on a line of its own. -/
def quotedText (text : String) : String :=
  let chars := text.toList
  let form := QuoteForm.choose chars
  let lead := if chars.contains '\n' then ['\n'] else []
  String.ofList <|
    match form with
    | .basic => '"' :: (escapeText form 0 chars ++ ['"'])
    | .literal => '\'' :: (chars ++ ['\''])
    | .longBasic => ['"', '"', '"'] ++ lead ++ escapeText form 0 chars ++ ['"', '"', '"']
    | .longLiteral => ['\'', '\'', '\''] ++ lead ++ chars ++ ['\'', '\'', '\'']

/-- Texts between square brackets. More than one stand on a line each. -/
def textList (texts : List String) : String :=
  match texts with
  | [] => "[]"
  | [text] => "[" ++ quotedText text ++ "]"
  | _ => "[\n" ++ String.join (texts.map fun text => "    " ++ quotedText text ++ ",\n") ++ "]"

/-- The names of the values that are not finite. -/
def floatNames : Names := ⟨"nan", "inf"⟩

/-- A finite magnitude, with `.0` after a whole number. -/
def floatMagnitude (significand : Nat) (exponent : Int) : List Char :=
  let digits := shortestPositional .double significand exponent
  if digits.contains '.' then digits else digits ++ ['.', '0']

/-- A number that need not be whole. -/
def floatText (number : Float) : String :=
  write floatNames floatMagnitude (ofFloat number)

/-- A pair on its line. -/
def pairLine (key value : String) : String :=
  key ++ " = " ++ value ++ "\n"

/-- A header with the pairs below it, or pairs before all headers. -/
structure Block where
  /-- The header with its brackets. -/
  header : Option String
  /-- The keys with their written values. -/
  pairs : List (String × String)

/-- The lines of a block. -/
def Block.lines (block : Block) : String :=
  (match block.header with
    | none => ""
    | some header => header ++ "\n") ++
    String.join (block.pairs.map fun pair => pairLine pair.1 pair.2)

/-- Blocks with a blank line before each but the first. -/
def document (blocks : List Block) : String :=
  String.intercalate "\n" (blocks.map Block.lines)

end QuestionSearch.Toml
