import QuestionSearch.Decimal.Written

/-!
# Written JSON

JSON as it is about to be printed: atoms are texts already, so that each number keeps the form of
the format it was held in. It is printed on one line or indented by two blanks a level.
-/

namespace QuestionSearch.Json

open QuestionSearch.Decimal

/-- JSON whose atoms are written. -/
inductive Written
  /-- A text that stands for itself. -/
  | atom (text : String)
  /-- Items between square brackets. -/
  | list (items : List Written)
  /-- Keyed items between curly brackets, printed in the given order. -/
  | record (entries : List (String × Written))
deriving Inhabited

/-- Where positional notation of numbers ends, by the power of ten of the first digit. -/
structure NumberForm where
  /-- The format the number is held in. -/
  format : BinaryFormat
  /-- The least power that is written positionally. -/
  lowest : Int
  /-- The greatest power that is written positionally. -/
  highest : Int

/-- The form of a `Float`. -/
def doubleForm : NumberForm := ⟨.double, -5, 15⟩

/-- The form of single precision. -/
def singleForm : NumberForm := ⟨.single, -6, 12⟩

/-- The text of a finite magnitude: the fewest digits that read back, a tie going to the even one,
and `.0` after a whole number. A power of ten carries its sign. -/
def NumberForm.magnitude (form : NumberForm) (significand : Nat) (exponent : Int) : List Char :=
  if significand = 0 then ['0', '.', '0']
  else
    let value := shortest form.format .toEven significand exponent
    let order := value.order
    if form.lowest ≤ order ∧ order ≤ form.highest then
      if value.isWhole then value.positional ++ ['.', '0'] else value.positional
    else
      value.leadingPoint ++ 'e' :: (if order < 0 then '-' else '+') :: Nat.toDigits 10 order.natAbs

/-- The text of a number, `null` for one that is not finite. -/
def NumberForm.write (form : NumberForm) : BinaryValue → String
  | .finite negative significand exponent =>
    String.ofList (signed negative (form.magnitude significand exponent))
  | _ => "null"

/-- A control character by its code point in four hexadecimal digits. -/
def escapedControl (c : Char) : List Char :=
  let digits := Nat.toDigits 16 c.toNat
  '\\' :: 'u' :: (List.replicate (4 - digits.length) '0' ++ digits)

/-- A character between quotes. -/
def escapeChar (c : Char) : List Char :=
  if c = '"' then ['\\', '"']
  else if c = '\\' then ['\\', '\\']
  else if c = '\n' then ['\\', 'n']
  else if c = '\r' then ['\\', 'r']
  else if c = '\t' then ['\\', 't']
  else if c = '\x08' then ['\\', 'b']
  else if c = '\x0c' then ['\\', 'f']
  else if c.toNat < 0x20 then escapedControl c
  else [c]

/-- A text between quotes. -/
def quotedText (text : String) : String :=
  String.ofList ('"' :: (text.toList.flatMap escapeChar ++ ['"']))

/-- The number of blanks before a line of a level. -/
def indent (level : Nat) : String :=
  String.ofList (List.replicate (2 * level) ' ')

namespace Written

/-- The atom for nothing. -/
def null : Written := .atom "null"

/-- A truth value. -/
def bool (value : Bool) : Written := .atom (if value then "true" else "false")

/-- A whole number. -/
def integer (number : Int) : Written := .atom (String.ofList (integerDigits number))

/-- A number held as a `Float`. -/
def double (x : Float) : Written := .atom (doubleForm.write (ofFloat x))

/-- A number of single precision. -/
def single (x : Single) : Written := .atom (singleForm.write (ofSingle x))

/-- A text. -/
def text (value : String) : Written := .atom (quotedText value)

/-- A value that may be missing. -/
def optional {α : Type} (write : α → Written) : Option α → Written
  | none => null
  | some value => write value

mutual

/-- The text on one line, without blanks. -/
def compact : Written → String
  | .atom text => text
  | .list items => "[" ++ String.intercalate "," (compactItems items) ++ "]"
  | .record entries => "\x7b" ++ String.intercalate "," (compactEntries entries) ++ "\x7d"

/-- The items on one line each by itself. -/
def compactItems : List Written → List String
  | [] => []
  | item :: rest => compact item :: compactItems rest

/-- The keyed items on one line each by itself. -/
def compactEntries : List (String × Written) → List String
  | [] => []
  | (key, item) :: rest => (quotedText key ++ ":" ++ compact item) :: compactEntries rest

end

/-- Brackets around items, each on a line of its own one level further in. Without items the
brackets meet. -/
def block (opening closing : String) (level : Nat) (items : List String) : String :=
  if items.isEmpty then opening ++ closing
  else
    opening ++ "\n" ++ indent (level + 1) ++
      String.intercalate (",\n" ++ indent (level + 1)) items ++
      "\n" ++ indent level ++ closing

mutual

/-- The text over several lines, for a value that starts at a level. -/
def indented (level : Nat) : Written → String
  | .atom text => text
  | .list items => block "[" "]" level (indentedItems (level + 1) items)
  | .record entries => block "\x7b" "\x7d" level (indentedEntries (level + 1) entries)

/-- The items over several lines each. -/
def indentedItems (level : Nat) : List Written → List String
  | [] => []
  | item :: rest => indented level item :: indentedItems level rest

/-- The keyed items over several lines each. -/
def indentedEntries (level : Nat) : List (String × Written) → List String
  | [] => []
  | (key, item) :: rest =>
    (quotedText key ++ ": " ++ indented level item) :: indentedEntries level rest

end

/-- The text over several lines. -/
def pretty (value : Written) : String := indented 0 value

end Written

end QuestionSearch.Json
