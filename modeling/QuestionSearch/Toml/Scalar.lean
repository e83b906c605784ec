import QuestionSearch.Data
import QuestionSearch.Decimal.Read

/-!
# Numbers, truth values and dates in TOML

All of these are written in one run of letters, digits and a few signs, which is valued as a whole.
Digits may be grouped by single underscores between them. A decimal integer has no leading zero and
fits 64 bits with a sign.
-/

namespace QuestionSearch.Toml

open QuestionSearch.Decimal

/-- Removes the underscores between digits. Fails unless each of them stands between two digits. -/
def ungroup? (isDigit : Char → Bool) : List Char → Option (List Char)
  | [] => none
  | [digit] => if isDigit digit then some [digit] else none
  | digit :: '_' :: rest => if isDigit digit then (ungroup? isDigit rest).map (digit :: ·) else none
  | digit :: rest => if isDigit digit then (ungroup? isDigit rest).map (digit :: ·) else none

/-- The digits of an unsigned decimal integer. -/
def decimalDigits? (text : List Char) : Option (List Char) := do
  let digits ← ungroup? Char.isDigit text
  if digits.head? = some '0' ∧ digits.length ≠ 1 then none else some digits

/-- Splits off a sign: whether it is a minus sign, and what follows. -/
def splitSign : List Char → Bool × List Char
  | '-' :: rest => (true, rest)
  | '+' :: rest => (false, rest)
  | rest => (false, rest)

/-- An integer, if it fits 64 bits with a sign. -/
def signedWord? (negative : Bool) (magnitude : Nat) : Option Data :=
  if negative then if magnitude ≤ Nat.pow 2 63 then some (.integer (-magnitude)) else none
  else if magnitude < Nat.pow 2 63 then some (.integer magnitude) else none

/-- The value of a digit in bases up to sixteen. -/
def baseDigit (c : Char) : Nat :=
  if c.isDigit then c.toNat - '0'.toNat
  else if c.isUpper then c.toNat - 'A'.toNat + 10
  else c.toNat - 'a'.toNat + 10

/-- Whether a character is a hexadecimal digit. -/
def isHexDigit (c : Char) : Bool :=
  c.isDigit || ('a' ≤ c && c ≤ 'f') || ('A' ≤ c && c ≤ 'F')

/-- An integer in another base than ten. It takes no sign. -/
def basedInteger? (base : Nat) (text : List Char) : Option Data := do
  let digits ← ungroup? (fun c => isHexDigit c && baseDigit c < base) text
  signedWord? false (digits.foldl (fun number digit => base * number + baseDigit digit) 0)

/-- An integer. -/
def integer? : List Char → Option Data
  | '0' :: 'x' :: digits => basedInteger? 16 digits
  | '0' :: 'o' :: digits => basedInteger? 8 digits
  | '0' :: 'b' :: digits => basedInteger? 2 digits
  | text =>
    let (negative, magnitude) := splitSign text
    (decimalDigits? magnitude).bind fun digits => signedWord? negative (digitsValue digits)

/-- The power of ten of a float. -/
def floatPower? (text : List Char) : Option Int := do
  let (negative, digits) := splitSign text
  let digits ← ungroup? Char.isDigit digits
  some (if negative then -(digitsValue digits : Int) else digitsValue digits)

/-- Whether a character starts the power of ten. -/
def startsPower (c : Char) : Bool := c = 'e' || c = 'E'

/-- An unsigned float of digits: an integer with a fraction, a power of ten, or both. -/
def floatMagnitude? (text : List Char) : Option Float := do
  let whole ← decimalDigits? (text.takeWhile fun c => c != '.' && !startsPower c)
  match text.dropWhile fun c => c != '.' && !startsPower c with
  | '.' :: rest =>
    let fraction ← ungroup? Char.isDigit (rest.takeWhile fun c => !startsPower c)
    let digits := digitsValue (whole ++ fraction)
    match rest.dropWhile fun c => !startsPower c with
    | [] => some (nearestFloat digits (-fraction.length))
    | _ :: power =>
      let power ← floatPower? power
      some (nearestFloat digits (power - fraction.length))
  | _ :: power =>
    let power ← floatPower? power
    some (nearestFloat (digitsValue whole) power)
  | [] => none

/-- A float. One of digits that exceeds all finite values is refused, unless it is negative. -/
def float? (text : List Char) : Option Data :=
  let (negative, magnitude) := splitSign text
  if magnitude = ['i', 'n', 'f'] then
    some (.float (applySign negative (Float.ofBits 0x7FF0000000000000)))
  else if magnitude = ['n', 'a', 'n'] then some (.nan negative)
  else
    (floatMagnitude? magnitude).bind fun number =>
      if number.isInf && !negative then none else some (.float (applySign negative number))

/-- The number of two digits, if it lies within bounds. -/
def twoDigits? (low high : Nat) (tens ones : Char) : Option Nat :=
  let number := digitsValue [tens, ones]
  if tens.isDigit ∧ ones.isDigit ∧ low ≤ number ∧ number ≤ high then some number else none

/-- The number of days of a month. -/
def daysIn (year month : Nat) : Nat :=
  if month = 2 then
    if year % 4 = 0 ∧ (year % 100 ≠ 0 ∨ year % 400 = 0) then 29 else 28
  else if month = 4 ∨ month = 6 ∨ month = 9 ∨ month = 11 then 30
  else 31

/-- Reads a day of the calendar; gives what follows. -/
def afterDay? : List Char → Option (List Char)
  | y₁ :: y₂ :: y₃ :: y₄ :: '-' :: m₁ :: m₂ :: '-' :: d₁ :: d₂ :: rest => do
    let century ← twoDigits? 0 99 y₁ y₂
    let year ← twoDigits? 0 99 y₃ y₄
    let month ← twoDigits? 1 12 m₁ m₂
    let _ ← twoDigits? 1 (daysIn (100 * century + year) month) d₁ d₂
    some rest
  | _ => none

/-- Reads a time of day; gives what follows. -/
def afterTime? : List Char → Option (List Char)
  | h₁ :: h₂ :: ':' :: m₁ :: m₂ :: ':' :: s₁ :: s₂ :: rest => do
    let _ ← twoDigits? 0 23 h₁ h₂
    let _ ← twoDigits? 0 59 m₁ m₂
    let _ ← twoDigits? 0 60 s₁ s₂
    match rest with
    | '.' :: fraction =>
      if (fraction.takeWhile Char.isDigit).isEmpty then none
      else some (fraction.dropWhile Char.isDigit)
    | rest => some rest
  | _ => none

/-- Whether a text is the offset of a time zone. -/
def isOffset : List Char → Bool
  | ['Z'] => true
  | ['z'] => true
  | [sign, h₁, h₂, ':', m₁, m₂] =>
    (sign = '+' || sign = '-') && (twoDigits? 0 23 h₁ h₂).isSome && (twoDigits? 0 59 m₁ m₂).isSome
  | _ => false

/-- Whether a text is a time of day with an optional offset. -/
def isZonedTime (text : List Char) : Bool :=
  match afterTime? text with
  | none => false
  | some rest => rest.isEmpty || isOffset rest

/-- A day, a time, or both with a letter between them. -/
def date? (text : List Char) : Option Data :=
  match afterDay? text with
  | some [] => some .date
  | some (separator :: time) =>
    if (separator = 'T' ∨ separator = 't') ∧ isZonedTime time then some .date else none
  | none => if afterTime? text = some [] then some .date else none

/-- Whether a character may belong to a scalar without quotes. -/
def isScalarChar (c : Char) : Bool :=
  c.isAlphanum || c = '+' || c = '-' || c = '_' || c = '.' || c = ':'

/-- The value of a scalar without quotes. -/
def scalar? (text : List Char) : Option Data :=
  if text = ['t', 'r', 'u', 'e'] then some (.bool true)
  else if text = ['f', 'a', 'l', 's', 'e'] then some (.bool false)
  else date? text <|> float? text <|> integer? text

/-- Reads a scalar without quotes. A day may be followed by a blank and a time. -/
def readScalar? (text : List Char) : Option (Data × List Char) := do
  let value ← scalar? (text.takeWhile isScalarChar)
  match afterDay? (text.takeWhile isScalarChar), text.dropWhile isScalarChar with
  | some [], ' ' :: rest =>
    let time := rest.takeWhile isScalarChar
    if time.isEmpty then some (value, ' ' :: rest)
    else if isZonedTime time then some (value, rest.dropWhile isScalarChar)
    else none
  | _, rest => some (value, rest)

end QuestionSearch.Toml
