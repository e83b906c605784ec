import QuestionSearch.Data
import QuestionSearch.Decimal.Read

/-!
# Numbers in JSON

A numeral is split into its parts first and valued afterwards, so that a numeral out of range can
still be passed over. Whole numbers of 64 bits keep all their digits. Every other numeral takes as
many digits as a 64-bit significand holds, ignores the rest, and is scaled by a power of ten in
floating point.
-/

namespace QuestionSearch.Json

open QuestionSearch.Decimal

/-- The parts of a number as written. -/
structure Numeral where
  /-- Whether a minus sign stands in front. -/
  negative : Bool
  /-- The digits before the point. -/
  whole : List Char
  /-- The digits after the point. -/
  fraction : List Char
  /-- The sign and the digits of the power of ten. -/
  power : Option (Bool × List Char)
deriving DecidableEq, Repr

namespace Numeral

/-- The greatest significand. -/
def significandLimit : Nat := UInt64.size - 1

/-- The greatest power of ten that is computed with. -/
def powerLimit : Nat := Nat.pow 2 31 - 1

/-- Reads the digits after a point, if a point comes next. -/
def readFraction? : List Char → Option (List Char × List Char)
  | '.' :: rest =>
    let digits := rest.takeWhile Char.isDigit
    if digits.isEmpty then none else some (digits, rest.dropWhile Char.isDigit)
  | rest => some ([], rest)

/-- Reads the sign and the digits of a power of ten. -/
def readPower? (text : List Char) : Option ((Bool × List Char) × List Char) :=
  let (negative, rest) :=
    match text with
    | '-' :: rest => (true, rest)
    | '+' :: rest => (false, rest)
    | rest => (false, rest)
  let digits := rest.takeWhile Char.isDigit
  if digits.isEmpty then none else some ((negative, digits), rest.dropWhile Char.isDigit)

/-- Reads the power of ten, if one comes next. -/
def readScale? : List Char → Option (Option (Bool × List Char) × List Char)
  | 'e' :: rest => (readPower? rest).map fun (power, rest) => (some power, rest)
  | 'E' :: rest => (readPower? rest).map fun (power, rest) => (some power, rest)
  | rest => some (none, rest)

/-- Reads a numeral after its sign. A zero is not followed by another digit. -/
def readUnsigned? (negative : Bool) (text : List Char) : Option (Numeral × List Char) := do
  let whole := text.takeWhile Char.isDigit
  if whole.isEmpty || (whole.head? == some '0' && whole.length != 1) then none
  else
    let (fraction, rest) ← readFraction? (text.dropWhile Char.isDigit)
    let (power, rest) ← readScale? rest
    some (⟨negative, whole, fraction, power⟩, rest)

/-- Reads a numeral at the start of a text. -/
def read? : List Char → Option (Numeral × List Char)
  | '-' :: rest => readUnsigned? true rest
  | rest => readUnsigned? false rest

/-- Adds digits to a significand as long as it stays within the limit; gives the digits left over.
-/
def absorb (significand : Nat) : List Char → Nat × List Char
  | [] => (significand, [])
  | digit :: rest =>
    let next := 10 * significand + digitValue digit
    if significandLimit < next then (significand, digit :: rest) else absorb next rest

/-- The power of ten as a `Float`. -/
def powerOfTen (power : Nat) : Float := nearestFloat 1 power

/-- A nonnegative number scaled by a power of ten: at once if the power is within the range of the
format, in steps if it lies below, and not at all if it lies above. -/
def scale? (number : Float) (exponent : Int) : Option Float :=
  if 0 ≤ exponent then
    if exponent ≤ 308 then
      let scaled := number * powerOfTen exponent.toNat
      if scaled.isInf then none else some scaled
    else if number == 0 then some number else none
  else if -308 ≤ exponent then some (number / powerOfTen (-exponent).toNat)
  else if number == 0 then some number
  else scale? (number / powerOfTen 308) (exponent + 308)
termination_by (-exponent).toNat
decreasing_by omega

/-- The number of a numeral that is not a whole number of 64 bits. -/
def float? (numeral : Numeral) : Option Float :=
  let (significand, dropped) := absorb 0 numeral.whole
  let (significand, ignored) := absorb significand numeral.fraction
  let exponent : Int := dropped.length - (numeral.fraction.length - ignored.length : Nat)
  let magnitude :=
    match numeral.power with
    | none => scale? significand.toFloat exponent
    | some (negative, digits) =>
      let power := digitsValue digits
      if powerLimit < power then
        if significand ≠ 0 ∧ negative = false then none else some 0
      else scale? significand.toFloat (if negative then exponent - power else exponent + power)
  magnitude.map (applySign numeral.negative)

/-- What a numeral stands for. A zero with a minus sign is no whole number. -/
def value (numeral : Numeral) : Data :=
  let number := digitsValue numeral.whole
  if numeral.fraction.isEmpty ∧ numeral.power = none ∧ numeral.negative = false ∧
      number ≤ significandLimit then
    .integer number
  else if numeral.fraction.isEmpty ∧ numeral.power = none ∧ numeral.negative = true ∧
      0 < number ∧ number ≤ Nat.pow 2 63 then
    .integer (-number)
  else
    match numeral.float? with
    | none => .unreadable
    | some number => .float number

end Numeral

end QuestionSearch.Json
