import QuestionSearch.Decimal.Binary

/-!
# Reading decimals

A decimal is read as the binary value nearest to it. The text of a number has an optional sign,
then digits with an optional point among them and an optional power of ten, or the name of a value
that is not finite.
-/

namespace QuestionSearch.Decimal

/-- The `Float` nearest to digits times a power of ten. Beyond the range of the format the power
of ten itself decides, so that no huge power is ever computed. -/
def nearestFloat (digits : Nat) (exponent : Int) : Float :=
  let order := exponent + (Nat.toDigits 10 digits).length
  let bits :=
    if digits = 0 ∨ order < -400 then 0
    else if 400 < order then BinaryFormat.double.infinityBits
    else if exponent < 0 then BinaryFormat.double.nearest digits (Nat.pow 10 (-exponent).toNat)
    else BinaryFormat.double.nearest (digits * Nat.pow 10 exponent.toNat) 1
  Float.ofBits (UInt64.ofNat bits)

/-- Applies a sign. -/
def applySign (negative : Bool) (x : Float) : Float :=
  if negative then -x else x

/-- The value of a digit. -/
def digitValue (c : Char) : Nat :=
  c.toNat - '0'.toNat

/-- The number that decimal digits stand for. -/
def digitsValue (digits : List Char) : Nat :=
  digits.foldl (fun number digit => 10 * number + digitValue digit) 0

/-- An integer of decimal digits after an optional sign. -/
def readInteger? (text : List Char) : Option Int :=
  let (negative, digits) :=
    match text with
    | '-' :: rest => (true, rest)
    | '+' :: rest => (false, rest)
    | rest => (false, rest)
  if digits.isEmpty || !digits.all Char.isDigit then none
  else some (if negative then -(digitsValue digits : Int) else digitsValue digits)

/-- The lower case of a letter of the Latin alphabet. -/
def lowerLatin (c : Char) : Char := c.toLower

/-- A number without its sign. -/
def readMagnitude? (text : List Char) : Option Float :=
  let name := String.ofList (text.map lowerLatin)
  if name = "inf" ∨ name = "infinity" then some (Float.ofBits 0x7FF0000000000000)
  else if name = "nan" then some (Float.ofBits 0x7FF8000000000000)
  else
    let whole := text.takeWhile Char.isDigit
    let afterWhole := text.dropWhile Char.isDigit
    let (fraction, rest) :=
      match afterWhole with
      | '.' :: rest => (rest.takeWhile Char.isDigit, rest.dropWhile Char.isDigit)
      | rest => ([], rest)
    if whole.isEmpty && fraction.isEmpty then none
    else
      let digits := digitsValue (whole ++ fraction)
      match rest with
      | [] => some (nearestFloat digits (-fraction.length))
      | letter :: power =>
        if lowerLatin letter = 'e' then
          (readInteger? power).map fun power => nearestFloat digits (power - fraction.length)
        else none

/-- A number as it is written in input that is not bound to a stricter grammar. -/
def readFloat? (text : String) : Option Float :=
  match text.toList with
  | '-' :: rest => (readMagnitude? rest).map (applySign true)
  | '+' :: rest => readMagnitude? rest
  | rest => readMagnitude? rest

end QuestionSearch.Decimal
