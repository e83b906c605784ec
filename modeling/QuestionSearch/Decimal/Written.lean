import QuestionSearch.Decimal.Shortest

/-!
# Written numbers

How a finite number is written: positionally with its shortest digits, with a power of ten, or
rounded to a fixed number of places. Rounding to places always looks at the exact binary value, and
a half goes to the even neighbour.
-/

namespace QuestionSearch.Decimal

/-- The decimal digits of a natural number, at least as many as asked for. -/
def paddedDigits (width number : Nat) : List Char :=
  let digits := Nat.toDigits 10 number
  List.replicate (width - digits.length) '0' ++ digits

/-- The digits of a number with a point before the last `places` of them. -/
def pointed (places number : Nat) : List Char :=
  let digits := paddedDigits (places + 1) number
  let whole := digits.length - places
  digits.take whole ++ (if places = 0 then [] else '.' :: digits.drop whole)

namespace Scaled

/-- The power of ten of the first digit. -/
def order (value : Scaled) : Int :=
  value.exponent + (Nat.toDigits 10 value.digits).length - 1

/-- Positional notation, without a point if the number is whole. -/
def positional (value : Scaled) : List Char :=
  if value.exponent < 0 then pointed (-value.exponent).toNat value.digits
  else Nat.toDigits 10 (value.digits * Nat.pow 10 value.exponent.toNat)

/-- Whether the number, whose digits do not end in a zero, is whole. -/
def isWhole (value : Scaled) : Bool :=
  0 ≤ value.exponent

/-- The digits with a point after the first one, if there are more. -/
def leadingPoint (value : Scaled) : List Char :=
  match Nat.toDigits 10 value.digits with
  | [] => []
  | [digit] => [digit]
  | digit :: rest => digit :: '.' :: rest

end Scaled

/-- An integer in decimal digits. -/
def integerDigits (number : Int) : List Char :=
  if number < 0 then '-' :: Nat.toDigits 10 number.natAbs else Nat.toDigits 10 number.natAbs

/-- Puts a minus sign before the text of a negative number. -/
def signed (negative : Bool) (text : List Char) : List Char :=
  if negative then '-' :: text else text

/-- The quotient with so many decimal places. -/
def fixedPlaces (places : Nat) (value : Quotient) : List Char :=
  pointed places (roundQuotient .toEven (value.numerator * Nat.pow 10 places) value.denominator)

/-- The quotient with one digit before the point, so many after it, and a power of ten. -/
def scientificPlaces (places : Nat) (value : Quotient) : List Char :=
  if value.numerator = 0 then pointed places 0 ++ ['e', '0']
  else
    let order := value.decimalOrder
    let unit := value.inUnits (order - places)
    let digits := roundQuotient .toEven unit.numerator unit.denominator
    if digits < Nat.pow 10 (places + 1) then pointed places digits ++ 'e' :: integerDigits order
    else pointed places (digits / 10) ++ 'e' :: integerDigits (order + 1)

/-- Names of the values that are not finite. -/
structure Names where
  /-- No number. -/
  nan : String
  /-- Beyond all finite values, after the sign. -/
  infinity : String

/-- The names in messages and in output that shows a number by itself. -/
def plainNames : Names := ⟨"NaN", "inf"⟩

/-- The text of a value, given the text of a finite magnitude. -/
def write (names : Names) (magnitude : Nat → Int → List Char) : BinaryValue → String
  | .nan => names.nan
  | .infinite negative => String.ofList (signed negative names.infinity.toList)
  | .finite negative significand exponent =>
    String.ofList (signed negative (magnitude significand exponent))

/-- A magnitude in positional notation with the fewest digits that read back. A tie between two
such decimals goes to the greater one. -/
def shortestPositional (format : BinaryFormat) (significand : Nat) (exponent : Int) : List Char :=
  if significand = 0 then ['0'] else (shortest format .up significand exponent).positional

/-- The text of a `Float` with the fewest digits that read back. -/
def plain (x : Float) : String :=
  write plainNames (shortestPositional .double) (ofFloat x)

/-- The text of a number of single precision with the fewest digits that read back. -/
def plain32 (x : Single) : String :=
  write plainNames (shortestPositional .single) (ofSingle x)

/-- The text of a `Float` with so many decimal places. -/
def fixed (places : Nat) (x : Float) : String :=
  write plainNames (fun significand exponent => fixedPlaces places (.binary significand exponent))
    (ofFloat x)

/-- The text of a number of single precision with so many decimal places. -/
def fixed32 (places : Nat) (x : Single) : String :=
  write plainNames (fun significand exponent => fixedPlaces places (.binary significand exponent))
    (ofSingle x)

/-- The text of a `Float` with one digit before the point, so many after it, and a power of ten. -/
def scientific (places : Nat) (x : Float) : String :=
  write plainNames
    (fun significand exponent => scientificPlaces places (.binary significand exponent)) (ofFloat x)

end QuestionSearch.Decimal
