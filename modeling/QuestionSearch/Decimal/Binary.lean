import QuestionSearch.Decimal.Rounding
import QuestionSearch.Single

/-!
# Binary floating point

The two formats in which numbers are held, what their bit patterns mean, and the pattern nearest to
a quotient. A finite value is a significand times a power of two, so that all further work on it is
exact arithmetic on natural numbers.
-/

namespace QuestionSearch.Decimal

/-- A binary format, by the widths of the two fields that follow the sign. -/
structure BinaryFormat where
  /-- The width of the fraction. -/
  fractionBits : Nat
  /-- The width of the exponent. -/
  exponentBits : Nat
deriving DecidableEq, Repr

/-- What a bit pattern stands for. -/
inductive BinaryValue
  /-- No number. -/
  | nan
  /-- Beyond all finite values. -/
  | infinite (negative : Bool)
  /-- The significand times two to the exponent. -/
  | finite (negative : Bool) (significand : Nat) (exponent : Int)
deriving DecidableEq, Repr

namespace BinaryFormat

/-- The format of `Float`. -/
def double : BinaryFormat := ⟨52, 11⟩

/-- The format of single precision. -/
def single : BinaryFormat := ⟨23, 8⟩

/-- The exponent of the last place of the least values. -/
def lowestExponent (format : BinaryFormat) : Int :=
  2 - Nat.pow 2 (format.exponentBits - 1) - format.fractionBits

/-- The pattern of positive infinity, above the patterns of all finite values. -/
def infinityBits (format : BinaryFormat) : Nat :=
  (Nat.pow 2 format.exponentBits - 1) * Nat.pow 2 format.fractionBits

/-- The meaning of a bit pattern. -/
def decode (format : BinaryFormat) (bits : Nat) : BinaryValue :=
  let fraction := bits % Nat.pow 2 format.fractionBits
  let exponent := bits / Nat.pow 2 format.fractionBits % Nat.pow 2 format.exponentBits
  let negative := bits / Nat.pow 2 (format.fractionBits + format.exponentBits) % 2 == 1
  if exponent = Nat.pow 2 format.exponentBits - 1 then
    if fraction = 0 then .infinite negative else .nan
  else if exponent = 0 then
    .finite negative fraction format.lowestExponent
  else
    .finite negative (Nat.pow 2 format.fractionBits + fraction)
      (format.lowestExponent + (exponent - 1))

/-- The largest exponent of two that does not exceed a positive quotient. -/
def binaryOrder (numerator denominator : Nat) : Int :=
  let order : Int := (Nat.log2 numerator : Int) - Nat.log2 denominator
  let reached :=
    if order < 0 then denominator ≤ numerator * Nat.pow 2 (-order).toNat
    else denominator * Nat.pow 2 order.toNat ≤ numerator
  if reached then order else order - 1

/-- The pattern of the value nearest to a quotient, an even significand in the half-way case.
Consecutive patterns stand for consecutive values, so a significand that grows by a place carries
into the exponent by itself. -/
def nearest (format : BinaryFormat) (numerator denominator : Nat) : Nat :=
  if numerator = 0 then 0
  else
    let exponent :=
      max format.lowestExponent (binaryOrder numerator denominator - format.fractionBits)
    let significand :=
      if exponent < 0 then
        roundQuotient .toEven (numerator * Nat.pow 2 (-exponent).toNat) denominator
      else roundQuotient .toEven numerator (denominator * Nat.pow 2 exponent.toNat)
    min format.infinityBits
      ((exponent - format.lowestExponent).toNat * Nat.pow 2 format.fractionBits + significand)

end BinaryFormat

/-- The meaning of a `Float`. -/
def ofFloat (x : Float) : BinaryValue :=
  BinaryFormat.double.decode x.toBits.toNat

/-- The meaning of a number of single precision. -/
def ofSingle (x : Single) : BinaryValue :=
  BinaryFormat.single.decode x.bits.toNat

end QuestionSearch.Decimal
