import QuestionSearch.Decimal.Binary

/-!
# Shortest decimals

The decimal of fewest digits among those that round to a given binary value, and among those the
one nearest to the value. All decimals between the half-way points to the neighbouring values round
to it, and so do the half-way points themselves if the significand is even. On each decimal grid it
is enough to look at the two points next to the value.
-/

namespace QuestionSearch.Decimal

/-- A number as digits times a power of ten. -/
structure Scaled where
  /-- The digits, as one natural number. -/
  digits : Nat
  /-- The power of ten of the last digit. -/
  exponent : Int
deriving DecidableEq, Repr

/-- A quotient of natural numbers. -/
structure Quotient where
  /-- What is divided. -/
  numerator : Nat
  /-- What it is divided by. -/
  denominator : Nat
deriving DecidableEq, Repr

namespace Quotient

/-- A natural number times a power of two. -/
def binary (significand : Nat) (exponent : Int) : Quotient :=
  if exponent < 0 then ⟨significand, Nat.pow 2 (-exponent).toNat⟩
  else ⟨significand * Nat.pow 2 exponent.toNat, 1⟩

/-- A quotient in units of a power of ten. -/
def inUnits (value : Quotient) (exponent : Int) : Quotient :=
  if exponent < 0 then ⟨value.numerator * Nat.pow 10 (-exponent).toNat, value.denominator⟩
  else ⟨value.numerator, value.denominator * Nat.pow 10 exponent.toNat⟩

/-- The number of decimal places before the point. A quotient below one is multiplied by ten until
it is not, at most `fuel` times, and each time counts as one place less. -/
def wholePlaces (value : Quotient) : Nat → Int
  | 0 => 0
  | fuel + 1 =>
    if value.denominator ≤ value.numerator then
      (Nat.toDigits 10 (value.numerator / value.denominator)).length
    else
      wholePlaces ⟨value.numerator * 10, value.denominator⟩ fuel - 1

/-- The power of ten of the first digit of a positive quotient. Multiplying by ten as often as the
denominator has binary places makes every quotient at least one. -/
def decimalOrder (value : Quotient) : Int :=
  value.wholePlaces (Nat.log2 value.denominator + 2) - 1

end Quotient

/-- The numbers that round to a binary value, in quarters of a unit of its last place. -/
structure RoundingInterval where
  /-- Four times the significand, less the distance to the half-way point below. -/
  low : Nat
  /-- Four times the significand, plus the distance to the half-way point above. -/
  high : Nat
  /-- Whether the ends round to the value too. -/
  closed : Bool
deriving DecidableEq, Repr

namespace RoundingInterval

/-- The interval of a finite value. Below the least significand of an exponent the neighbours lie
half as far apart, but not at the lowest exponent. -/
def ofValue (format : BinaryFormat) (significand : Nat) (exponent : Int) : RoundingInterval :=
  let narrow :=
    significand == Nat.pow 2 format.fractionBits && decide (format.lowestExponent < exponent)
  { low := 4 * significand - (if narrow then 1 else 2)
    high := 4 * significand + 2
    closed := significand % 2 == 0 }

/-- Whether a grid point lies in the interval, both taken over one denominator. -/
def holds (interval : RoundingInterval) (low point high : Nat) : Bool :=
  if interval.closed then low ≤ point && point ≤ high else low < point && point < high

end RoundingInterval

/-- The point of a decimal grid that lies in the interval and next to the value, if there is one. -/
def gridPoint? (tie : Tie) (interval : RoundingInterval) (significand : Nat) (exponent grid : Int) :
    Option Nat :=
  let value := (Quotient.binary (4 * significand) (exponent - 2)).inUnits grid
  let low := (Quotient.binary interval.low (exponent - 2)).inUnits grid
  let high := (Quotient.binary interval.high (exponent - 2)).inUnits grid
  let inside (point : Nat) :=
    interval.holds low.numerator (point * value.denominator) high.numerator
  let below := value.numerator / value.denominator
  let near := roundQuotient tie value.numerator value.denominator
  if inside near then some near
  else if inside below then some below
  else if inside (below + 1) then some (below + 1)
  else none

/-- Drops zeros at the end of the digits. -/
def Scaled.normalize (value : Scaled) : Scaled :=
  if value.digits = 0 then ⟨0, 0⟩
  else if value.digits % 10 = 0 then Scaled.normalize ⟨value.digits / 10, value.exponent + 1⟩
  else value
termination_by value.digits
decreasing_by omega

/-- The shortest decimal of a positive finite value. No format here needs more than seventeen
digits. -/
def shortest (format : BinaryFormat) (tie : Tie) (significand : Nat) (exponent : Int) : Scaled :=
  let interval := RoundingInterval.ofValue format significand exponent
  let order := (Quotient.binary significand exponent).decimalOrder
  let found := (List.range 17).findSome? fun (index : Nat) =>
    let grid := order - index
    (gridPoint? tie interval significand exponent grid).map fun digits => Scaled.mk digits grid
  (found.getD ⟨0, 0⟩).normalize

end QuestionSearch.Decimal
