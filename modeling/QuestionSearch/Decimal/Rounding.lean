/-!
# Rounding of quotients

A quotient of natural numbers is rounded to a nearest natural number. Only the half-way case leaves
a choice, which a `Tie` settles.
-/

namespace QuestionSearch.Decimal

/-- What becomes of a quotient half-way between two natural numbers. -/
inductive Tie
  /-- It goes to the even one. -/
  | toEven
  /-- It goes to the greater one. -/
  | up
deriving DecidableEq, Repr

/-- Whether a half above the given natural number goes up. -/
def Tie.goesUp (tie : Tie) (below : Nat) : Bool :=
  match tie with
  | .toEven => below % 2 == 1
  | .up => true

/-- The natural number nearest to a quotient. -/
def roundQuotient (tie : Tie) (numerator denominator : Nat) : Nat :=
  let below := numerator / denominator
  let excess := 2 * (numerator % denominator)
  if excess < denominator then below
  else if denominator < excess then below + 1
  else if tie.goesUp below then below + 1 else below

end QuestionSearch.Decimal
