/-!
# Arithmetic of scores

Scores of classifiers and of searches are computed in any arithmetic with the four operations, an
order, and the functions below. The program computes with `Float` and with single precision; exact
arithmetic gives the values that these come close to.
-/

namespace QuestionSearch

/-- The functions that scores are made of besides the four operations. -/
class Analytic (R : Type) where
  /-- A count as a number. -/
  natural : Nat → R
  /-- The square root. -/
  sqrt : R → R
  /-- The natural logarithm. -/
  ln : R → R
  /-- The natural exponential. -/
  exp : R → R

/-- A total order for ranking, also of values that the ordinary order leaves apart. -/
class Ranked (R : Type) where
  /-- Whether a value ranks at most as high as another one. -/
  atMost : R → R → Bool

instance : Analytic Float where
  natural := Float.ofNat
  sqrt := Float.sqrt
  ln := Float.log
  exp := Float.exp

/-- Bit patterns with a sign bit above so many others, in the order of the numbers they stand for.
A negative zero ranks below a positive one. Values that are no numbers rank beyond all numbers, on
the side of their sign and in the order of their payloads. -/
def rankOfBits (width bits : Nat) : Int :=
  if bits < Nat.pow 2 width then bits else -1 - (bits - Nat.pow 2 width : Int)

/-- All values that are no numbers are one `Float`. No such value is ever ranked, as only
similarities above zero are. -/
instance : Ranked Float where
  atMost x y := decide (rankOfBits 63 x.toBits.toNat ≤ rankOfBits 63 y.toBits.toNat)

/-- The sum of a list, from left to right. -/
def sumOf {R : Type} [Add R] [Analytic R] (terms : List R) : R :=
  terms.foldl (· + ·) (Analytic.natural 0)

/-- Orders a list so that greater keys come first. Equal keys keep their order. -/
def rankDescending {α R : Type} [Ranked R] (key : α → R) (items : List α) : List α :=
  items.mergeSort fun first second => Ranked.atMost (key second) (key first)

end QuestionSearch
