import QuestionSearch.Proofs.ExactArithmetic

/-!
# Rounded arithmetic

Arithmetic in which each result is the exact one, rounded by one function that keeps the order of
numbers. Nothing is said of what is too large to be a finite number, and nothing of logarithms.
Exact arithmetic is the case in which nothing is rounded (`roundsMonotonically_real`).
-/

namespace QuestionSearch

/-- Whether results are rounded by a function that keeps the order of numbers. -/
structure RoundsMonotonically (R : Type) [Add R] [Mul R] [Div R] [Analytic R]
    (IsFinite : R → Prop) (value : R → ℝ) (round : ℝ → ℝ) : Prop where
  /-- Greater numbers are not rounded to smaller ones. -/
  monotone : Monotone round
  /-- Zero is not rounded. -/
  round_zero : round 0 = 0
  /-- One is not rounded. -/
  round_one : round 1 = 1
  /-- A count is finite if a greater one is. -/
  isFinite_natural {count more : Nat} : count ≤ more → IsFinite (Analytic.natural more) →
    IsFinite (Analytic.natural count)
  /-- A count is rounded. -/
  natural {count : Nat} : IsFinite (Analytic.natural count) →
    value (Analytic.natural count) = round count
  /-- A finite sum is of finite numbers. -/
  add {a b : R} : IsFinite (a + b) →
    IsFinite a ∧ IsFinite b ∧ value (a + b) = round (value a + value b)
  /-- A finite product is of finite numbers. -/
  mul {a b : R} : IsFinite (a * b) →
    IsFinite a ∧ IsFinite b ∧ value (a * b) = round (value a * value b)
  /-- A finite quotient of finite numbers is rounded. -/
  div {a b : R} : IsFinite a → IsFinite b → value b ≠ 0 → IsFinite (a / b) →
    value (a / b) = round (value a / value b)
  /-- A root is finite. -/
  sqrt {a : R} : IsFinite a → 0 ≤ value a →
    IsFinite (Analytic.sqrt a) ∧ value (Analytic.sqrt a) = round √(value a)

/-- In exact arithmetic nothing is rounded, and all numbers are finite. -/
theorem roundsMonotonically_real : RoundsMonotonically ℝ (fun _ => True) id id where
  monotone := monotone_id
  round_zero := rfl
  round_one := rfl
  isFinite_natural _ _ := trivial
  natural _ := rfl
  add _ := ⟨trivial, trivial, rfl⟩
  mul _ := ⟨trivial, trivial, rfl⟩
  div _ _ _ _ := rfl
  sqrt _ _ := ⟨trivial, rfl⟩

namespace RoundsMonotonically

variable {R : Type} [Add R] [Mul R] [Div R] [Analytic R] {IsFinite : R → Prop} {value : R → ℝ}
  {round : ℝ → ℝ} (rounds : RoundsMonotonically R IsFinite value round)

include rounds

theorem round_nonneg {number : ℝ} (nonneg : 0 ≤ number) : 0 ≤ round number :=
  rounds.round_zero ▸ rounds.monotone nonneg

theorem round_nonpos {number : ℝ} (nonpos : number ≤ 0) : round number ≤ 0 :=
  rounds.round_zero ▸ rounds.monotone nonpos

theorem one_le_round {number : ℝ} (atLeast : 1 ≤ number) : 1 ≤ round number :=
  rounds.round_one ▸ rounds.monotone atLeast

theorem round_sqrt_le {less more : Nat} (below : less ≤ more) :
    round √(round less) ≤ round √(round more) :=
  rounds.monotone (Real.sqrt_le_sqrt (rounds.monotone (Nat.cast_le.mpr below)))

theorem one_le_round_sqrt {count : Nat} (some : 1 ≤ count) : 1 ≤ round √(round count) :=
  rounds.one_le_round (Real.one_le_sqrt.mpr (rounds.one_le_round (Nat.one_le_cast.mpr some)))

/-- The root of a finite count is finite, and both are rounded. -/
theorem sqrt_natural {count : Nat} (finite : IsFinite (Analytic.natural count)) :
    IsFinite (Analytic.sqrt (Analytic.natural count)) ∧
      value (Analytic.sqrt (Analytic.natural count)) = round √(round count) := by
  have counted := rounds.natural finite
  have nonneg : 0 ≤ value (Analytic.natural count) :=
    counted ▸ rounds.round_nonneg (Nat.cast_nonneg count)
  rw [← counted]
  exact rounds.sqrt finite nonneg

end RoundsMonotonically

end QuestionSearch
