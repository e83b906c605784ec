import Mathlib.Analysis.SpecialFunctions.Log.Basic
import QuestionSearch.Proofs.Ranking

/-!
# Exact arithmetic of scores

Scores computed with real numbers: nothing is rounded, and no product vanishes.
-/

namespace QuestionSearch

noncomputable instance : Analytic ℝ where
  natural := Nat.cast
  sqrt := Real.sqrt
  ln := Real.log
  exp := Real.exp

noncomputable instance : Ranked ℝ where
  atMost x y := decide (x ≤ y)

@[simp]
theorem natural_real (count : Nat) : (Analytic.natural count : ℝ) = count := rfl

@[simp]
theorem sqrt_real (value : ℝ) : Analytic.sqrt value = √value := rfl

@[simp]
theorem ln_real (value : ℝ) : Analytic.ln value = Real.log value := rfl

@[simp]
theorem exp_real (value : ℝ) : Analytic.exp value = Real.exp value := rfl

@[simp]
theorem sumOf_real (terms : List ℝ) : sumOf terms = terms.sum := by
  simp [sumOf, List.sum_eq_foldl]

theorem linearlyRanked_real : LinearlyRanked ℝ :=
  linearlyRanked_of_rank (fun _ _ => decide_eq_true_iff) Function.injective_id

end QuestionSearch
