import QuestionSearch.Proofs.Classifier.Labels
import QuestionSearch.Proofs.ExactArithmetic
import QuestionSearch.Proofs.FirstOfBest

/-!
# Winners

Both classifiers go through their scored classes and keep the first one until a class with a higher
score comes. So the class that is kept leads: it is the first of the best ones
(`leads_foldl_better`). In exact arithmetic its share of the sum of all scores
lies between an equal share and the whole (`share_of_best`).
-/

namespace QuestionSearch.Classifier

open Grammar (ScoreOrder)

section Leads

variable {R : Type} [LT R]

/-- Whether a scored class is the first of the best ones. -/
def Leads (candidates : List (String × R)) (best : String × R) : Prop :=
  IsFirstOfBest Prod.snd (fun _ => True) candidates best

variable [Add R] [DecidableLT R] {IsScore : R → Prop}

/-- The first of the best candidates is kept to the end. -/
theorem leads_foldl_better (order : ScoreOrder R IsScore) {first : String × R}
    {rest : List (String × R)} (scores : ∀ candidate ∈ first :: rest, IsScore candidate.2) :
    Leads (first :: rest) (rest.foldl NaiveBayes.better first) := by
  induction rest using List.reverseRecOn with
  | nil => exact ⟨[], [], rfl, by simp, by simp⟩
  | append_singleton before last ih =>
      rw [← List.cons_append] at scores ⊢
      have leads := ih fun candidate member => scores candidate (List.mem_append_left _ member)
      rw [List.foldl_append, List.foldl_cons, List.foldl_nil, NaiveBayes.better]
      split
      · rename_i higher
        exact IsFirstOfBest.replace order scores leads higher
      · rename_i late
        exact IsFirstOfBest.append leads fun _ => late

omit [Add R] in
/-- Nearest neighbours keep a class like naive Bayes once there is one. -/
theorem NearestNeighbours.foldl_better_some (first : String × R) (rest : List (String × R)) :
    rest.foldl NearestNeighbours.better (some first) =
      some (rest.foldl NaiveBayes.better first) := by
  induction rest generalizing first with
  | nil => rfl
  | cons second rest ih =>
      have step : NearestNeighbours.better (some first) second =
          some (NaiveBayes.better first second) := by
        rw [NearestNeighbours.better, NaiveBayes.better]
        split <;> rfl
      rw [List.foldl_cons, List.foldl_cons, step, ih]

end Leads

/-- Real numbers are ordered linearly. -/
theorem scoreOrder_real : ScoreOrder ℝ fun _ => True where
  isScore_add _ _ := trivial
  irrefl := lt_irrefl
  trans := lt_trans
  lt_or_lt {a _ c} _ _ _ less :=
    (lt_or_ge a c).imp_right fun atMost => lt_of_le_of_lt atMost less

/-- The share that the best of some positive values has in their sum is an equal share at least. -/
theorem share_of_best {ι : Type} {items : Finset ι} {value : ι → ℝ}
    (pos : ∀ item ∈ items, 0 < value item) {best : ι} (member : best ∈ items)
    (greatest : ∀ item ∈ items, value item ≤ value best) :
    1 / (items.card : ℝ) ≤ value best / ∑ item ∈ items, value item ∧
      value best / ∑ item ∈ items, value item ≤ 1 := by
  have sumPos : 0 < ∑ item ∈ items, value item := Finset.sum_pos pos ⟨best, member⟩
  have cardPos : (0 : ℝ) < items.card := Nat.cast_pos.mpr (Finset.card_pos.mpr ⟨best, member⟩)
  constructor
  · rw [div_le_div_iff₀ cardPos sumPos, one_mul, mul_comm]
    simpa [nsmul_eq_mul] using Finset.sum_le_card_nsmul items value (value best) greatest
  · rw [div_le_one sumPos]
    exact Finset.single_le_sum (fun item itemMem => (pos item itemMem).le) member

end QuestionSearch.Classifier
