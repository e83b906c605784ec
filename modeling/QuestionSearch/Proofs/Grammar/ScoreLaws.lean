import QuestionSearch.Grammar.Model

/-!
# Laws of scores

The logarithms of probabilities are never positive, and so are their sums. Adding them keeps their
order, and a sum is never better than a part of it. The best derivations are found for all scores
with these laws, be their sums exact or rounded.
-/

namespace QuestionSearch.Grammar

/-- Laws of the scores among the values of a type: the logarithms of probabilities, which are not
positive, and their sums. The first score is at most the second one if the second is not less. Among
floating-point numbers negative zero is no score, as it is neither a logarithm nor such a sum. -/
structure ScoreLaws (S : Type) [Add S] [LT S] (IsScore : S → Prop) : Prop where
  /-- A sum of scores is a score. -/
  isScore_add {a b : S} : IsScore a → IsScore b → IsScore (a + b)
  /-- Nothing is better than itself. -/
  irrefl (a : S) : ¬ a < a
  /-- What is better than something better is better. -/
  trans {a b c : S} : a < b → b < c → a < c
  /-- Of two different scores one is better. -/
  trichotomy {a b : S} : IsScore a → IsScore b → a < b ∨ a = b ∨ b < a
  /-- A sum is not better than its left part. -/
  add_le_left {a b : S} : IsScore a → IsScore b → ¬ a < a + b
  /-- A sum is not better than its right part. -/
  add_le_right {a b : S} : IsScore a → IsScore b → ¬ b < a + b
  /-- A sum grows with its left part. -/
  add_mono_left {a b c : S} : IsScore a → IsScore b → IsScore c → ¬ b < a → ¬ b + c < a + c
  /-- A sum grows with its right part. -/
  add_mono_right {a b c : S} : IsScore a → IsScore b → IsScore c → ¬ b < a → ¬ c + b < c + a

/-- The laws that comparing needs: those by which of several scores a best one can be found. Two
scores neither of which is less than the other may differ, as the two zeros do among floating-point
numbers. -/
structure ScoreOrder (S : Type) [Add S] [LT S] (IsScore : S → Prop) : Prop where
  /-- A sum of scores is a score. -/
  isScore_add {a b : S} : IsScore a → IsScore b → IsScore (a + b)
  /-- Nothing is better than itself. -/
  irrefl (a : S) : ¬ a < a
  /-- What is better than something better is better. -/
  trans {a b c : S} : a < b → b < c → a < c
  /-- Of two different scores one is better than the other, or both are alike to a third one. -/
  lt_or_lt {a b c : S} : IsScore a → IsScore b → IsScore c → a < b → a < c ∨ c < b

/-- The score of a derivation by a rule for two nonterminals. -/
theorem ScoreOrder.isScore_total {S : Type} [Add S] [LT S] {IsScore : S → Prop} {a b w : S}
    (order : ScoreOrder S IsScore) (weight : IsScore w) (left : IsScore a) (right : IsScore b) :
    IsScore (w + a + b) :=
  order.isScore_add (order.isScore_add weight left) right

namespace ScoreLaws

variable {S : Type} [Add S] [LT S] {IsScore : S → Prop} {a b c d w : S}

theorem order (laws : ScoreLaws S IsScore) : ScoreOrder S IsScore where
  isScore_add := laws.isScore_add
  irrefl := laws.irrefl
  trans := laws.trans
  lt_or_lt {a b c} scoreA _ scoreC aLtB := by
    rcases laws.trichotomy scoreA scoreC with aLtC | rfl | cLtA
    · exact Or.inl aLtC
    · exact Or.inr aLtB
    · exact Or.inr (laws.trans cLtA aLtB)

theorem le_trans (laws : ScoreLaws S IsScore) (scoreA : IsScore a) (scoreB : IsScore b)
    (aLeB : ¬ b < a) (bLeC : ¬ c < b) : ¬ c < a := by
  intro cLtA
  rcases laws.trichotomy scoreA scoreB with aLtB | rfl | bLtA
  · exact bLeC (laws.trans cLtA aLtB)
  · exact bLeC cLtA
  · exact aLeB bLtA

theorem le_of_le_of_lt (laws : ScoreLaws S IsScore) (aLeB : ¬ b < a) (bLtC : b < c) : ¬ c < a :=
  fun cLtA => aLeB (laws.trans bLtC cLtA)

theorem le_antisymm (laws : ScoreLaws S IsScore) (scoreA : IsScore a) (scoreB : IsScore b)
    (aLeB : ¬ b < a) (bLeA : ¬ a < b) : a = b := by
  rcases laws.trichotomy scoreA scoreB with aLtB | equal | bLtA
  · exact absurd aLtB bLeA
  · exact equal
  · exact absurd bLtA aLeB

theorem lt_or_eq_of_le (laws : ScoreLaws S IsScore) (scoreA : IsScore a) (scoreB : IsScore b)
    (aLeB : ¬ b < a) : a < b ∨ a = b := by
  rcases laws.trichotomy scoreA scoreB with aLtB | equal | bLtA
  · exact Or.inl aLtB
  · exact Or.inr equal
  · exact absurd bLtA aLeB

theorem isScore_total (laws : ScoreLaws S IsScore) (weight : IsScore w) (left : IsScore a)
    (right : IsScore b) : IsScore (w + a + b) :=
  laws.order.isScore_total weight left right

theorem total_le_left (laws : ScoreLaws S IsScore) (weight : IsScore w) (left : IsScore a)
    (right : IsScore b) : ¬ a < w + a + b := by
  have inner := laws.isScore_add weight left
  exact laws.le_trans (laws.isScore_add inner right) inner (laws.add_le_left inner right)
    (laws.add_le_right weight left)

theorem total_le_right (laws : ScoreLaws S IsScore) (weight : IsScore w) (left : IsScore a)
    (right : IsScore b) : ¬ b < w + a + b :=
  laws.add_le_right (laws.isScore_add weight left) right

/-- Better parts give a better whole. -/
theorem total_mono (laws : ScoreLaws S IsScore) (weight : IsScore w) (scoreA : IsScore a)
    (scoreB : IsScore b) (scoreC : IsScore c) (scoreD : IsScore d) (aLeB : ¬ b < a)
    (cLeD : ¬ d < c) : ¬ w + b + d < w + a + c := by
  have innerA := laws.isScore_add weight scoreA
  have innerB := laws.isScore_add weight scoreB
  have leftStep : ¬ w + b + c < w + a + c :=
    laws.add_mono_left innerA innerB scoreC (laws.add_mono_right scoreA scoreB weight aLeB)
  have rightStep : ¬ w + b + d < w + b + c := laws.add_mono_right scoreC scoreD innerB cLeD
  exact laws.le_trans (laws.isScore_add innerA scoreC) (laws.isScore_add innerB scoreC) leftStep
    rightStep

end ScoreLaws

end QuestionSearch.Grammar
