import QuestionSearch.Proofs.Grammar.Relaxation

/-!
# Derivations without repetition

What a relaxation can derive, by trees of inferences. No best derivation needs a nonterminal twice
on a way from its root to a leaf, for the part below the upper one is no better than the part below
the lower one (`Derived.exists_simple`). So with so many nonterminals as many levels are enough.
-/

namespace QuestionSearch.Grammar

variable {S ι : Type}

/-- Whether a premise names a nonterminal below a bound, or gives a score. -/
def Premise.Lawful (IsScore : S → Prop) (bound : Nat) : Premise S → Prop
  | held symbol => symbol < bound
  | given score => IsScore score

/-- Whether an inference adds scores and is about nonterminals below a bound. -/
structure Inference.Lawful (inference : Inference S ι) (IsScore : S → Prop) (bound : Nat) :
    Prop where
  /-- The derived nonterminal is below the bound. -/
  head : inference.head < bound
  /-- The weight is a score. -/
  weight : IsScore inference.weight
  /-- The left premise. -/
  left : inference.left.Lawful IsScore bound
  /-- The right premise. -/
  right : inference.right.Lawful IsScore bound

theorem Premise.isScore_of_score? {IsScore : S → Prop} {bound : Nat} {premise : Premise S}
    {table : Holding S ι} {score : S}
    (scores : table.All fun symbol held => symbol < bound ∧ IsScore held.1)
    (lawful : premise.Lawful IsScore bound) (scoreEq : premise.score? table = some score) :
    IsScore score := by
  cases premise with
  | given fixed => exact Option.some.inj scoreEq ▸ lawful
  | held symbol =>
      obtain ⟨reason, heldEq⟩ := Holding.score?_eq_some_iff.mp scoreEq
      exact (scores symbol _ heldEq).2

namespace Relaxation

/-- Whether all scores that a relaxation begins with are scores, and all nonterminals numbered below
a bound. -/
structure Lawful (relaxation : Relaxation S ι) (IsScore : S → Prop) (bound : Nat) : Prop where
  /-- What is held at first. -/
  start : relaxation.start.All fun symbol held => symbol < bound ∧ IsScore held.1
  /-- The inferences. -/
  infer : ∀ inference ∈ relaxation.inferences, inference.Lawful IsScore bound

section Definitions

variable [Add S]

/-- A premise is derived with a score by a tree of inferences of at most so many levels. -/
inductive Derived (relaxation : Relaxation S ι) : Nat → Premise S → S → Prop
  | given {levels : Nat} (score : S) : Derived relaxation levels (.given score) score
  | start {levels : Nat} {symbol : SymbolId} {held : S × ι} :
      relaxation.start symbol = some held → Derived relaxation levels (.held symbol) held.1
  | infer {levels : Nat} {inference : Inference S ι} {left right : S} :
      inference ∈ relaxation.inferences →
      Derived relaxation levels inference.left left →
      Derived relaxation levels inference.right right →
      Derived relaxation (levels + 1) (.held inference.head) (inference.weight + left + right)

/-- A derivation in which no nonterminal stands below itself, with the nonterminals in it. -/
inductive SimplyDerived (relaxation : Relaxation S ι) : Finset SymbolId → Premise S → S → Prop
  | given (score : S) : SimplyDerived relaxation ∅ (.given score) score
  | start {symbol : SymbolId} {held : S × ι} :
      relaxation.start symbol = some held →
      SimplyDerived relaxation {symbol} (.held symbol) held.1
  | infer {inference : Inference S ι} {leftUsed rightUsed : Finset SymbolId} {left right : S} :
      inference ∈ relaxation.inferences →
      SimplyDerived relaxation leftUsed inference.left left →
      SimplyDerived relaxation rightUsed inference.right right →
      inference.head ∉ leftUsed ∪ rightUsed →
      SimplyDerived relaxation (insert inference.head (leftUsed ∪ rightUsed))
        (.held inference.head) (inference.weight + left + right)

end Definitions

variable [Add S] {relaxation : Relaxation S ι} {IsScore : S → Prop} {bound : Nat}

theorem Derived.mono {levels more : Nat} {premise : Premise S} {score : S}
    (derived : Derived relaxation levels premise score) (le : levels ≤ more) :
    Derived relaxation more premise score := by
  induction derived generalizing more with
  | given score => exact .given score
  | start first => exact .start first
  | infer member _ _ ihLeft ihRight =>
      cases more with
      | zero => exact absurd le (Nat.not_succ_le_zero _)
      | succ more =>
          have lower := Nat.le_of_succ_le_succ le
          exact .infer member (ihLeft lower) (ihRight lower)

theorem Derived.isScore [LT S] (laws : ScoreLaws S IsScore)
    (lawful : relaxation.Lawful IsScore bound) {levels : Nat} {premise : Premise S} {score : S}
    (premiseLawful : premise.Lawful IsScore bound)
    (derived : Derived relaxation levels premise score) : IsScore score := by
  induction derived with
  | given score => exact premiseLawful
  | start first => exact (lawful.start _ _ first).2
  | infer member _ _ ihLeft ihRight =>
      exact laws.isScore_total (lawful.infer _ member).weight (ihLeft (lawful.infer _ member).left)
        (ihRight (lawful.infer _ member).right)

theorem derived_of_score? {table : Holding S ι}
    (derived : table.All fun symbol held =>
      ∃ levels, Derived relaxation levels (.held symbol) held.1)
    {premise : Premise S} {score : S} (scoreEq : premise.score? table = some score) :
    ∃ levels, Derived relaxation levels premise score := by
  cases premise with
  | given fixed =>
      obtain rfl := Option.some.inj scoreEq
      exact ⟨0, .given _⟩
  | held symbol =>
      obtain ⟨reason, heldEq⟩ := Holding.score?_eq_some_iff.mp scoreEq
      exact derived symbol _ heldEq

theorem derived_infer {inference : Inference S ι} (member : inference ∈ relaxation.inferences)
    {table : Holding S ι}
    (derived : table.All fun symbol held =>
      ∃ levels, Derived relaxation levels (.held symbol) held.1)
    {left right : S} (leftEq : inference.left.score? table = some left)
    (rightEq : inference.right.score? table = some right) :
    ∃ levels,
      Derived relaxation levels (.held inference.head) (inference.weight + left + right) := by
  obtain ⟨leftLevels, leftDerived⟩ := derived_of_score? derived leftEq
  obtain ⟨rightLevels, rightDerived⟩ := derived_of_score? derived rightEq
  exact ⟨max leftLevels rightLevels + 1, .infer member
    (leftDerived.mono (Nat.le_max_left _ _)) (rightDerived.mono (Nat.le_max_right _ _))⟩

theorem SimplyDerived.used_lt (lawful : relaxation.Lawful IsScore bound) {used : Finset SymbolId}
    {premise : Premise S} {score : S} (derived : SimplyDerived relaxation used premise score) :
    ∀ symbol ∈ used, symbol < bound := by
  induction derived with
  | given => simp
  | start first => simpa using (lawful.start _ _ first).1
  | infer member _ _ _ ihLeft ihRight =>
      intro symbol used
      rcases Finset.mem_insert.mp used with rfl | below
      · exact (lawful.infer _ member).head
      · rcases Finset.mem_union.mp below with inLeft | inRight
        · exact ihLeft symbol inLeft
        · exact ihRight symbol inRight

/-- Without repetition there are no more levels than nonterminals. -/
theorem SimplyDerived.derived {used : Finset SymbolId} {premise : Premise S} {score : S}
    (derived : SimplyDerived relaxation used premise score) :
    Derived relaxation used.card premise score := by
  induction derived with
  | given score => exact .given score
  | start first => exact .start first
  | infer member _ _ new ihLeft ihRight =>
      rw [Finset.card_insert_of_notMem new]
      exact .infer member (ihLeft.mono (Finset.card_le_card Finset.subset_union_left))
        (ihRight.mono (Finset.card_le_card Finset.subset_union_right))

theorem SimplyDerived.derived_bound (lawful : relaxation.Lawful IsScore bound)
    {used : Finset SymbolId} {premise : Premise S} {score : S}
    (derived : SimplyDerived relaxation used premise score) :
    Derived relaxation bound premise score := by
  refine derived.derived.mono ?_
  calc
    used.card ≤ (Finset.range bound).card :=
      Finset.card_le_card fun symbol member =>
        Finset.mem_range.mpr (derived.used_lt lawful symbol member)
    _ = bound := Finset.card_range bound

section Laws

variable [LT S]

/-- Every part of a derivation is at least as good as the whole. -/
theorem SimplyDerived.part (laws : ScoreLaws S IsScore) (lawful : relaxation.Lawful IsScore bound)
    {used : Finset SymbolId} {premise : Premise S} {score : S}
    (derived : SimplyDerived relaxation used premise score) {symbol : SymbolId}
    (member : symbol ∈ used) :
    ∃ partUsed partScore, SimplyDerived relaxation partUsed (.held symbol) partScore ∧
      IsScore partScore ∧ ¬ partScore < score := by
  induction derived with
  | given => simp at member
  | start first =>
      obtain rfl := Finset.mem_singleton.mp member
      exact ⟨_, _, .start first, (lawful.start _ _ first).2, laws.irrefl _⟩
  | @infer inference leftUsed rightUsed left right inferenceMem leftDerived rightDerived new
      ihLeft ihRight =>
      have weightScore := (lawful.infer _ inferenceMem).weight
      have leftScore := leftDerived.derived.isScore laws lawful (lawful.infer _ inferenceMem).left
      have rightScore :=
        rightDerived.derived.isScore laws lawful (lawful.infer _ inferenceMem).right
      have totalScore := laws.isScore_total weightScore leftScore rightScore
      rcases Finset.mem_insert.mp member with rfl | below
      · exact ⟨_, _, .infer inferenceMem leftDerived rightDerived new, totalScore,
          laws.irrefl _⟩
      · rcases Finset.mem_union.mp below with inLeft | inRight
        · obtain ⟨partUsed, partScore, part, isScore, partLe⟩ := ihLeft inLeft
          have leftLe := laws.total_le_left weightScore leftScore rightScore
          exact ⟨partUsed, partScore, part, isScore,
            laws.le_trans totalScore leftScore leftLe partLe⟩
        · obtain ⟨partUsed, partScore, part, isScore, partLe⟩ := ihRight inRight
          have rightLe := laws.total_le_right weightScore leftScore rightScore
          exact ⟨partUsed, partScore, part, isScore,
            laws.le_trans totalScore rightScore rightLe partLe⟩

/-- Every derivation has one without repetition that is at least as good. -/
theorem Derived.exists_simple (laws : ScoreLaws S IsScore)
    (lawful : relaxation.Lawful IsScore bound) {levels : Nat} {premise : Premise S} {score : S}
    (premiseLawful : premise.Lawful IsScore bound)
    (derived : Derived relaxation levels premise score) :
    ∃ used simpleScore, SimplyDerived relaxation used premise simpleScore ∧
      IsScore simpleScore ∧ ¬ simpleScore < score := by
  induction derived with
  | given score => exact ⟨_, _, .given score, premiseLawful, laws.irrefl _⟩
  | start first =>
      exact ⟨_, _, .start first, (lawful.start _ _ first).2, laws.irrefl _⟩
  | @infer levels inference left right member leftDerived rightDerived ihLeft ihRight =>
      have leftLawful := (lawful.infer _ member).left
      have rightLawful := (lawful.infer _ member).right
      obtain ⟨leftUsed, simpleLeft, leftSimple, simpleLeftScore, leftLe⟩ := ihLeft leftLawful
      obtain ⟨rightUsed, simpleRight, rightSimple, simpleRightScore, rightLe⟩ :=
        ihRight rightLawful
      have weightScore := (lawful.infer _ member).weight
      have leftScore := leftDerived.isScore laws lawful leftLawful
      have rightScore := rightDerived.isScore laws lawful rightLawful
      have simpleTotal := laws.isScore_total weightScore simpleLeftScore simpleRightScore
      have totalLe := laws.total_mono weightScore leftScore simpleLeftScore rightScore
        simpleRightScore leftLe rightLe
      by_cases repeated : inference.head ∈ leftUsed ∪ rightUsed
      · -- The head occurs in a part already, and that part alone is at least as good.
        have cut : ∃ partUsed partScore,
            SimplyDerived relaxation partUsed (.held inference.head) partScore ∧
              IsScore partScore ∧ ¬ partScore < inference.weight + simpleLeft + simpleRight := by
          rcases Finset.mem_union.mp repeated with inLeft | inRight
          · obtain ⟨partUsed, partScore, part, isScore, partLe⟩ :=
              leftSimple.part laws lawful inLeft
            have leftBetter := laws.total_le_left weightScore simpleLeftScore simpleRightScore
            exact ⟨partUsed, partScore, part, isScore,
              laws.le_trans simpleTotal simpleLeftScore leftBetter partLe⟩
          · obtain ⟨partUsed, partScore, part, isScore, partLe⟩ :=
              rightSimple.part laws lawful inRight
            have rightBetter := laws.total_le_right weightScore simpleLeftScore simpleRightScore
            exact ⟨partUsed, partScore, part, isScore,
              laws.le_trans simpleTotal simpleRightScore rightBetter partLe⟩
        obtain ⟨partUsed, partScore, part, isScore, partLe⟩ := cut
        have totalScore := laws.isScore_total weightScore leftScore rightScore
        exact ⟨partUsed, partScore, part, isScore,
          laws.le_trans totalScore simpleTotal totalLe partLe⟩
      · exact ⟨_, _, .infer member leftSimple rightSimple repeated, simpleTotal, totalLe⟩

/-- What an inference derives from scores is a score. -/
theorem isScore_infer (order : ScoreOrder S IsScore) (lawful : relaxation.Lawful IsScore bound)
    {inference : Inference S ι} (member : inference ∈ relaxation.inferences) {table : Holding S ι}
    (scores : table.All fun symbol held => symbol < bound ∧ IsScore held.1) {left right : S}
    (leftEq : inference.left.score? table = some left)
    (rightEq : inference.right.score? table = some right) :
    inference.head < bound ∧ IsScore (inference.weight + left + right) :=
  ⟨(lawful.infer _ member).head, order.isScore_total (lawful.infer _ member).weight
    (Premise.isScore_of_score? scores (lawful.infer _ member).left leftEq)
    (Premise.isScore_of_score? scores (lawful.infer _ member).right rightEq)⟩

end Laws

end Relaxation

end QuestionSearch.Grammar
