import QuestionSearch.Proofs.Grammar.SimpleDerivation

/-!
# Passes

With lawful scores nothing that is held ever gets worse, and each pass adds a level to the
derivations that are found. After as many passes as there are nonterminals every nonterminal is held
with a score at least as good as that of any of its derivations (`atLeast_of_bound_le`).
-/

namespace QuestionSearch.Grammar

variable {S ι : Type}

namespace Premise

/-- Whether a premise is held with at least some score. -/
def AtLeast [LT S] (premise : Premise S) (table : Holding S ι) (score : S) : Prop :=
  match premise with
  | held symbol => table.AtLeast symbol score
  | given fixed => ¬ fixed < score

theorem AtLeast.exists_score [LT S] {premise : Premise S} {table : Holding S ι} {score : S}
    (atLeast : premise.AtLeast table score) :
    ∃ held, premise.score? table = some held ∧ ¬ held < score := by
  cases premise with
  | given fixed => exact ⟨fixed, rfl, atLeast⟩
  | held symbol =>
      obtain ⟨⟨held, reason⟩, heldEq, heldLe⟩ := atLeast
      exact ⟨held, Holding.score?_eq_some_iff.mpr ⟨reason, heldEq⟩, heldLe⟩

end Premise

namespace Relaxation

variable [Add S] [LT S] [DecidableLT S] {relaxation : Relaxation S ι} {IsScore : S → Prop}
  {bound : Nat}

theorem atLeast_offer (laws : ScoreLaws S IsScore) {table : Holding S ι} {symbol query : SymbolId}
    {candidate : S × ι} {score : S} (before : table.AtLeast query score) :
    (table.offer symbol candidate).1.AtLeast query score := by
  rcases table.offer_cases symbol candidate with ⟨kept, better⟩ | ⟨refused, _⟩
  · rw [kept]
    by_cases same : query = symbol
    · subst same
      obtain ⟨held, heldEq, heldLe⟩ := before
      exact ⟨candidate, Function.update_self .., laws.le_of_le_of_lt heldLe (better held heldEq)⟩
    · obtain ⟨held, heldEq, heldLe⟩ := before
      exact ⟨held, by simp only [Function.update_of_ne same, heldEq], heldLe⟩
  · rw [refused]
    exact before

theorem atLeast_offer_self (laws : ScoreLaws S IsScore) (table : Holding S ι) (symbol : SymbolId)
    (candidate : S × ι) : (table.offer symbol candidate).1.AtLeast symbol candidate.1 := by
  rcases table.offer_cases symbol candidate with ⟨kept, _⟩ | ⟨refused, atLeast⟩
  · rw [kept]
    exact ⟨candidate, Function.update_self .., laws.irrefl _⟩
  · rw [refused]
    exact atLeast

theorem atLeast_offerAll (laws : ScoreLaws S IsScore) {candidates : List (SymbolId × S × ι)}
    {table : Holding S ι} {query : SymbolId} {score : S} (before : table.AtLeast query score) :
    (table.offerAll candidates).AtLeast query score := by
  induction candidates generalizing table with
  | nil => exact before
  | cons candidate rest ih => exact ih (atLeast_offer laws before)

theorem atLeast_offerAll_of_mem (laws : ScoreLaws S IsScore) (table : Holding S ι)
    {candidates : List (SymbolId × S × ι)} {candidate : SymbolId × S × ι}
    (member : candidate ∈ candidates) :
    (table.offerAll candidates).AtLeast candidate.1 candidate.2.1 := by
  obtain ⟨earlier, later, rfl⟩ := List.append_of_mem member
  rw [Holding.offerAll, List.foldl_append, List.foldl_cons]
  exact atLeast_offerAll laws (atLeast_offer_self laws _ _ _)

theorem atLeast_apply (laws : ScoreLaws S IsScore) {state : Holding S ι × Bool}
    {inference : Inference S ι} {query : SymbolId} {score : S}
    (before : state.1.AtLeast query score) : (inference.apply state).1.AtLeast query score := by
  rcases inference.apply_cases state with ⟨left, right, _, _, applied⟩ | ⟨_, applied⟩
  · rw [applied]
    exact atLeast_offer laws before
  · rw [applied]
    exact before

theorem atLeast_foldl_apply (laws : ScoreLaws S IsScore) {inferences : List (Inference S ι)}
    {state : Holding S ι × Bool} {query : SymbolId} {score : S}
    (before : state.1.AtLeast query score) :
    (inferences.foldl Inference.apply state).1.AtLeast query score := by
  induction inferences generalizing state with
  | nil => exact before
  | cons inference rest ih => exact ih (atLeast_apply laws before)

theorem atLeast_after (laws : ScoreLaws S IsScore) {passes more : Nat} (le : passes ≤ more)
    {query : SymbolId} {score : S} (before : (relaxation.after passes).AtLeast query score) :
    (relaxation.after more).AtLeast query score := by
  induction le with
  | refl => exact before
  | step _ ih =>
      rw [after_succ]
      exact atLeast_foldl_apply laws ih

theorem premise_atLeast_foldl_apply (laws : ScoreLaws S IsScore)
    {inferences : List (Inference S ι)} {state : Holding S ι × Bool} {premise : Premise S}
    {score : S} (before : premise.AtLeast state.1 score) :
    premise.AtLeast (inferences.foldl Inference.apply state).1 score := by
  cases premise with
  | given fixed => exact before
  | held symbol =>
      have symbolBefore : state.1.AtLeast symbol score := before
      exact atLeast_foldl_apply laws symbolBefore

theorem scores_after (order : ScoreOrder S IsScore) (lawful : relaxation.Lawful IsScore bound)
    (passes : Nat) :
    (relaxation.after passes).All fun symbol held => symbol < bound ∧ IsScore held.1 :=
  all_after lawful.start
    (fun _ member _ scores _ _ leftEq rightEq =>
      isScore_infer order lawful member scores leftEq rightEq) passes

/-- All that is held is derived. -/
theorem derived_after (passes : Nat) :
    (relaxation.after passes).All fun symbol held =>
      ∃ levels, Derived relaxation levels (.held symbol) held.1 :=
  all_after (fun _ _ first => ⟨0, .start first⟩)
    (fun _ member _ derived _ _ leftEq rightEq => derived_infer member derived leftEq rightEq)
    passes

/-- Once both premises are held well enough, an inference derives what follows from them. -/
theorem atLeast_apply_head (laws : ScoreLaws S IsScore) (lawful : relaxation.Lawful IsScore bound)
    {inference : Inference S ι} (member : inference ∈ relaxation.inferences)
    {state : Holding S ι × Bool}
    (scores : state.1.All fun symbol held => symbol < bound ∧ IsScore held.1) {left right : S}
    (leftScore : IsScore left) (rightScore : IsScore right)
    (leftAtLeast : inference.left.AtLeast state.1 left)
    (rightAtLeast : inference.right.AtLeast state.1 right) :
    (inference.apply state).1.AtLeast inference.head (inference.weight + left + right) := by
  obtain ⟨heldLeft, leftEq, leftLe⟩ := leftAtLeast.exists_score
  obtain ⟨heldRight, rightEq, rightLe⟩ := rightAtLeast.exists_score
  have weightScore := (lawful.infer _ member).weight
  have heldLeftScore := Premise.isScore_of_score? scores (lawful.infer _ member).left leftEq
  have heldRightScore := Premise.isScore_of_score? scores (lawful.infer _ member).right rightEq
  have offered : (inference.apply state).1.AtLeast inference.head
      (inference.weight + heldLeft + heldRight) := by
    rcases inference.apply_cases state with ⟨_, _, foundLeft, foundRight, applied⟩ | ⟨missing, _⟩
    · obtain rfl := Option.some.inj (leftEq.symm.trans foundLeft)
      obtain rfl := Option.some.inj (rightEq.symm.trans foundRight)
      rw [applied]
      exact atLeast_offer_self laws ..
    · simp [leftEq, rightEq] at missing
  obtain ⟨held, heldEq, heldLe⟩ := offered
  refine ⟨held, heldEq, laws.le_trans (laws.isScore_total weightScore leftScore rightScore)
    (laws.isScore_total weightScore heldLeftScore heldRightScore) ?_ heldLe⟩
  exact laws.total_mono weightScore leftScore heldLeftScore rightScore heldRightScore leftLe rightLe

theorem atLeast_pass (laws : ScoreLaws S IsScore) (lawful : relaxation.Lawful IsScore bound)
    {table : Holding S ι} (scores : table.All fun symbol held => symbol < bound ∧ IsScore held.1)
    {inference : Inference S ι} (member : inference ∈ relaxation.inferences) {left right : S}
    (leftScore : IsScore left) (rightScore : IsScore right)
    (leftAtLeast : inference.left.AtLeast table left)
    (rightAtLeast : inference.right.AtLeast table right) :
    (relaxation.pass table).1.AtLeast inference.head (inference.weight + left + right) := by
  obtain ⟨earlier, later, split⟩ := List.append_of_mem member
  rw [pass, split, List.foldl_append, List.foldl_cons]
  apply atLeast_foldl_apply laws
  refine atLeast_apply_head laws lawful member ?_ leftScore rightScore
    (premise_atLeast_foldl_apply laws leftAtLeast) (premise_atLeast_foldl_apply laws rightAtLeast)
  refine Inference.all_foldl_apply scores ?_
  intro other otherMember middle middleScores _ _ leftEq rightEq
  have inAll : other ∈ relaxation.inferences := by
    rw [split]
    exact List.mem_append_left _ otherMember
  exact isScore_infer laws.order lawful inAll middleScores leftEq rightEq

/-- Each pass adds a level to the derivations that are found. -/
theorem atLeast_of_derived (laws : ScoreLaws S IsScore) (lawful : relaxation.Lawful IsScore bound)
    {levels : Nat} {premise : Premise S} {score : S} (premiseLawful : premise.Lawful IsScore bound)
    (derived : Derived relaxation levels premise score) :
    premise.AtLeast (relaxation.after levels) score := by
  induction derived with
  | given score => exact laws.irrefl score
  | start first => exact atLeast_after laws (Nat.zero_le _) ⟨_, first, laws.irrefl _⟩
  | infer member leftDerived rightDerived ihLeft ihRight =>
      have leftLawful := (lawful.infer _ member).left
      have rightLawful := (lawful.infer _ member).right
      rw [after_succ]
      exact atLeast_pass laws lawful (scores_after laws.order lawful _) member
        (leftDerived.isScore laws lawful leftLawful) (rightDerived.isScore laws lawful rightLawful)
        (ihLeft leftLawful) (ihRight rightLawful)

/-- After as many passes as there are nonterminals, all derivations are found. -/
theorem atLeast_of_bound_le (laws : ScoreLaws S IsScore) (lawful : relaxation.Lawful IsScore bound)
    {passes : Nat} (enough : bound ≤ passes) {levels : Nat} {symbol : SymbolId} {score : S}
    (symbolLt : symbol < bound) (derived : Derived relaxation levels (.held symbol) score) :
    (relaxation.after passes).AtLeast symbol score := by
  have premiseLawful : (Premise.held symbol).Lawful IsScore bound := symbolLt
  obtain ⟨used, simpleScore, simple, isScore, simpleLe⟩ :=
    derived.exists_simple laws lawful premiseLawful
  have found := atLeast_of_derived laws lawful premiseLawful (simple.derived_bound lawful)
  obtain ⟨held, heldEq, heldLe⟩ := atLeast_after laws enough found
  exact ⟨held, heldEq,
    laws.le_trans (derived.isScore laws lawful premiseLawful) isScore simpleLe heldLe⟩

end Relaxation

end QuestionSearch.Grammar
