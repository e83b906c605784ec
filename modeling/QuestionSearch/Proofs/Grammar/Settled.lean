import QuestionSearch.Proofs.Grammar.Passes

/-!
# Settled tables

With lawful scores a relaxation over so many nonterminals holds the best score of every nonterminal
after as many passes (`result_settled`). What is found refers to what was found before it or to
something better, so that the references never run in a circle: whatever is held has a rank and
refers to lower ranks, and its score is the sum of what they are held with.
-/

namespace QuestionSearch.Grammar

variable {S ι : Type}

namespace Premise

/-- The time at which a premise was found. -/
def time (times : SymbolId → Nat) : Premise S → Nat
  | held symbol => times symbol
  | given _ => 0

/-- Whether a premise was used with some score for a whole of another score at some time: what is
held for it is at least as good as when it was used, and better than the whole or found earlier. -/
def UsedFor [LT S] (table : Holding S ι) (times : SymbolId → Nat) (whole : S) (limit : Nat)
    (used : S) : Premise S → Prop
  | held symbol => ∃ held, table symbol = some held ∧ ¬ held.1 < used ∧
      (whole < held.1 ∨ whole = held.1 ∧ times symbol < limit)
  | given score => used = score

end Premise

namespace Relaxation

/-- Whether all that is held was held at first or was found from premises of earlier times. -/
def Dated [Add S] [LT S] (relaxation : Relaxation S ι) (IsScore : S → Prop)
    (times : SymbolId → Nat) (table : Holding S ι) : Prop :=
  table.All fun symbol held =>
    relaxation.start symbol = some held ∨
      ∃ inference ∈ relaxation.inferences, ∃ left right,
        inference.head = symbol ∧ inference.reason = held.2 ∧
          held.1 = inference.weight + left + right ∧ IsScore left ∧ IsScore right ∧
          inference.left.UsedFor table times held.1 (times symbol) left ∧
          inference.right.UsedFor table times held.1 (times symbol) right

/-- A table that holds the best score of every nonterminal, and how it is found. -/
structure Settled [Add S] [LT S] (relaxation : Relaxation S ι) (bound : Nat)
    (table : Holding S ι) : Prop where
  /-- Nothing is held that is worse than at first. -/
  extends_start : ∀ symbol score, relaxation.start.AtLeast symbol score →
    table.AtLeast symbol score
  /-- No inference makes anything better. -/
  closed : ∀ inference ∈ relaxation.inferences, ∀ left right,
    inference.left.score? table = some left → inference.right.score? table = some right →
      table.AtLeast inference.head (inference.weight + left + right)
  /-- All that is held was held at first or follows from what ranks lower. -/
  founded : ∃ rank : SymbolId → Nat, table.All fun symbol held =>
    rank symbol < bound ∧
      (relaxation.start symbol = some held ∨
        ∃ inference ∈ relaxation.inferences, ∃ left right,
          inference.head = symbol ∧ inference.reason = held.2 ∧
            held.1 = inference.weight + left + right ∧
            inference.left.score? table = some left ∧
            inference.right.score? table = some right ∧
            inference.left.RanksBelow rank (rank symbol) ∧
            inference.right.RanksBelow rank (rank symbol))

/-- Whether a nonterminal is held with a better score than another one, or with the same score and
was found earlier. -/
def Ahead [LT S] (table : Holding S ι) (times : SymbolId → Nat) (first second : SymbolId) : Prop :=
  ∃ better worse, table first = some better ∧ table second = some worse ∧
    (worse.1 < better.1 ∨ worse.1 = better.1 ∧ times first < times second)

section Order

variable [Add S] [LT S] {IsScore : S → Prop} {bound : Nat}

/-- A premise that was used stays usable when something better is kept. -/
theorem usedFor_update (laws : ScoreLaws S IsScore) {table : Holding S ι} {times : SymbolId → Nat}
    {symbol : SymbolId} {candidate : S × ι} {now : Nat}
    (better : ∀ held, table symbol = some held → held.1 < candidate.1) {premise : Premise S}
    {whole used : S} {limit : Nat} (usedFor : premise.UsedFor table times whole limit used) :
    premise.UsedFor (Function.update table symbol (some candidate))
      (Function.update times symbol now) whole limit used := by
  cases premise with
  | given fixed => exact usedFor
  | held query =>
      obtain ⟨held, heldEq, heldLe, order⟩ := usedFor
      by_cases same : query = symbol
      · subst same
        have heldLt := better held heldEq
        refine ⟨candidate, Function.update_self .., laws.le_of_le_of_lt heldLe heldLt, Or.inl ?_⟩
        rcases order with wholeLt | ⟨wholeEq, _⟩
        · exact laws.trans wholeLt heldLt
        · exact wholeEq ▸ heldLt
      · refine ⟨held, ?_, heldLe, ?_⟩
        · rw [Function.update_of_ne same, heldEq]
        · rw [Function.update_of_ne same]
          exact order

/-- A premise that is used now was found before. -/
theorem usedFor_now (laws : ScoreLaws S IsScore) {table : Holding S ι} {times : SymbolId → Nat}
    {symbol : SymbolId} {candidate : S × ι} {now : Nat}
    (scores : table.All fun symbol held => symbol < bound ∧ IsScore held.1)
    (candidateScore : IsScore candidate.1)
    (better : ∀ held, table symbol = some held → held.1 < candidate.1) {premise : Premise S}
    {used : S} (usedEq : premise.score? table = some used) (candidateLe : ¬ used < candidate.1)
    (later : premise.time times < now) :
    premise.UsedFor (Function.update table symbol (some candidate))
      (Function.update times symbol now) candidate.1 now used := by
  cases premise with
  | given fixed => exact (Option.some.inj usedEq).symm
  | held query =>
      obtain ⟨reason, heldEq⟩ := Holding.score?_eq_some_iff.mp usedEq
      have other : query ≠ symbol := by
        rintro rfl
        exact candidateLe (better _ heldEq)
      refine ⟨(used, reason), ?_, laws.irrefl used, ?_⟩
      · rw [Function.update_of_ne other, heldEq]
      · rw [Function.update_of_ne other]
        rcases laws.lt_or_eq_of_le candidateScore (scores query _ heldEq).2 candidateLe with lt | eq
        · exact Or.inl lt
        · exact Or.inr ⟨eq, later⟩

theorem Ahead.irrefl (laws : ScoreLaws S IsScore) {table : Holding S ι} {times : SymbolId → Nat}
    {symbol : SymbolId} : ¬ Ahead table times symbol symbol := by
  rintro ⟨better, worse, betterEq, worseEq, order⟩
  obtain rfl := Option.some.inj (betterEq.symm.trans worseEq)
  rcases order with lt | ⟨_, lt⟩
  · exact laws.irrefl _ lt
  · exact Nat.lt_irrefl _ lt

theorem Ahead.trans (laws : ScoreLaws S IsScore) {table : Holding S ι} {times : SymbolId → Nat}
    {first second third : SymbolId} (ahead : Ahead table times first second)
    (next : Ahead table times second third) : Ahead table times first third := by
  obtain ⟨best, middle, bestEq, middleEq, order⟩ := ahead
  obtain ⟨middle', worst, middleEq', worstEq, nextOrder⟩ := next
  obtain rfl := Option.some.inj (middleEq.symm.trans middleEq')
  refine ⟨best, worst, bestEq, worstEq, ?_⟩
  rcases order with lt | ⟨eq, earlier⟩ <;> rcases nextOrder with nextLt | ⟨nextEq, nextEarlier⟩
  · exact Or.inl (laws.trans nextLt lt)
  · exact Or.inl (nextEq ▸ lt)
  · exact Or.inl (eq ▸ nextLt)
  · exact Or.inr ⟨nextEq.trans eq, Nat.lt_trans earlier nextEarlier⟩

open Classical in
/-- The number of nonterminals ahead of one. -/
noncomputable def aheadCount (table : Holding S ι) (times : SymbolId → Nat) (bound : Nat)
    (symbol : SymbolId) : Nat :=
  ((Finset.range bound).filter fun other => Ahead table times other symbol).card

theorem aheadCount_lt_bound (laws : ScoreLaws S IsScore) {table : Holding S ι}
    {times : SymbolId → Nat} {symbol : SymbolId} (symbolLt : symbol < bound) :
    aheadCount table times bound symbol < bound := by
  classical
  calc
    aheadCount table times bound symbol < (Finset.range bound).card := by
      refine Finset.card_lt_card ⟨Finset.filter_subset _ _, fun all => ?_⟩
      have own := all (Finset.mem_range.mpr symbolLt)
      exact Ahead.irrefl laws (Finset.mem_filter.mp own).2
    _ = bound := Finset.card_range bound

theorem aheadCount_lt_aheadCount (laws : ScoreLaws S IsScore) {table : Holding S ι}
    {times : SymbolId → Nat} {first second : SymbolId} (firstLt : first < bound)
    (ahead : Ahead table times first second) :
    aheadCount table times bound first < aheadCount table times bound second := by
  classical
  refine Finset.card_lt_card ⟨?_, fun all => ?_⟩
  · intro other member
    obtain ⟨inRange, otherAhead⟩ := Finset.mem_filter.mp member
    exact Finset.mem_filter.mpr ⟨inRange, otherAhead.trans laws ahead⟩
  · have own := all (Finset.mem_filter.mpr ⟨Finset.mem_range.mpr firstLt, ahead⟩)
    exact Ahead.irrefl laws (Finset.mem_filter.mp own).2

/-- What a premise was used for is behind it, and it is now at least as good as then. -/
theorem exists_score_of_usedFor (laws : ScoreLaws S IsScore) {table : Holding S ι}
    {times : SymbolId → Nat} (scores : table.All fun symbol held => symbol < bound ∧ IsScore held.1)
    {symbol : SymbolId} {held : S × ι} (heldEq : table symbol = some held) {premise : Premise S}
    {used : S} (usedFor : premise.UsedFor table times held.1 (times symbol) used) :
    ∃ final, premise.score? table = some final ∧ ¬ final < used ∧
      premise.RanksBelow (aheadCount table times bound) (aheadCount table times bound symbol) := by
  cases premise with
  | given fixed =>
      obtain rfl : used = fixed := usedFor
      exact ⟨used, rfl, laws.irrefl used, trivial⟩
  | held source =>
      obtain ⟨better, betterEq, betterLe, order⟩ := usedFor
      refine ⟨better.1, Holding.score?_eq_some_iff.mpr ⟨better.2, betterEq⟩, betterLe, ?_⟩
      exact aheadCount_lt_aheadCount laws (scores source _ betterEq).1
        ⟨better, held, betterEq, heldEq, order⟩

end Order

variable [Add S] [LT S] [DecidableLT S] {relaxation : Relaxation S ι} {IsScore : S → Prop}
  {bound : Nat}

theorem exists_dated_apply (laws : ScoreLaws S IsScore) (lawful : relaxation.Lawful IsScore bound)
    {inference : Inference S ι} (member : inference ∈ relaxation.inferences)
    {state : Holding S ι × Bool}
    (scores : state.1.All fun symbol held => symbol < bound ∧ IsScore held.1)
    (before : ∃ times, relaxation.Dated IsScore times state.1) :
    ∃ times, relaxation.Dated IsScore times (inference.apply state).1 := by
  obtain ⟨times, dated⟩ := before
  rcases inference.apply_cases state with ⟨left, right, leftEq, rightEq, applied⟩ | ⟨_, applied⟩
  case inr => exact ⟨times, by simpa only [applied] using dated⟩
  rw [applied]
  rcases state.1.offer_cases inference.head (inference.weight + left + right, inference.reason)
    with ⟨kept, better⟩ | ⟨refused, _⟩
  case inr => exact ⟨times, by simpa only [refused] using dated⟩
  rw [kept]
  have weightScore := (lawful.infer _ member).weight
  have leftScore := Premise.isScore_of_score? scores (lawful.infer _ member).left leftEq
  have rightScore := Premise.isScore_of_score? scores (lawful.infer _ member).right rightEq
  have totalScore := laws.isScore_total weightScore leftScore rightScore
  let now := max (inference.left.time times) (inference.right.time times) + 1
  refine ⟨Function.update times inference.head now, ?_⟩
  intro symbol held heldEq
  by_cases same : symbol = inference.head
  · subst same
    simp only [Function.update_self, Option.some.injEq] at heldEq
    subst heldEq
    rw [Function.update_self]
    refine Or.inr ⟨inference, member, left, right, rfl, rfl, rfl, leftScore, rightScore, ?_, ?_⟩
    · exact usedFor_now laws scores totalScore better leftEq
        (laws.total_le_left weightScore leftScore rightScore)
        (Nat.lt_succ_of_le (Nat.le_max_left _ _))
    · exact usedFor_now laws scores totalScore better rightEq
        (laws.total_le_right weightScore leftScore rightScore)
        (Nat.lt_succ_of_le (Nat.le_max_right _ _))
  · simp only [Function.update_of_ne same] at heldEq ⊢
    rcases dated symbol held heldEq with
      first | ⟨other, otherMem, l, r, headEq, reasonEq, totalEq, lScore, rScore, lUsed, rUsed⟩
    · exact Or.inl first
    · exact Or.inr ⟨other, otherMem, l, r, headEq, reasonEq, totalEq, lScore, rScore,
        usedFor_update laws better lUsed, usedFor_update laws better rUsed⟩

theorem exists_dated_foldl_apply (laws : ScoreLaws S IsScore)
    (lawful : relaxation.Lawful IsScore bound) {inferences : List (Inference S ι)}
    (members : ∀ inference ∈ inferences, inference ∈ relaxation.inferences)
    {state : Holding S ι × Bool}
    (scores : state.1.All fun symbol held => symbol < bound ∧ IsScore held.1)
    (before : ∃ times, relaxation.Dated IsScore times state.1) :
    ∃ times, relaxation.Dated IsScore times (inferences.foldl Inference.apply state).1 := by
  induction inferences generalizing state with
  | nil => exact before
  | cons inference rest ih =>
      have member := members inference List.mem_cons_self
      refine ih (fun other otherMem => members other (List.mem_cons_of_mem _ otherMem)) ?_
        (exists_dated_apply laws lawful member scores before)
      suffices ([inference].foldl Inference.apply state).1.All
          fun symbol held => symbol < bound ∧ IsScore held.1 from this
      refine Inference.all_foldl_apply scores ?_
      intro other otherMem table tableScores left right leftEq rightEq
      obtain rfl := List.mem_singleton.mp otherMem
      exact isScore_infer laws.order lawful member tableScores leftEq rightEq

theorem exists_dated_after (laws : ScoreLaws S IsScore) (lawful : relaxation.Lawful IsScore bound)
    (passes : Nat) : ∃ times, relaxation.Dated IsScore times (relaxation.after passes) := by
  induction passes with
  | zero => exact ⟨fun _ => 0, fun symbol held first => Or.inl first⟩
  | succ passes ih =>
      rw [after_succ]
      exact exists_dated_foldl_apply laws lawful (fun _ member => member)
        (scores_after laws.order lawful passes) ih

/-- As many passes as there are nonterminals settle the table. -/
theorem result_settled (laws : ScoreLaws S IsScore) (lawful : relaxation.Lawful IsScore bound)
    {passes : Nat} (enough : bound ≤ passes) :
    relaxation.Settled bound (relaxation.result passes) := by
  rw [result_eq_after]
  have scores := scores_after laws.order lawful passes
  have closed : ∀ inference ∈ relaxation.inferences, ∀ left right,
      inference.left.score? (relaxation.after passes) = some left →
        inference.right.score? (relaxation.after passes) = some right →
          (relaxation.after passes).AtLeast inference.head (inference.weight + left + right) := by
    intro inference member left right leftEq rightEq
    obtain ⟨levels, derived⟩ := derived_infer member (derived_after passes) leftEq rightEq
    exact atLeast_of_bound_le laws lawful enough (lawful.infer _ member).head derived
  refine ⟨?_, closed, ?_⟩
  · intro symbol score first
    exact atLeast_after laws (Nat.zero_le passes) first
  · obtain ⟨times, dated⟩ := exists_dated_after laws lawful passes
    refine ⟨aheadCount (relaxation.after passes) times bound, fun symbol held heldEq => ?_⟩
    refine ⟨aheadCount_lt_bound laws (scores _ _ heldEq).1, ?_⟩
    rcases dated symbol held heldEq with
      first | ⟨inference, member, left, right, rfl, reasonEq, totalEq, leftScore, rightScore,
        leftUsed, rightUsed⟩
    · exact Or.inl first
    · obtain ⟨finalLeft, leftEq, leftLe, leftBelow⟩ :=
        exists_score_of_usedFor laws scores heldEq leftUsed
      obtain ⟨finalRight, rightEq, rightLe, rightBelow⟩ :=
        exists_score_of_usedFor laws scores heldEq rightUsed
      refine Or.inr ⟨inference, member, finalLeft, finalRight, rfl, reasonEq, ?_, leftEq, rightEq,
        leftBelow, rightBelow⟩
      -- The sum of the present scores is at least what is held, and no inference is better.
      obtain ⟨same, sameEq, sameLe⟩ := closed inference member _ _ leftEq rightEq
      obtain rfl := Option.some.inj (heldEq.symm.trans sameEq)
      have weightScore := (lawful.infer _ member).weight
      have finalLeftScore := Premise.isScore_of_score? scores (lawful.infer _ member).left leftEq
      have finalRightScore := Premise.isScore_of_score? scores (lawful.infer _ member).right rightEq
      have finalTotal := laws.isScore_total weightScore finalLeftScore finalRightScore
      have heldLe := laws.total_mono weightScore leftScore finalLeftScore rightScore finalRightScore
        leftLe rightLe
      rw [← totalEq] at heldLe
      exact laws.le_antisymm (scores _ _ heldEq).2 finalTotal heldLe sameLe

end Relaxation

end QuestionSearch.Grammar
