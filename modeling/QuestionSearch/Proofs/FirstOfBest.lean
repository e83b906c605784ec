import QuestionSearch.Proofs.Grammar.ScoreLaws

/-!
# The first of the best

What is kept until something better comes is the first of the best candidates. A list of candidates
is taken apart at its end: one more candidate comes too late (`IsFirstOfBest.append`) or takes over
(`IsFirstOfBest.replace`).
-/

namespace QuestionSearch

open Grammar (ScoreOrder)

variable {α S : Type} [LT S]

/-- Whether something is the first of the best among those candidates that count: earlier ones are
worse, and later ones are no better. -/
def IsFirstOfBest (score : α → S) (counts : α → Prop) (candidates : List α) (best : α) : Prop :=
  ∃ earlier later, candidates = earlier ++ best :: later ∧
    (∀ candidate ∈ earlier, counts candidate → score candidate < score best) ∧
    ∀ candidate ∈ later, counts candidate → ¬ score best < score candidate

namespace IsFirstOfBest

variable {score : α → S} {counts : α → Prop} {candidates : List α} {best last candidate : α}

theorem mem (first : IsFirstOfBest score counts candidates best) : best ∈ candidates := by
  obtain ⟨earlier, later, rfl, _, _⟩ := first
  simp

/-- A further candidate that does not count or is not better comes too late. -/
theorem append (first : IsFirstOfBest score counts candidates best)
    (late : counts last → ¬ score best < score last) :
    IsFirstOfBest score counts (candidates ++ [last]) best := by
  obtain ⟨earlier, later, rfl, worse, notBetter⟩ := first
  refine ⟨earlier, later ++ [last], by simp, worse, fun candidate member counted => ?_⟩
  rcases List.mem_append.mp member with inLater | isLast
  · exact notBetter candidate inLater counted
  · obtain rfl := List.mem_singleton.mp isLast
    exact late counted

/-- Where candidates stand in an order, those before the first of the best are worse. -/
theorem lt_of_before {before : α → α → Prop}
    (asymm : ∀ earlier later, before earlier later → ¬ before later earlier)
    (ordered : candidates.Pairwise before) (first : IsFirstOfBest score counts candidates best)
    (member : candidate ∈ candidates) (counted : counts candidate)
    (precedes : before candidate best) : score candidate < score best := by
  obtain ⟨earlier, later, rfl, worse, _⟩ := first
  rcases List.mem_append.mp member with inEarlier | inRest
  · exact worse candidate inEarlier counted
  · have after := (List.pairwise_cons.mp (List.pairwise_append.mp ordered).2.1).1
    rcases List.mem_cons.mp inRest with rfl | inLater
    · exact absurd precedes (asymm _ _ precedes)
    · exact absurd precedes (asymm _ _ (after candidate inLater))

variable [Add S] {IsScore : S → Prop}

/-- No candidate is better than the first of the best. -/
theorem not_lt (order : ScoreOrder S IsScore) (first : IsFirstOfBest score counts candidates best)
    (member : candidate ∈ candidates) (counted : counts candidate) :
    ¬ score best < score candidate := by
  obtain ⟨earlier, later, rfl, worse, notBetter⟩ := first
  rcases List.mem_append.mp member with inEarlier | inRest
  · exact fun better => order.irrefl _ (order.trans better (worse candidate inEarlier counted))
  · rcases List.mem_cons.mp inRest with rfl | inLater
    · exact order.irrefl _
    · exact notBetter candidate inLater counted

/-- A further candidate that is better than the first of the best becomes the first of the best. -/
theorem replace (order : ScoreOrder S IsScore)
    (scores : ∀ candidate ∈ candidates ++ [last], IsScore (score candidate))
    (first : IsFirstOfBest score counts candidates best) (better : score best < score last) :
    IsFirstOfBest score counts (candidates ++ [last]) last := by
  refine ⟨candidates, [], rfl, fun candidate member counted => ?_, by simp⟩
  have bestScore := scores best (List.mem_append_left _ first.mem)
  have lastScore := scores last (List.mem_append_right _ List.mem_cons_self)
  have candidateScore := scores candidate (List.mem_append_left _ member)
  exact (order.lt_or_lt bestScore lastScore candidateScore better).resolve_left
    (first.not_lt order member counted)

end IsFirstOfBest

end QuestionSearch
