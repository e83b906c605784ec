import Mathlib.Data.Finset.Order
import QuestionSearch.Proofs.Grammar.Settled

/-!
# Back references

What is held for a nonterminal says how it was found, and so refers to other nonterminals of the
same table, its sources. An offer is kept only if it is better than what is held, and nothing that
is found is better than its sources. So after any offers the references lead to what is better, or
as good and found earlier, and never run in a circle (`Traceable.offer`). Sources that have got
better since only lie further ahead.
-/

namespace QuestionSearch.Grammar.Holding

variable {S ι : Type} [LT S]

/-- Whether a table holds scores only, and refers from each to such as were found earlier or are
better. -/
structure Traceable (sources : ι → List SymbolId) (IsScore : S → Prop) (bound : Nat)
    (table : Holding S ι) : Prop where
  /-- Scores are held for nonterminals below a bound. -/
  scores : table.All fun symbol held => symbol < bound ∧ IsScore held.1
  /-- The sources are ahead. -/
  ahead : ∃ times : SymbolId → Nat, table.All fun symbol held => ∀ source ∈ sources held.2,
    ∃ used, (Premise.held source).UsedFor table times held.1 (times symbol) used

variable {sources : ι → List SymbolId} {IsScore : S → Prop} {bound : Nat} {table : Holding S ι}

theorem traceable_empty : (empty : Holding S ι).Traceable sources IsScore bound :=
  ⟨all_empty _, fun _ => 0, all_empty _⟩

namespace Traceable

variable [Add S] {symbol : SymbolId} {candidate : S × ι}

/-- Offers leave a table traceable. -/
theorem offer [DecidableLT S] (laws : ScoreLaws S IsScore)
    (traceable : table.Traceable sources IsScore bound) (symbolLt : symbol < bound)
    (isScore : IsScore candidate.1)
    (found : ∀ source ∈ sources candidate.2, table.AtLeast source candidate.1) :
    (table.offer symbol candidate).1.Traceable sources IsScore bound := by
  have scores : (table.offer symbol candidate).1.All fun symbol held =>
      symbol < bound ∧ IsScore held.1 := all_offer traceable.scores ⟨symbolLt, isScore⟩
  rcases table.offer_cases symbol candidate with ⟨kept, better⟩ | ⟨refused, _⟩
  case inr => exact refused.symm ▸ traceable
  rw [kept] at scores ⊢
  obtain ⟨times, ahead⟩ := traceable.ahead
  obtain ⟨latest, latestLe⟩ := Finset.exists_le ((sources candidate.2).map times).toFinset
  -- What is kept is dated after its sources, none of which is worse. Whatever referred to the
  -- nonterminal before now refers to something better than itself.
  refine ⟨scores, Function.update times symbol (latest + 1), ?_⟩
  intro query held heldEq source member
  by_cases same : query = symbol
  · subst same
    simp only [Function.update_self, Option.some.injEq] at heldEq
    subst heldEq
    obtain ⟨sourceHeld, sourceEq, sourceLe⟩ := found source member
    have usedEq : (Premise.held source).score? table = some sourceHeld.1 :=
      score?_eq_some_iff.mpr ⟨sourceHeld.2, sourceEq⟩
    have earlier : times source < latest + 1 := Nat.lt_succ_of_le <| latestLe _ <|
      List.mem_toFinset.mpr (List.mem_map_of_mem member)
    rw [Function.update_self]
    exact ⟨sourceHeld.1, Relaxation.usedFor_now laws traceable.scores isScore better usedEq sourceLe
      earlier⟩
  · simp only [Function.update_of_ne same] at heldEq ⊢
    obtain ⟨used, usedFor⟩ := ahead query held heldEq source member
    exact ⟨used, Relaxation.usedFor_update laws better usedFor⟩

/-- What is held refers to what is held with a lower rank. -/
theorem exists_rank (laws : ScoreLaws S IsScore)
    (traceable : table.Traceable sources IsScore bound) :
    ∃ rank : SymbolId → Nat, table.All fun symbol held => ∀ source ∈ sources held.2,
      rank source < rank symbol ∧ ∃ sourceHeld, table source = some sourceHeld := by
  obtain ⟨times, ahead⟩ := traceable.ahead
  refine ⟨Relaxation.aheadCount table times bound, fun symbol held heldEq source member => ?_⟩
  obtain ⟨used, usedFor⟩ := ahead symbol held heldEq source member
  obtain ⟨final, finalEq, _, below⟩ :=
    Relaxation.exists_score_of_usedFor laws traceable.scores heldEq usedFor
  obtain ⟨reason, sourceEq⟩ := score?_eq_some_iff.mp finalEq
  exact ⟨below, (final, reason), sourceEq⟩

end Traceable

end QuestionSearch.Grammar.Holding
