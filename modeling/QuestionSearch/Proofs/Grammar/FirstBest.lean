import QuestionSearch.Proofs.FirstOfBest
import QuestionSearch.Proofs.Grammar.Relaxation

/-!
# First of the best

Only what is better replaces what is held. So after a list of candidates the first of the best ones
is held (`isBestFound_offerAll`), and whatever inferences change after that is better than before
and found by one of them (`outgrows_after`): a tie never moves anything.
-/

namespace QuestionSearch.Grammar

variable {S ι : Type}

namespace Holding

/-- Whether something is the first of the best candidates for a nonterminal. -/
def IsFirstBest [LT S] (candidates : List (SymbolId × S × ι)) (symbol : SymbolId)
    (held : S × ι) : Prop :=
  ∃ earlier later, candidates = earlier ++ (symbol, held) :: later ∧
    (∀ candidate ∈ earlier, candidate.1 = symbol → candidate.2.1 < held.1) ∧
    ∀ candidate ∈ later, candidate.1 = symbol → ¬ held.1 < candidate.2.1

/-- Whether what is found for a nonterminal is the first of its best candidates. Nothing is found if
and only if it has none. -/
def IsBestFound [LT S] (candidates : List (SymbolId × S × ι)) (symbol : SymbolId) :
    Option (S × ι) → Prop
  | none => ∀ candidate ∈ candidates, candidate.1 ≠ symbol
  | some held => IsFirstBest candidates symbol held

/-- Whether a table holds what another one holds, or something better that has some reason. -/
def Outgrows [LT S] (reasons : ι → Prop) (first table : Holding S ι) : Prop :=
  ∀ symbol, table symbol = first symbol ∨
    ∃ held, table symbol = some held ∧ reasons held.2 ∧
      ∀ before, first symbol = some before → before.1 < held.1

section FirstBest

variable [LT S] {candidates : List (SymbolId × S × ι)} {symbol : SymbolId} {held : S × ι}
  {last : SymbolId × S × ι}

/-- The candidates that count are those for the nonterminal. -/
theorem isFirstBest_iff : IsFirstBest candidates symbol held ↔
    IsFirstOfBest (fun candidate => candidate.2.1) (fun candidate => candidate.1 = symbol)
      candidates (symbol, held) := Iff.rfl

/-- A further candidate for another nonterminal changes nothing. -/
theorem IsBestFound.append {found : Option (S × ι)} (best : IsBestFound candidates symbol found)
    (other : last.1 ≠ symbol) : IsBestFound (candidates ++ [last]) symbol found := by
  cases found with
  | none =>
      intro candidate member
      rcases List.mem_append.mp member with inBefore | isLast
      · exact best candidate inBefore
      · exact List.mem_singleton.mp isLast ▸ other
  | some held => exact IsFirstOfBest.append best fun same => absurd same other

variable [Add S] {IsScore : S → Prop}

variable [DecidableLT S] {table : Holding S ι}

/-- One more candidate is offered. -/
theorem isBestFound_offer (order : ScoreOrder S IsScore)
    (scores : ∀ candidate ∈ candidates ++ [last], IsScore candidate.2.1)
    (best : IsBestFound candidates symbol (table symbol)) :
    IsBestFound (candidates ++ [last]) symbol ((table.offer last.1 last.2).1 symbol) := by
  rcases table.offer_cases last.1 last.2 with ⟨kept, better⟩ | ⟨refused, atLeast⟩
  · rw [kept]
    by_cases same : symbol = last.1
    · subst same
      simp only [Function.update_self]
      cases heldEq : table last.1 with
      | none =>
          rw [heldEq] at best
          exact ⟨candidates, [], rfl, fun candidate member same => absurd same (best _ member),
            by simp⟩
      | some held =>
          rw [heldEq] at best
          exact IsFirstOfBest.replace order scores best (better held heldEq)
    · simp only [Function.update_of_ne same]
      exact best.append (Ne.symm same)
  · rw [refused]
    by_cases same : last.1 = symbol
    · subst same
      obtain ⟨held, heldEq, notBetter⟩ := atLeast
      simp only [heldEq] at best ⊢
      exact IsFirstOfBest.append best fun _ => notBetter
    · exact best.append same

/-- After a list of candidates the first of the best is held. -/
theorem isBestFound_offerAll (order : ScoreOrder S IsScore)
    (scores : ∀ candidate ∈ candidates, IsScore candidate.2.1) (symbol : SymbolId) :
    IsBestFound candidates symbol ((empty.offerAll candidates) symbol) := by
  induction candidates using List.reverseRecOn with
  | nil => exact List.forall_mem_nil _
  | append_singleton before last ih =>
      rw [offerAll, List.foldl_append]
      exact isBestFound_offer order scores <|
        ih fun candidate member => scores candidate (List.mem_append_left _ member)

end FirstBest

section Outgrows

variable [LT S] {reasons : ι → Prop} {first table : Holding S ι}

theorem Outgrows.refl (first : Holding S ι) : Outgrows reasons first first := fun _ => Or.inl rfl

theorem Outgrows.offer [DecidableLT S] [Add S] {IsScore : S → Prop} (order : ScoreOrder S IsScore)
    (outgrows : Outgrows reasons first table) {symbol : SymbolId} {candidate : S × ι}
    (reason : reasons candidate.2) :
    Outgrows reasons first (table.offer symbol candidate).1 := by
  rcases table.offer_cases symbol candidate with ⟨kept, better⟩ | ⟨refused, _⟩
  · rw [kept]
    intro query
    by_cases same : query = symbol
    · subst same
      refine Or.inr ⟨candidate, Function.update_self .., reason, fun before beforeEq => ?_⟩
      rcases outgrows query with unchanged | ⟨held, heldEq, _, grown⟩
      · exact better before (unchanged.trans beforeEq)
      · exact order.trans (grown before beforeEq) (better held heldEq)
    · simpa only [Function.update_of_ne same] using outgrows query
  · rw [refused]
    exact outgrows

end Outgrows

end Holding

variable [Add S] [LT S] [DecidableLT S] {IsScore : S → Prop} {reasons : ι → Prop}

theorem Inference.outgrows_foldl_apply (order : ScoreOrder S IsScore)
    {inferences : List (Inference S ι)} (given : ∀ inference ∈ inferences, reasons inference.reason)
    {first : Holding S ι} {state : Holding S ι × Bool}
    (outgrows : Holding.Outgrows reasons first state.1) :
    Holding.Outgrows reasons first (inferences.foldl Inference.apply state).1 := by
  induction inferences generalizing state with
  | nil => exact outgrows
  | cons inference rest ih =>
      refine ih (fun later member => given later (List.mem_cons_of_mem _ member)) ?_
      rcases apply_cases state inference with ⟨left, right, _, _, applied⟩ | ⟨_, applied⟩
      · rw [applied]
        exact outgrows.offer order (given inference List.mem_cons_self)
      · rwa [applied]

/-- After any number of passes all is held as at first, or is better and found by an inference. -/
theorem Relaxation.outgrows_after (order : ScoreOrder S IsScore) {relaxation : Relaxation S ι}
    (given : ∀ inference ∈ relaxation.inferences, reasons inference.reason) (passes : Nat) :
    Holding.Outgrows reasons relaxation.start (relaxation.after passes) := by
  induction passes with
  | zero => exact .refl _
  | succ passes ih =>
      rw [after_succ]
      exact Inference.outgrows_foldl_apply order given ih

end QuestionSearch.Grammar
