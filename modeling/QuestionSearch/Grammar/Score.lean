/-!
# Scores of derivations

Derivations are compared by a score that adds up along the rules: the logarithm of a probability.
The parser needs no more of scores than their sum and their order.
-/

namespace QuestionSearch.Grammar

/-- Whether a score is better than the one held so far, if any is held. -/
def improves {S : Type} [LT S] [DecidableLT S] (score : S) : Option S → Bool
  | none => true
  | some held => held < score

/-- Repeats a pass until it reports no change, at most so many times. -/
def settle {α : Type} (pass : α → α × Bool) : Nat → α → α
  | 0, state => state
  | passes + 1, state =>
    let (next, changed) := pass state
    if changed then settle pass passes next else next

end QuestionSearch.Grammar
