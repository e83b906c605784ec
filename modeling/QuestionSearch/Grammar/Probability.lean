import QuestionSearch.Grammar.Parser

/-!
# Grammars with probabilities

Products of probabilities are kept as sums of their logarithms, which neither vanish nor lose the
order. What is shown of a score is the probability it stands for.
-/

namespace QuestionSearch.Grammar

/-- The model of a definition, scored by logarithms of probabilities. -/
def GrammarDefinition.model (definition : GrammarDefinition) :
    Except GrammarError (GrammarModel Float) :=
  GrammarModel.ofDefinition Float.log definition

namespace GrammarModel

/-- The best tree of some tokens, with the probability of every part. -/
def parseWithProbability? (model : GrammarModel Float) (tokens : List String) :
    Option (ParseTree Float) :=
  (model.parse? tokens).map fun tree => tree.map Float.exp

/-- The greatest probability of a derivation of the empty word. -/
def nullProbability? (model : GrammarModel Float) (symbol : String) : Option Float :=
  (model.nullScore? symbol).map Float.exp

end GrammarModel

end QuestionSearch.Grammar
