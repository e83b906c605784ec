import QuestionSearch.Decimal.Written
import QuestionSearch.Text.Quoted

/-!
# Faults of grammar definitions

Each fault names the rule as it is described in the definition and the symbol that is wrong.
-/

namespace QuestionSearch.Grammar

open QuestionSearch.Decimal QuestionSearch.Text

/-- Why a grammar definition is refused. -/
inductive GrammarError
  /-- The start symbol is not declared as a nonterminal. -/
  | unknownStartSymbol (symbol : String)
  /-- A rule has a symbol where a nonterminal must stand that is not declared as one. -/
  | unknownNonterminal (rule symbol : String)
  /-- A rule has a word that is not declared as a terminal. -/
  | unknownTerminal (rule symbol : String)
  /-- A rule has the wrong shape. -/
  | notNormalForm (rule reason : String)
  /-- A rule has a probability that is not above zero and at most one. -/
  | invalidProbability (rule : String) (probability : Float)
  /-- A rule stands twice in the definition. -/
  | duplicateRule (rule : String)
  /-- A symbol is declared both ways. -/
  | ambiguousSymbol (symbol : String)
  /-- The text of the definition is not that of a definition. -/
  | unreadable (reason : String)

/-- The text of a fault. -/
def GrammarError.message : GrammarError → String
  | .unknownStartSymbol symbol =>
    "start symbol " ++ quoted symbol ++ " is not a declared nonterminal"
  | .unknownNonterminal rule symbol =>
    "rule " ++ rule ++ ": " ++ quoted symbol ++ " is not a declared nonterminal"
  | .unknownTerminal rule symbol =>
    "rule " ++ rule ++ ": " ++ quoted symbol ++ " is not a declared terminal"
  | .notNormalForm rule reason =>
    "rule " ++ rule ++ " is not in Chomsky normal form: " ++ reason
  | .invalidProbability rule probability =>
    "rule " ++ rule ++ " has probability " ++ plain probability ++ ", expected a value in (0, 1]"
  | .duplicateRule rule => "rule " ++ rule ++ " is defined more than once"
  | .ambiguousSymbol symbol =>
    "symbol " ++ quoted symbol ++ " is declared as both terminal and nonterminal"
  | .unreadable reason => "failed to read grammar definition: " ++ reason

end QuestionSearch.Grammar
