import QuestionSearch.Grammar.Rule

/-!
# Grammar definitions

A definition declares symbols and lists weighted rules. Nothing is checked here: a definition says
what someone wrote down, and building a model from it finds the faults.
-/

namespace QuestionSearch.Grammar

open QuestionSearch.Text

/-- A rule as it is written down. -/
structure RuleDefinition where
  /-- The nonterminal that is expanded. -/
  head : String
  /-- One terminal or two nonterminals, if the definition is sound. -/
  right : List String
  /-- The probability of the rule among those of its nonterminal. -/
  probability : Float
deriving BEq

/-- A grammar as it is written down. -/
structure GrammarDefinition where
  /-- The nonterminal of whole questions. -/
  start : String
  /-- The nonterminals in order. -/
  nonterminals : List String
  /-- The words that rules may speak of. -/
  terminals : List String
  /-- The rules in order. -/
  rules : List RuleDefinition
deriving BEq

/-- The rule as its definition describes it: all symbols on the right stand between quotes. -/
def RuleDefinition.describe (rule : RuleDefinition) : String :=
  rule.head ++ " -> " ++ String.intercalate " " (rule.right.map quoted)

end QuestionSearch.Grammar
