import QuestionSearch.Text.Quoted

/-!
# Rules in Chomsky normal form

A rule expands a nonterminal to one terminal, which may be the empty word, or to two nonterminals.
-/

namespace QuestionSearch.Grammar

open QuestionSearch.Text

/-- What a rule expands its nonterminal to. -/
inductive RightSide
  /-- One word. -/
  | terminal (word : String)
  /-- Two nonterminals. -/
  | binary (left right : String)
deriving DecidableEq, Repr

/-- A rule without its probability. -/
structure Rule where
  /-- The nonterminal that is expanded. -/
  head : String
  /-- What it is expanded to. -/
  right : RightSide
deriving DecidableEq, Repr

namespace Rule

/-- A rule for one word. -/
def terminal (head word : String) : Rule := ⟨head, .terminal word⟩

/-- A rule for two nonterminals. -/
def binary (head left right : String) : Rule := ⟨head, .binary left right⟩

/-- The rule as it is shown: words stand between quotes and nonterminals do not. -/
def display (rule : Rule) : String :=
  match rule.right with
  | .terminal word => rule.head ++ " -> " ++ quoted word
  | .binary left right => rule.head ++ " -> " ++ left ++ " " ++ right

end Rule

end QuestionSearch.Grammar
