import QuestionSearch.Data.Decode
import QuestionSearch.Grammar.Definition
import QuestionSearch.Json.Written
import QuestionSearch.Toml.Reader
import QuestionSearch.Toml.Written

/-!
# Written grammars

Grammar definitions are read from TOML, and printed as TOML or JSON.
-/

namespace QuestionSearch.Grammar

namespace RuleDefinition

/-- The rule that data describe. -/
def ofData? (data : Data) : Option RuleDefinition := do
  let fields ← data.fields? .toml ["lhs", "rhs", "probability"]
  let head ← fields.required? "lhs" Data.text?
  let right ← fields.required? "rhs" (Data.listOf? Data.text?)
  let probability ← fields.required? "probability" Data.float?
  some ⟨head, right, probability⟩

/-- The rule below its header. -/
def toTomlBlock (rule : RuleDefinition) : Toml.Block where
  header := some "[[rules]]"
  pairs :=
    [("lhs", Toml.quotedText rule.head),
      ("rhs", Toml.textList rule.right),
      ("probability", Toml.floatText rule.probability)]

/-- The rule for printing as JSON. -/
def toJson (rule : RuleDefinition) : Json.Written :=
  .record
    [("lhs", .text rule.head),
      ("rhs", .list (rule.right.map .text)),
      ("probability", .double rule.probability)]

end RuleDefinition

namespace GrammarDefinition

/-- The definition that data describe. The list of rules may be left out. -/
def ofData? (data : Data) : Option GrammarDefinition := do
  let fields ← data.fields? .toml ["start", "nonterminals", "terminals", "rules"]
  let start ← fields.required? "start" Data.text?
  let nonterminals ← fields.required? "nonterminals" (Data.listOf? Data.text?)
  let terminals ← fields.required? "terminals" (Data.listOf? Data.text?)
  let rules ← fields.withDefault? "rules" [] (Data.listOf? RuleDefinition.ofData?)
  some ⟨start, nonterminals, terminals, rules⟩

/-- Reads a definition from TOML. -/
def ofToml? (text : String) : Option GrammarDefinition :=
  (Toml.read? text).bind ofData?

/-- The definition as TOML. A definition without rules says so. -/
def toToml (definition : GrammarDefinition) : String :=
  let symbols :=
    [("start", Toml.quotedText definition.start),
      ("nonterminals", Toml.textList definition.nonterminals),
      ("terminals", Toml.textList definition.terminals)]
  if definition.rules.isEmpty then Toml.document [⟨none, symbols ++ [("rules", "[]")]⟩]
  else Toml.document (⟨none, symbols⟩ :: definition.rules.map RuleDefinition.toTomlBlock)

/-- The definition for printing as JSON. -/
def toJson (definition : GrammarDefinition) : Json.Written :=
  .record
    [("start", .text definition.start),
      ("nonterminals", .list (definition.nonterminals.map .text)),
      ("terminals", .list (definition.terminals.map .text)),
      ("rules", .list (definition.rules.map RuleDefinition.toJson))]

end GrammarDefinition

end QuestionSearch.Grammar
