import QuestionSearch.CommandLine.Invocation
import QuestionSearch.Grammar.Probability
import QuestionSearch.Grammar.Written
import QuestionSearch.Query.Executor
import QuestionSearch.Settings

/-!
# Reports

What a command shows, as lines for people and as JSON. Probabilities and scores are rounded in lines
and exact in JSON, where a value that is missing is left out or `null`.
-/

namespace QuestionSearch.CommandLine

open QuestionSearch.Classifier QuestionSearch.Decimal QuestionSearch.Grammar QuestionSearch.Json
open QuestionSearch.Query QuestionSearch.Text

/-- What a command shows, in both forms. -/
structure Report where
  /-- The lines for people. -/
  lines : List String
  /-- The same as data. -/
  data : Written

/-- The text of a report. -/
def Report.print (report : Report) : OutputFormat → String
  | .text => String.join (report.lines.map fun line => line ++ "\n")
  | .json => report.data.pretty ++ "\n"

/-- A part of a record that is left out if it is missing. -/
def present {α : Type} (name : String) (write : α → Written) :
    Option α → List (String × Written)
  | none => []
  | some value => [(name, write value)]

/-- The best parse of a question. -/
def parseReport (grammar : GrammarModel Float) (question : String) : Report :=
  let tokens := words question
  let tree := grammar.parseWithProbability? tokens
  { lines :=
      match tree with
      | none => ["No parse for " ++ quoted question]
      | some tree =>
        ["Tree:        " ++ tree.display,
          "Probability: " ++ fixed 6 tree.weight,
          "Fragment:    " ++ quoted tree.fragment]
    data := .record
      ([("question", .text question), ("tokens", .list (tokens.map .text))] ++
        present "tree" (fun tree => .text tree.display) tree ++
        present "probability" (fun tree => .double tree.weight) tree ++
        present "fragment" (fun tree => .text tree.fragment) tree) }

/-- A guessed type as data. -/
def classificationData (guess : Classification Float) : Written :=
  .record [("label", .text guess.label), ("score", .double guess.score)]

/-- A clause as data. -/
def clauseData (clause : Clause Single) : Written :=
  .record
    [("field", .text clause.field), ("term", .text clause.term), ("boost", .single clause.boost)]

/-- What a question was taken to mean. -/
def planReport (meaning : Meaning) : Report where
  lines :=
    [match meaning.fragment with
      | none => "Fragment: (no parse)"
      | some fragment => "Fragment: " ++ quoted fragment,
      match meaning.guess with
      | none => "Type:     (none)"
      | some guess => "Type:     " ++ guess.label ++ " (" ++ fixed 3 guess.score ++ ")",
      "Plan:     " ++ meaning.plan.display]
  data := .record
    [("fragment", .optional .text meaning.fragment),
      ("classification", .optional classificationData meaning.guess),
      ("plan", .record [("clauses", .list (meaning.plan.map clauseData))])]

/-- The lines of a hit with its number. -/
def hitLines (number : Nat) (hit : Hit Single) : List String :=
  [toString number ++ ". " ++ hit.path ++ " (score: " ++ fixed32 3 hit.score ++ ")"] ++
    ((hit.value? typeField).map fun name => "   Type:  " ++ name).toList ++
    ((hit.value? titleField).map fun title => "   Title: " ++ title).toList

/-- The lines of hits that are numbered from a number on. -/
def numberedHits (number : Nat) : List (Hit Single) → List String
  | [] => []
  | hit :: rest => hitLines number hit ++ numberedHits (number + 1) rest

/-- A hit as data. -/
def hitData (hit : Hit Single) : Written :=
  .record
    ([("path", .text hit.path), ("score", .single hit.score)] ++
      present "title" .text (hit.value? titleField) ++
      present "primary_type" .text (hit.value? typeField))

/-- The answer to a question. -/
def queryReport (question : String) (plan : QueryPlan Single) (hits : List (Hit Single)) :
    Report where
  lines :=
    ["Question: " ++ question, "Plan:     " ++ plan.display, ""] ++
      (if hits.isEmpty then ["No results found."] else numberedHits 1 hits)
  data := .record
    [("question", .text question),
      ("plan", .text plan.display),
      ("results", .list (hits.map hitData))]

/-- A grammar as it is defined. -/
def grammarReport (definition : GrammarDefinition) : Report where
  lines := [definition.toToml]
  data := definition.toJson

/-- The size of a grammar that is in order. -/
def grammarSummary (grammar : GrammarModel Float) : Report :=
  let nonterminals := grammar.nonterminals.size
  let terminals := grammar.symbols.terminals.length
  let rules := grammar.rules.size
  { lines :=
      ["Grammar OK",
        "  Start:        " ++ grammar.startSymbol,
        "  Nonterminals: " ++ toString nonterminals,
        "  Terminals:    " ++ toString terminals,
        "  Rules:        " ++ toString rules]
    data := .record
      [("start", .text grammar.startSymbol),
        ("nonterminals", .integer nonterminals),
        ("terminals", .integer terminals),
        ("rules", .integer rules)] }

/-- The settings in force. -/
def settingsReport (settings : Settings) : Report where
  lines := [settings.toToml]
  data := settings.toJson

end QuestionSearch.CommandLine
