import QuestionSearch.Grammar.Definition
import QuestionSearch.Grammar.Error
import QuestionSearch.Grammar.Score
import Std.Data.HashMap

/-!
# Grammar models

A model is a checked definition with its symbols numbered, its rules found by what they expand to,
and the best derivation of the empty word for every nonterminal that has one. Rules keep the order
of the definition, and a symbol that is declared twice has its last number.

Scores are of any type `S` with a sum and an order, and `ln` gives the score of a probability.
-/

namespace QuestionSearch.Grammar

open QuestionSearch.Text

/-- The number of a nonterminal, its place among the declared ones. -/
abbrev SymbolId := Nat

/-- The place of a rule in its grammar. -/
abbrev RuleIndex := Nat

/-- A checked rule. -/
structure WeightedRule (S : Type) where
  /-- The rule itself. -/
  rule : Rule
  /-- Its probability. -/
  probability : Float
  /-- The score of its probability. -/
  score : S
  /-- The number of the nonterminal that is expanded. -/
  head : SymbolId
  /-- The numbers of the nonterminals on the right, unless a word stands there. -/
  children : Option (SymbolId × SymbolId)

namespace WeightedRule

variable {S : Type}

/-- The word on the right. -/
def terminal? (weighted : WeightedRule S) : Option String :=
  match weighted.rule.right with
  | .terminal word => some word
  | .binary _ _ => none

/-- The rule as it is written down. -/
def definition (weighted : WeightedRule S) : RuleDefinition where
  head := weighted.rule.head
  right :=
    match weighted.rule.right with
    | .terminal word => [word]
    | .binary left right => [left, right]
  probability := weighted.probability

end WeightedRule

/-- Declared symbols. -/
structure Symbols where
  /-- The numbers of the nonterminals. -/
  ids : Std.HashMap String SymbolId
  /-- The terminals. -/
  terminals : List String

namespace Symbols

/-- The symbols that a definition declares. -/
def ofDefinition (definition : GrammarDefinition) : Symbols where
  ids := definition.nonterminals.zipIdx.foldl (fun ids named => ids.insert named.1 named.2) ∅
  terminals := definition.terminals

/-- The number of a nonterminal. -/
def id? (symbols : Symbols) (name : String) : Option SymbolId :=
  symbols.ids[name]?

/-- Whether a symbol is declared as a nonterminal. -/
def isNonterminal (symbols : Symbols) (name : String) : Bool :=
  symbols.ids.contains name

/-- Whether a symbol is declared as a terminal. -/
def isTerminal (symbols : Symbols) (name : String) : Bool :=
  symbols.terminals.contains name

/-- The number of a nonterminal on the right of a rule for two of them. -/
def childId (symbols : Symbols) (rule symbol : String) : Except GrammarError SymbolId :=
  if symbols.isTerminal symbol then
    .error (.notNormalForm rule ("binary rule contains terminal " ++ quoted symbol))
  else
    match symbols.id? symbol with
    | none => .error (.unknownNonterminal rule symbol)
    | some id => .ok id

/-- The right side of a rule, with the numbers of its nonterminals. -/
def rightSide (symbols : Symbols) (rule : String) :
    List String → Except GrammarError (RightSide × Option (SymbolId × SymbolId))
  | [symbol] =>
    if symbols.isNonterminal symbol then
      .error (.notNormalForm rule "unary rule rewrites to a nonterminal")
    else if symbols.isTerminal symbol then .ok (.terminal symbol, none)
    else .error (.unknownTerminal rule symbol)
  | [left, right] => do
    let leftId ← symbols.childId rule left
    let rightId ← symbols.childId rule right
    .ok (.binary left right, some (leftId, rightId))
  | right =>
    .error (.notNormalForm rule (toString right.length ++ " right-hand symbols, expected 1 or 2"))

end Symbols

/-- Whether a number is a probability of a rule: above zero and at most one. -/
def isRuleProbability (probability : Float) : Bool :=
  probability.isFinite && 0 < probability && probability ≤ 1

variable {S : Type}

/-- Checks one rule by itself: first its head, then its probability, then its right side. -/
def checkRule (ln : Float → S) (symbols : Symbols) (rule : RuleDefinition) :
    Except GrammarError (WeightedRule S) :=
  match symbols.id? rule.head with
  | none => .error (.unknownNonterminal rule.describe rule.head)
  | some head =>
    if isRuleProbability rule.probability then do
      let (right, children) ← symbols.rightSide rule.describe rule.right
      .ok
        { rule := ⟨rule.head, right⟩
          probability := rule.probability
          score := ln rule.probability
          head
          children }
    else .error (.invalidProbability rule.describe rule.probability)

/-- Checks a rule and adds it to those before it, unless it stands there already. -/
def addRule (ln : Float → S) (symbols : Symbols) (checked : Array (WeightedRule S))
    (rule : RuleDefinition) : Except GrammarError (Array (WeightedRule S)) := do
  let weighted ← checkRule ln symbols rule
  if checked.any fun earlier => earlier.rule = weighted.rule then
    .error (.duplicateRule weighted.rule.display)
  else .ok (checked.push weighted)

/-- Rules by what they expand to, each list in the order of the definition. -/
structure RuleTables where
  /-- The rules for a word. -/
  byTerminal : Std.HashMap String (Array RuleIndex)
  /-- The rules for two nonterminals. -/
  byPair : Std.HashMap (SymbolId × SymbolId) (Array RuleIndex)
  /-- All rules for two nonterminals. -/
  binary : Array RuleIndex

namespace RuleTables

/-- No rules. -/
def empty : RuleTables := ⟨∅, ∅, #[]⟩

/-- Adds a rule to the tables. -/
def add (tables : RuleTables) (indexed : WeightedRule S × RuleIndex) : RuleTables :=
  match indexed.1.rule.right, indexed.1.children with
  | .terminal word, _ =>
    { tables with
      byTerminal :=
        tables.byTerminal.insert word ((tables.byTerminal.getD word #[]).push indexed.2) }
  | .binary _ _, some pair =>
    { tables with
      byPair := tables.byPair.insert pair ((tables.byPair.getD pair #[]).push indexed.2)
      binary := tables.binary.push indexed.2 }
  | .binary _ _, none => tables

/-- The tables of some rules. -/
def ofRules (rules : Array (WeightedRule S)) : RuleTables :=
  rules.toList.zipIdx.foldl add empty

end RuleTables

/-- The best derivation of the empty word from a nonterminal. -/
structure NullDerivation (S : Type) where
  /-- Its score. -/
  score : S
  /-- The rule at its root. -/
  rule : RuleIndex

/-- The best derivations of the empty word, by the number of the nonterminal. -/
abbrev NullTable (S : Type) := Array (Option (NullDerivation S))

namespace NullTable

/-- The derivation held for a nonterminal. -/
def at? (table : NullTable S) (symbol : SymbolId) : Option (NullDerivation S) :=
  table[symbol]?.join

variable [LT S] [DecidableLT S]

/-- Keeps a derivation if it is better than the one held; says whether it is. -/
def offer (table : NullTable S) (symbol : SymbolId) (candidate : NullDerivation S) :
    NullTable S × Bool :=
  if improves candidate.score ((table.at? symbol).map NullDerivation.score) then
    (table.setIfInBounds symbol (some candidate), true)
  else (table, false)

/-- Offers the derivation of the empty word by one rule. -/
def offerWord (rules : Array (WeightedRule S)) (table : NullTable S) (index : RuleIndex) :
    NullTable S :=
  match rules[index]? with
  | none => table
  | some rule => (table.offer rule.head ⟨rule.score, index⟩).1

/-- Offers the derivation by a rule both of whose nonterminals derive the empty word. -/
def relax [Add S] (rules : Array (WeightedRule S)) (state : NullTable S × Bool)
    (index : RuleIndex) : NullTable S × Bool :=
  match rules[index]? with
  | none => state
  | some rule =>
    match rule.children with
    | none => state
    | some (left, right) =>
      match state.1.at? left, state.1.at? right with
      | some leftNull, some rightNull =>
        let (table, improved) :=
          state.1.offer rule.head ⟨rule.score + leftNull.score + rightNull.score, index⟩
        (table, state.2 || improved)
      | _, _ => state

/-- The best derivations by the given rules. One pass more than there are nonterminals settles
them. -/
def build [Add S] (symbols : Nat) (rules : Array (WeightedRule S)) (tables : RuleTables) :
    NullTable S :=
  let words :=
    (tables.byTerminal.getD "" #[]).foldl (offerWord rules) (Array.replicate symbols none)
  settle (fun table => tables.binary.foldl (relax rules) (table, false)) (symbols + 1) words

end NullTable

/-- A checked grammar. -/
structure GrammarModel (S : Type) where
  /-- The number of the start symbol. -/
  start : SymbolId
  /-- The names of the nonterminals. -/
  nonterminals : Array String
  /-- The declared symbols. -/
  symbols : Symbols
  /-- The rules in the order of the definition. -/
  rules : Array (WeightedRule S)
  /-- The rules by what they expand to. -/
  tables : RuleTables
  /-- The best derivations of the empty word. -/
  nulls : NullTable S

namespace GrammarModel

/-- Checks a definition and builds its model. Symbols declared both ways are found first, then the
start symbol is looked up, then the rules are checked in order. -/
def ofDefinition [Add S] [LT S] [DecidableLT S] (ln : Float → S) (definition : GrammarDefinition) :
    Except GrammarError (GrammarModel S) :=
  let symbols := Symbols.ofDefinition definition
  match definition.terminals.find? symbols.isNonterminal with
  | some symbol => .error (.ambiguousSymbol symbol)
  | none =>
    match symbols.id? definition.start with
    | none => .error (.unknownStartSymbol definition.start)
    | some start => do
      let rules ← definition.rules.foldlM (addRule ln symbols) #[]
      let tables := RuleTables.ofRules rules
      .ok
        { start
          nonterminals := definition.nonterminals.toArray
          symbols
          rules
          tables
          nulls := NullTable.build definition.nonterminals.length rules tables }

/-- The number of nonterminals. -/
def symbolCount (model : GrammarModel S) : Nat := model.nonterminals.size

/-- The name of a nonterminal. -/
def symbolName (model : GrammarModel S) (symbol : SymbolId) : String :=
  model.nonterminals.getD symbol ""

/-- The number of a nonterminal. -/
def symbolId? (model : GrammarModel S) (name : String) : Option SymbolId :=
  model.symbols.id? name

/-- The name of the start symbol. -/
def startSymbol (model : GrammarModel S) : String := model.symbolName model.start

/-- The grammar as it is written down. -/
def definition (model : GrammarModel S) : GrammarDefinition where
  start := model.startSymbol
  nonterminals := model.nonterminals.toList
  terminals := model.symbols.terminals
  rules := model.rules.toList.map WeightedRule.definition

/-- The places of the rules for a word. -/
def terminalRules (model : GrammarModel S) (word : String) : Array RuleIndex :=
  model.tables.byTerminal.getD word #[]

/-- The places of the rules for two nonterminals. -/
def pairRules (model : GrammarModel S) (left right : SymbolId) : Array RuleIndex :=
  model.tables.byPair.getD (left, right) #[]

/-- The rules at some places. -/
def rulesAt (model : GrammarModel S) (places : Array RuleIndex) : List (WeightedRule S) :=
  places.toList.filterMap fun index => model.rules[index]?

/-- The rules for a word. A word without rules has none. -/
def rulesForTerminal (model : GrammarModel S) (word : String) : List (WeightedRule S) :=
  model.rulesAt (model.terminalRules word)

/-- The rules for two nonterminals. Names that are not declared have none. -/
def rulesForPair (model : GrammarModel S) (left right : String) : List (WeightedRule S) :=
  match model.symbolId? left, model.symbolId? right with
  | some leftId, some rightId => model.rulesAt (model.pairRules leftId rightId)
  | _, _ => []

/-- The probability of a rule, if the grammar has it. -/
def probability? (model : GrammarModel S) (rule : Rule) : Option Float :=
  (model.rules.find? fun weighted => weighted.rule = rule).map WeightedRule.probability

/-- The best score of a derivation of the empty word. -/
def nullScore? (model : GrammarModel S) (symbol : String) : Option S :=
  (model.symbolId? symbol).bind fun id => (model.nulls.at? id).map NullDerivation.score

end GrammarModel

end QuestionSearch.Grammar
