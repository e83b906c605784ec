import QuestionSearch.Grammar.Chart
import QuestionSearch.Grammar.Tree

/-!
# Parsing

The best parse tree of a list of tokens. Ranges are filled from short to long. A range of one token
starts with the rules for that token, a longer one with all ways to cut it in two. Then rules apply
whose other nonterminal derives the empty word, until the range is settled. Only a better entry
replaces the one held, so of equally good entries the first one stays: the earlier cut, then the
earlier nonterminals, then the earlier rule, and an empty part only where it makes things better.
-/

namespace QuestionSearch.Grammar

namespace GrammarModel

variable {S : Type} [Add S] [LT S] [DecidableLT S]

/-- Offers the entry by a rule for the token at a place. -/
def offerTerminal (model : GrammarModel S) (place : Nat) (chart : Chart S) (index : RuleIndex) :
    Chart S :=
  match model.rules[index]? with
  | none => chart
  | some rule => (chart.offer place 1 rule.head ⟨rule.score, .terminal index⟩).1

/-- Offers the two entries by a rule one of whose nonterminals derives the empty word, first with
the right one empty and then with the left one. -/
def relaxRule (model : GrammarModel S) (start length : Nat) (state : Chart S × Bool)
    (index : RuleIndex) : Chart S × Bool :=
  match model.rules[index]? with
  | none => state
  | some rule =>
    match rule.children with
    | none => state
    | some (left, right) =>
      let state :=
        match state.1.at? start length left, model.nulls.at? right with
        | some entry, some null =>
          let (chart, improved) := state.1.offer start length rule.head
            ⟨rule.score + entry.score + null.score, .emptyRight index⟩
          (chart, improved || state.2)
        | _, _ => state
      match model.nulls.at? left, state.1.at? start length right with
      | some null, some entry =>
        let (chart, improved) := state.1.offer start length rule.head
          ⟨rule.score + null.score + entry.score, .emptyLeft index⟩
        (chart, improved || state.2)
      | _, _ => state

/-- Applies the rules one of whose nonterminals derives the empty word until a range is settled. One
pass more than there are nonterminals is enough. -/
def closeRange (model : GrammarModel S) (start length : Nat) (chart : Chart S) : Chart S :=
  settle (fun chart => model.tables.binary.foldl (model.relaxRule start length) (chart, false))
    (model.symbolCount + 1) chart

/-- Fills the range of one token. -/
def fillToken (model : GrammarModel S) (chart : Chart S) (token : String × Nat) : Chart S :=
  model.closeRange token.2 1 <|
    (model.terminalRules token.1).foldl (model.offerTerminal token.2) chart

/-- Offers the entries by the rules for two given nonterminals over the two parts of a range. -/
def offerPair (model : GrammarModel S) (start length cut : Nat) (chart : Chart S)
    (left right : SymbolId × S) : Chart S :=
  (model.pairRules left.1 right.1).foldl
    (fun chart index =>
      match model.rules[index]? with
      | none => chart
      | some rule =>
        (chart.offer start length rule.head
          ⟨rule.score + left.2 + right.2, .split index cut⟩).1)
    chart

/-- Offers the entries for one cut of a range. -/
def offerCut (model : GrammarModel S) (start length : Nat) (chart : Chart S) (cut : Nat) :
    Chart S :=
  let lefts := chart.filled start cut
  let rights := chart.filled (start + cut) (length - cut)
  lefts.foldl
    (fun chart left =>
      rights.foldl (fun chart right => model.offerPair start length cut chart left right) chart)
    chart

/-- Fills a range of more than one token. -/
def fillRange (model : GrammarModel S) (length : Nat) (chart : Chart S) (start : Nat) : Chart S :=
  model.closeRange start length <|
    (List.range (length - 1)).foldl
      (fun chart index => model.offerCut start length chart (index + 1)) chart

/-- Fills the ranges of a length. -/
def fillLength (model : GrammarModel S) (tokens : Nat) (chart : Chart S) (length : Nat) : Chart S :=
  (List.range (tokens + 1 - length)).foldl (model.fillRange length) chart

/-- The chart of some tokens. -/
def chart (model : GrammarModel S) (tokens : List String) : Chart S :=
  let singles := tokens.zipIdx.foldl model.fillToken (.empty ⟨tokens.length, model.symbolCount⟩)
  (List.range (tokens.length - 1)).foldl
    (fun chart index => model.fillLength tokens.length chart (index + 2)) singles

/-- The tree of the best derivation of the empty word at a place, of at most so many levels. -/
def nullTreeWithin? (model : GrammarModel S) (place : Nat) :
    Nat → SymbolId → Option (ParseTree S)
  | 0, _ => none
  | levels + 1, symbol => do
    let null ← model.nulls.at? symbol
    let rule ← model.rules[null.rule]?
    match rule.children with
    | none =>
      let word ← rule.terminal?
      some (.leaf (model.symbolName symbol) word ⟨place, place⟩ null.score)
    | some (left, right) =>
      let leftTree ← model.nullTreeWithin? place levels left
      let rightTree ← model.nullTreeWithin? place levels right
      some (.branch (model.symbolName symbol) leftTree rightTree null.score)

/-- The tree of the best derivation of the empty word at a place. No nonterminal comes twice on a
way from its root to a leaf. -/
def nullTree? (model : GrammarModel S) (symbol : SymbolId) (place : Nat) : Option (ParseTree S) :=
  model.nullTreeWithin? place (model.symbolCount + 1) symbol

/-- The tree that the entries of a chart describe, of at most so many levels above empty words. -/
def treeWithin? (model : GrammarModel S) (chart : Chart S) :
    Nat → Nat → Nat → SymbolId → Option (ParseTree S)
  | 0, _, _, _ => none
  | levels + 1, start, length, symbol => do
    let entry ← chart.at? start length symbol
    let label := model.symbolName symbol
    match entry.back with
    | .terminal index =>
      let rule ← model.rules[index]?
      let word ← rule.terminal?
      some (.leaf label word ⟨start, start + length⟩ entry.score)
    | .split index cut =>
      let rule ← model.rules[index]?
      let (left, right) ← rule.children
      let leftTree ← model.treeWithin? chart levels start cut left
      let rightTree ← model.treeWithin? chart levels (start + cut) (length - cut) right
      some (.branch label leftTree rightTree entry.score)
    | .emptyRight index =>
      let rule ← model.rules[index]?
      let (left, right) ← rule.children
      let leftTree ← model.treeWithin? chart levels start length left
      let rightTree ← model.nullTree? right (start + length)
      some (.branch label leftTree rightTree entry.score)
    | .emptyLeft index =>
      let rule ← model.rules[index]?
      let (left, right) ← rule.children
      let leftTree ← model.nullTree? left start
      let rightTree ← model.treeWithin? chart levels start length right
      some (.branch label leftTree rightTree entry.score)

/-- The tree for a range and a nonterminal. On a way from its root to a leaf the range is shortened
fewer times than it has tokens, and between two such steps no nonterminal comes twice. -/
def tree? (model : GrammarModel S) (chart : Chart S) (start length : Nat) (symbol : SymbolId) :
    Option (ParseTree S) :=
  model.treeWithin? chart (length * model.symbolCount + 1) start length symbol

/-- The best tree of some tokens from the start symbol, with the score of every part. There is none
if a token is no word of the grammar. -/
def parse? (model : GrammarModel S) (tokens : List String) : Option (ParseTree S) :=
  if tokens.isEmpty then model.nullTree? model.start 0
  else if tokens.any fun token => (model.terminalRules token).isEmpty then none
  else model.tree? (model.chart tokens) 0 tokens.length model.start

end GrammarModel

end QuestionSearch.Grammar
