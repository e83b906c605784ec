import QuestionSearch.Grammar.Model

/-!
# Charts

A chart holds the best entry for every nonempty range of tokens and every nonterminal. Ranges of one
length lie side by side, the shortest first, so that the slots of all ranges fill an array without
gaps. An entry does not hold a tree; it says by which rule the range is derived and where it is cut.
-/

namespace QuestionSearch.Grammar

/-- How a nonterminal derives a range. -/
inductive Back
  /-- By a rule for the only token. -/
  | terminal (rule : RuleIndex)
  /-- By a rule for two nonterminals, the left of which derives so many tokens. -/
  | split (rule : RuleIndex) (length : Nat)
  /-- By a rule for two nonterminals, the left of which derives the empty word. -/
  | emptyLeft (rule : RuleIndex)
  /-- By a rule for two nonterminals, the right of which derives the empty word. -/
  | emptyRight (rule : RuleIndex)
deriving DecidableEq, Repr

/-- The best derivation of a range from a nonterminal. -/
structure Entry (S : Type) where
  /-- Its score. -/
  score : S
  /-- How it begins. -/
  back : Back

/-- The numbers that fix the place of each slot. -/
structure ChartLayout where
  /-- The number of tokens. -/
  tokens : Nat
  /-- The number of nonterminals. -/
  symbols : Nat
deriving DecidableEq, Repr

namespace ChartLayout

/-- The number of slots: a range starts at each token and stops after it or a later one. -/
def size (layout : ChartLayout) : Nat :=
  layout.tokens * (layout.tokens + 1) / 2 * layout.symbols

/-- The number of ranges shorter than a length. -/
def shorterRanges (layout : ChartLayout) (length : Nat) : Nat :=
  (length - 1) * (layout.tokens + 1) - (length - 1) * length / 2

/-- The place of a slot. -/
def offset (layout : ChartLayout) (start length : Nat) (symbol : SymbolId) : Nat :=
  (layout.shorterRanges length + start) * layout.symbols + symbol

end ChartLayout

/-- The best entries for the ranges of some tokens. -/
structure Chart (S : Type) where
  /-- Where the slots lie. -/
  layout : ChartLayout
  /-- The slots. -/
  slots : Array (Option (Entry S))

namespace Chart

variable {S : Type}

/-- A chart without entries. -/
def empty (layout : ChartLayout) : Chart S :=
  ⟨layout, Array.replicate layout.size none⟩

/-- The entry for a range and a nonterminal. -/
def at? (chart : Chart S) (start length : Nat) (symbol : SymbolId) : Option (Entry S) :=
  chart.slots[chart.layout.offset start length symbol]?.join

/-- The nonterminals that derive a range, in order, with their scores. -/
def filled (chart : Chart S) (start length : Nat) : List (SymbolId × S) :=
  (List.range chart.layout.symbols).filterMap fun symbol =>
    (chart.at? start length symbol).map fun entry => (symbol, entry.score)

variable [LT S] [DecidableLT S]

/-- Puts an entry into its slot. -/
def put (chart : Chart S) (start length : Nat) (symbol : SymbolId) (entry : Entry S) : Chart S :=
  let place := chart.layout.offset start length symbol
  ⟨chart.layout, chart.slots.setIfInBounds place (some entry)⟩

/-- Keeps an entry if it is better than the one held; says whether it is. -/
def offer (chart : Chart S) (start length : Nat) (symbol : SymbolId) (entry : Entry S) :
    Chart S × Bool :=
  if improves entry.score ((chart.at? start length symbol).map Entry.score) then
    (chart.put start length symbol entry, true)
  else (chart, false)

end Chart

end QuestionSearch.Grammar
