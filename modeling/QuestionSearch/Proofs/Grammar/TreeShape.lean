import QuestionSearch.Proofs.Grammar.ChartOrigins
import QuestionSearch.Proofs.Grammar.Derivation

/-!
# Shapes of parse trees

The tree that is read off a chart follows the rules of the definition at each node and lies over the
tokens as it should, whatever its scores are (`shaped_parse?`). Trees over tokens and trees over the
empty word are read off different tables, and meet at the rules one of whose nonterminals derives
the empty word.
-/

namespace QuestionSearch.Grammar

variable {S : Type}

/-- Whether a tree stands for a nonterminal over a range, with a rule at each node and its parts
side by side. -/
structure ParseTree.Shaped (definition : GrammarDefinition) (tokens : List String) (label : String)
    (span : Span) (tree : ParseTree S) : Prop where
  /-- The nonterminal at the root. -/
  label : tree.label = label
  /-- The range. -/
  span : tree.span = span
  /-- The nodes. -/
  nodes : ∀ node ∈ tree.preorder, node.FollowsRule definition ∧ node.Tiles tokens

namespace GrammarModel

variable [Add S] [LT S] [DecidableLT S] {model : GrammarModel S} {ln : Float → S}
  {definition : GrammarDefinition} {tokens : List String}

/-- A branch by a rule over two trees that meet. -/
theorem shaped_branch (represents : model.Represents ln definition) {place : RuleIndex}
    {rule : WeightedRule S} (found : model.rules[place]? = some rule) {left right : SymbolId}
    (children : rule.children = some (left, right)) {start middle stop : Nat}
    {leftTree rightTree : ParseTree S}
    (leftShaped : leftTree.Shaped definition tokens (model.symbolName left) ⟨start, middle⟩)
    (rightShaped : rightTree.Shaped definition tokens (model.symbolName right) ⟨middle, stop⟩)
    (weight : S) :
    (ParseTree.branch (model.symbolName rule.head) leftTree rightTree weight).Shaped definition
      tokens (model.symbolName rule.head) ⟨start, stop⟩ := by
  obtain ⟨leftStart, leftStop⟩ := Span.mk.inj leftShaped.span
  obtain ⟨rightStart, rightStop⟩ := Span.mk.inj rightShaped.span
  obtain ⟨probability, member, _⟩ := represents.exists_pairRule found children
  refine ⟨rfl, ?_, ParseTree.forall_preorder_branch.mpr ⟨⟨?_, ?_⟩, leftShaped.nodes,
    rightShaped.nodes⟩⟩
  · rw [ParseTree.span, ParseTree.start, ParseTree.stop, leftStart, rightStop]
  · refine ⟨probability, ?_⟩
    rw [leftShaped.label, rightShaped.label]
    exact member
  · exact leftStop.trans rightStart.symm

theorem shaped_nullTreeWithin? (represents : model.Represents ln definition) {place : Nat}
    (placeLe : place ≤ tokens.length) {levels : Nat} {symbol : SymbolId} {tree : ParseTree S}
    (built : model.nullTreeWithin? place levels symbol = some tree) :
    tree.Shaped definition tokens (model.symbolName symbol) ⟨place, place⟩ := by
  induction levels generalizing symbol tree with
  | zero => cases built
  | succ levels ih =>
      simp only [nullTreeWithin?, bind, Option.bind_eq_some_iff] at built
      obtain ⟨null, held, rule, found, built⟩ := built
      obtain ⟨other, otherFound, rfl, way⟩ := nulls_origin represents held
      obtain rfl := Option.some.inj (found.symm.trans otherFound)
      cases children : rule.children with
      | none =>
          simp only [children, Option.bind_eq_some_iff, Option.some.injEq] at built
          obtain ⟨word, terminal, rfl⟩ := built
          have empty : rule.terminal? = some "" := by simpa [children] using way
          obtain rfl := Option.some.inj (terminal.symm.trans empty)
          obtain ⟨probability, member, _⟩ := represents.exists_wordRule found terminal
          exact ⟨rfl, rfl, ParseTree.forall_preorder_leaf.mpr
            ⟨⟨probability, member⟩, Or.inr ⟨rfl, placeLe, rfl⟩⟩⟩
      | some pair =>
          obtain ⟨left, right⟩ := pair
          simp only [children, Option.bind_eq_some_iff, Option.some.injEq] at built
          obtain ⟨leftTree, leftBuilt, rightTree, rightBuilt, rfl⟩ := built
          exact shaped_branch represents found children (ih leftBuilt) (ih rightBuilt) null.score

theorem shaped_treeWithin? (represents : model.Represents ln definition) {levels start length : Nat}
    (pos : 0 < length) (stop : start + length ≤ tokens.length) {symbol : SymbolId}
    (symbolLt : symbol < model.symbolCount) {tree : ParseTree S}
    (built : model.treeWithin? (model.chart tokens) levels start length symbol = some tree) :
    tree.Shaped definition tokens (model.symbolName symbol) ⟨start, start + length⟩ := by
  induction levels generalizing start length symbol tree with
  | zero => cases built
  | succ levels ih =>
      simp only [treeWithin?, bind, Option.bind_eq_some_iff] at built
      obtain ⟨⟨score, back⟩, held, built⟩ := built
      have fits := fits_of_at? represents pos stop symbolLt held
      cases back with
      | terminal place =>
          obtain ⟨rfl, rule, token, found, rfl, terminal, tokenFound⟩ := fits
          simp only [found, terminal, Option.bind_some, Option.some.injEq] at built
          subst built
          obtain ⟨probability, member, _⟩ := represents.exists_wordRule found terminal
          exact ⟨rfl, rfl, ParseTree.forall_preorder_leaf.mpr
            ⟨⟨probability, member⟩, Or.inl ⟨rfl, tokenFound⟩⟩⟩
      | split place cut =>
          obtain ⟨⟨cutPos, cutLt⟩, rule, found, rfl, _⟩ := fits
          simp only [found, Option.bind_some, Option.bind_eq_some_iff, Option.some.injEq] at built
          obtain ⟨⟨left, right⟩, children, leftTree, leftBuilt, rightTree, rightBuilt, rfl⟩ := built
          obtain ⟨leftLt, rightLt⟩ := represents.children_lt found children
          have leftShaped := ih cutPos (by omega) leftLt leftBuilt
          have rightShaped := ih (by omega) (by omega) rightLt rightBuilt
          have stopEq : start + cut + (length - cut) = start + length := by omega
          rw [stopEq] at rightShaped
          exact shaped_branch represents found children leftShaped rightShaped score
      | emptyLeft place =>
          obtain ⟨rule, found, rfl, _⟩ := fits
          simp only [found, Option.bind_some, Option.bind_eq_some_iff, Option.some.injEq] at built
          obtain ⟨⟨left, right⟩, children, leftTree, leftBuilt, rightTree, rightBuilt, rfl⟩ := built
          have startLe : start ≤ tokens.length := by omega
          exact shaped_branch represents found children
            (shaped_nullTreeWithin? represents startLe leftBuilt)
            (ih pos stop (represents.children_lt found children).2 rightBuilt) score
      | emptyRight place =>
          obtain ⟨rule, found, rfl, _⟩ := fits
          simp only [found, Option.bind_some, Option.bind_eq_some_iff, Option.some.injEq] at built
          obtain ⟨⟨left, right⟩, children, leftTree, leftBuilt, rightTree, rightBuilt, rfl⟩ := built
          exact shaped_branch represents found children
            (ih pos stop (represents.children_lt found children).1 leftBuilt)
            (shaped_nullTreeWithin? represents stop rightBuilt) score

theorem shaped_parse? (represents : model.Represents ln definition) {tree : ParseTree S}
    (parsed : model.parse? tokens = some tree) :
    tree.Shaped definition tokens definition.start ⟨0, tokens.length⟩ := by
  rw [parse?] at parsed
  rw [← represents.symbolName_eq represents.start]
  split at parsed
  · rename_i isEmpty
    obtain rfl := List.isEmpty_iff.mp isEmpty
    exact shaped_nullTreeWithin? represents (Nat.le_refl _) parsed
  · rename_i notEmpty
    split at parsed
    · cases parsed
    · have pos : 0 < tokens.length := List.length_pos_iff.mpr (by simpa using notEmpty)
      have stop : 0 + tokens.length ≤ tokens.length := by omega
      have shaped := shaped_treeWithin? represents pos stop (represents.id_lt represents.start)
        parsed
      rwa [Nat.zero_add] at shaped

end GrammarModel

end QuestionSearch.Grammar
