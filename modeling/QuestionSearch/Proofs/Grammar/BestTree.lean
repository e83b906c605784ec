import QuestionSearch.Proofs.Grammar.SettledChart
import QuestionSearch.Proofs.Grammar.TreeShape

/-!
# Best trees

With lawful scores the tables hold, for every nonterminal and every range, empty or not, a score at
least as good as that of any derivation (`exists_score?_of_derivation`), and a tree is read off them
all of whose parts have the scores that are held (`exists_best_parse?`).
-/

namespace QuestionSearch.Grammar

variable {S : Type} [Add S] [LT S] [DecidableLT S]

namespace GrammarModel

/-- The score that is held for a nonterminal and a range, which may be empty. -/
def score? (model : GrammarModel S) (tokens : List String) (start stop : Nat) (symbol : SymbolId) :
    Option S :=
  if start = stop then (model.nulls.at? symbol).map NullDerivation.score
  else ((model.chart tokens).at? start (stop - start) symbol).map Entry.score

section Complete

variable {model : GrammarModel S} {ln : Float → S} {definition : GrammarDefinition}
  {tokens : List String}

theorem score?_empty (place : Nat) (symbol : SymbolId) :
    model.score? tokens place place symbol = (model.nulls.at? symbol).map NullDerivation.score := by
  rw [score?, if_pos rfl]

theorem score?_chart {start length : Nat} (pos : 0 < length) (symbol : SymbolId) :
    model.score? tokens start (start + length) symbol =
      ((model.chart tokens).at? start length symbol).map Entry.score := by
  have different : start ≠ start + length := by omega
  rw [score?, if_neg different, Nat.add_sub_cancel_left]

variable {IsScore : S → Prop} (represents : model.Represents ln definition)
  (laws : ScoreLaws S IsScore)
  (lnScores : ∀ probability, isRuleProbability probability = true → IsScore (ln probability))

include represents laws lnScores

theorem isScore_score?
    {start stop : Nat} (le : start ≤ stop) (stopLe : stop ≤ tokens.length) {symbol : SymbolId}
    (symbolLt : symbol < model.symbolCount) {score : S}
    (held : model.score? tokens start stop symbol = some score) : IsScore score := by
  obtain ⟨length, rfl⟩ := Nat.exists_eq_add_of_le le
  rcases Nat.eq_zero_or_pos length with rfl | pos
  · rw [Nat.add_zero, score?_empty] at held
    obtain ⟨null, nullHeld, rfl⟩ := Option.map_eq_some_iff.mp held
    exact isScore_nulls represents laws.order lnScores nullHeld
  · rw [score?_chart pos] at held
    obtain ⟨entry, entryHeld, rfl⟩ := Option.map_eq_some_iff.mp held
    exact isScore_at? represents laws.order lnScores pos stopLe symbolLt entryHeld

/-- What is held for a token is at least as good as each rule for it. -/
theorem exists_score?_word {start : Nat} {token : String}
    (tokenFound : tokens[start]? = some token) {place : RuleIndex} {rule : WeightedRule S}
    (found : model.rules[place]? = some rule) (terminal : rule.terminal? = some token) :
    ∃ score, model.score? tokens start (start + 1) rule.head = some score ∧
      ¬ score < rule.score := by
  obtain ⟨startLt, _⟩ := List.getElem?_eq_some_iff.mp tokenFound
  obtain ⟨entry, held, entryLe⟩ :=
    (rangeSettled represents laws lnScores Nat.one_pos startLt).token place rule token rfl
      tokenFound found terminal
  exact ⟨entry.score, by rw [score?_chart Nat.one_pos, held, Option.map_some], entryLe⟩

/-- What is held for a range is at least as good as each rule for what is held for two parts that
make it up, one of which may be empty or both. -/
theorem exists_score?_pair {start middle stop : Nat} (startLe : start ≤ middle)
    (middleLe : middle ≤ stop) (stopLe : stop ≤ tokens.length) {place : RuleIndex}
    {rule : WeightedRule S} (found : model.rules[place]? = some rule) {left right : SymbolId}
    (children : rule.children = some (left, right)) {leftScore rightScore : S}
    (leftHeld : model.score? tokens start middle left = some leftScore)
    (rightHeld : model.score? tokens middle stop right = some rightScore) :
    ∃ score, model.score? tokens start stop rule.head = some score ∧
      ¬ score < rule.score + leftScore + rightScore := by
  obtain ⟨leftLength, rfl⟩ := Nat.exists_eq_add_of_le startLe
  obtain ⟨rightLength, rfl⟩ := Nat.exists_eq_add_of_le middleLe
  rcases Nat.eq_zero_or_pos leftLength with rfl | leftPos
  · rw [Nat.add_zero] at rightHeld leftHeld ⊢
    rw [score?_empty] at leftHeld
    obtain ⟨leftNull, leftFound, rfl⟩ := Option.map_eq_some_iff.mp leftHeld
    rcases Nat.eq_zero_or_pos rightLength with rfl | rightPos
    · rw [Nat.add_zero, score?_empty] at rightHeld
      rw [Nat.add_zero, score?_empty]
      obtain ⟨rightNull, rightFound, rfl⟩ := Option.map_eq_some_iff.mp rightHeld
      obtain ⟨null, held, nullLe⟩ := (nullsSettled represents laws lnScores).pair place rule left
        right leftNull rightNull found children leftFound rightFound
      exact ⟨null.score, by rw [held, Option.map_some], nullLe⟩
    · rw [score?_chart rightPos] at rightHeld ⊢
      obtain ⟨rightEntry, rightFound, rfl⟩ := Option.map_eq_some_iff.mp rightHeld
      have settled : model.RangeSettled tokens start rightLength :=
        rangeSettled represents laws lnScores rightPos (by omega)
      obtain ⟨entry, held, entryLe⟩ := settled.emptyLeft place rule left right leftNull rightEntry
        found children leftFound rightFound
      exact ⟨entry.score, by rw [held, Option.map_some], entryLe⟩
  · rw [score?_chart leftPos] at leftHeld
    obtain ⟨leftEntry, leftFound, rfl⟩ := Option.map_eq_some_iff.mp leftHeld
    rcases Nat.eq_zero_or_pos rightLength with rfl | rightPos
    · rw [Nat.add_zero, score?_empty] at rightHeld
      rw [Nat.add_zero, score?_chart leftPos]
      obtain ⟨rightNull, rightFound, rfl⟩ := Option.map_eq_some_iff.mp rightHeld
      have settled : model.RangeSettled tokens start leftLength :=
        rangeSettled represents laws lnScores leftPos (by omega)
      obtain ⟨entry, held, entryLe⟩ := settled.emptyRight place rule left right leftEntry rightNull
        found children leftFound rightFound
      exact ⟨entry.score, by rw [held, Option.map_some], entryLe⟩
    · rw [score?_chart rightPos] at rightHeld
      obtain ⟨rightEntry, rightFound, rfl⟩ := Option.map_eq_some_iff.mp rightHeld
      have pos : 0 < leftLength + rightLength := by omega
      have settled : model.RangeSettled tokens start (leftLength + rightLength) :=
        rangeSettled represents laws lnScores pos (by omega)
      have rightCut : leftLength + rightLength - leftLength = rightLength := by omega
      obtain ⟨entry, held, entryLe⟩ := settled.cut place rule left right leftLength leftEntry
        rightEntry leftPos (by omega) found children leftFound (by rw [rightCut]; exact rightFound)
      refine ⟨entry.score, ?_, entryLe⟩
      rw [Nat.add_assoc, score?_chart pos, held, Option.map_some]

/-- What is held for a nonterminal and a range is at least as good as any derivation. -/
theorem exists_score?_of_derivation {tree : ParseTree S}
    (derivation : tree.IsDerivation ln definition tokens) :
    ∃ symbol score, model.symbols.id? tree.label = some symbol ∧
      model.score? tokens tree.start tree.stop symbol = some score ∧ IsScore tree.weight ∧
      ¬ score < tree.weight := by
  induction tree with
  | leaf label word span weight =>
      obtain ⟨⟨probability, member, rfl⟩, tiles⟩ := ParseTree.forall_preorder_leaf.mp derivation
      obtain ⟨place, rule, found, checked⟩ := represents.exists_rule member
      cases checked with
      | word headFound valid =>
          rw [ParseTree.label, ParseTree.start, ParseTree.stop, ParseTree.weight]
          rcases tiles with ⟨stopEq, tokenFound⟩ | ⟨stopEq, _, rfl⟩
          · obtain ⟨score, held, scoreLe⟩ := exists_score?_word represents laws lnScores tokenFound
              found rfl
            rw [stopEq]
            exact ⟨_, score, headFound, held, lnScores _ valid, scoreLe⟩
          · obtain ⟨null, held, nullLe⟩ :=
              (nullsSettled represents laws lnScores).word place _ found rfl
            rw [stopEq]
            refine ⟨_, null.score, headFound, ?_, lnScores _ valid, nullLe⟩
            rw [score?_empty, held, Option.map_some]
  | branch label left right weight ihLeft ihRight =>
      obtain ⟨⟨⟨probability, member, rfl⟩, meet⟩, leftDerivation, rightDerivation⟩ :=
        ParseTree.IsDerivation.branch_iff.mp derivation
      obtain ⟨leftSymbol, leftScore, leftId, leftHeld, leftWeight, leftLe⟩ := ihLeft leftDerivation
      obtain ⟨rightSymbol, rightScore, rightId, rightHeld, rightWeight, rightLe⟩ :=
        ihRight rightDerivation
      obtain ⟨startLe, middleLe⟩ := ParseTree.start_le_stop leftDerivation.tiles
      obtain ⟨meetLe, stopLe⟩ := ParseTree.start_le_stop rightDerivation.tiles
      have meetEq : left.stop = right.start := meet
      rw [← meetEq] at rightHeld meetLe
      obtain ⟨place, rule, found, checked⟩ := represents.exists_rule member
      cases checked with
      | pair headFound valid leftFree leftFound rightFree rightFound =>
          obtain rfl := Option.some.inj (leftId.symm.trans leftFound)
          obtain rfl := Option.some.inj (rightId.symm.trans rightFound)
          have leftScored := isScore_score? represents laws lnScores startLe middleLe
            (represents.id_lt leftFound) leftHeld
          have rightScored := isScore_score? represents laws lnScores meetLe stopLe
            (represents.id_lt rightFound) rightHeld
          have weightScored := lnScores probability valid
          obtain ⟨score, held, scoreLe⟩ := exists_score?_pair represents laws lnScores startLe
            meetLe stopLe found rfl leftHeld rightHeld
          refine ⟨_, score, headFound, held,
            laws.isScore_total weightScored leftWeight rightWeight, ?_⟩
          have headLt := represents.id_lt headFound
          have scored := isScore_score? represents laws lnScores (startLe.trans meetLe) stopLe
            headLt held
          have totalLe := laws.total_mono weightScored leftWeight leftScored rightWeight
            rightScored leftLe rightLe
          exact laws.le_trans (laws.isScore_total weightScored leftWeight rightWeight)
            (laws.isScore_total weightScored leftScored rightScored) totalLe scoreLe

end Complete

end GrammarModel

/-- Whether a tree derives a range from a nonterminal and each of its parts has the score that is
held for it. -/
structure ParseTree.Best (model : GrammarModel S) (ln : Float → S) (definition : GrammarDefinition)
    (tokens : List String) (start stop : Nat) (symbol : SymbolId) (tree : ParseTree S) : Prop where
  /-- The nonterminal at the root. -/
  label : tree.label = model.symbolName symbol
  /-- The range. -/
  span : tree.span = ⟨start, stop⟩
  /-- The score at the root. -/
  weight : model.score? tokens start stop symbol = some tree.weight
  /-- Rules and scores fit at each node. -/
  derivation : tree.IsDerivation ln definition tokens
  /-- Each part has the score that is held. -/
  held : ∀ node ∈ tree.preorder, ∃ id, model.symbols.id? node.label = some id ∧
    model.score? tokens node.start node.stop id = some node.weight

namespace ParseTree.Best

variable {model : GrammarModel S} {ln : Float → S} {definition : GrammarDefinition}
  {tokens : List String} {symbol : SymbolId} {tree : ParseTree S}

theorem null_score {place : Nat} (best : tree.Best model ln definition tokens place place symbol)
    {null : NullDerivation S} (held : model.nulls.at? symbol = some null) :
    null.score = tree.weight := by
  simpa [GrammarModel.score?_empty, held] using best.weight

theorem entry_score {start length : Nat} (pos : 0 < length)
    (best : tree.Best model ln definition tokens start (start + length) symbol) {entry : Entry S}
    (held : (model.chart tokens).at? start length symbol = some entry) :
    entry.score = tree.weight := by
  simpa [GrammarModel.score?_chart pos, held] using best.weight

end ParseTree.Best

namespace GrammarModel

section Build

variable {model : GrammarModel S} {ln : Float → S} {definition : GrammarDefinition}
  {tokens : List String} (represents : model.Represents ln definition) {place : RuleIndex}
  {rule : WeightedRule S} (found : model.rules[place]? = some rule)

include represents found

theorem best_leaf {word : String} (terminal : rule.terminal? = some word) {start stop : Nat}
    (tiles : (ParseTree.leaf (model.symbolName rule.head) word ⟨start, stop⟩ rule.score).Tiles
      tokens)
    (held : model.score? tokens start stop rule.head = some rule.score) :
    (ParseTree.leaf (model.symbolName rule.head) word ⟨start, stop⟩ rule.score).Best model ln
      definition tokens start stop rule.head := by
  obtain ⟨probability, member, scoreEq⟩ := represents.exists_wordRule found terminal
  refine ⟨rfl, rfl, held, ?_, ?_⟩
  · exact ParseTree.forall_preorder_leaf.mpr ⟨⟨probability, member, scoreEq⟩, tiles⟩
  · exact ParseTree.forall_preorder_leaf.mpr ⟨_, represents.id?_head found, held⟩

theorem best_branch {left right : SymbolId} (children : rule.children = some (left, right))
    {start middle stop : Nat} {leftTree rightTree : ParseTree S}
    (leftBest : leftTree.Best model ln definition tokens start middle left)
    (rightBest : rightTree.Best model ln definition tokens middle stop right) {score : S}
    (scoreEq : score = rule.score + leftTree.weight + rightTree.weight)
    (held : model.score? tokens start stop rule.head = some score) :
    (ParseTree.branch (model.symbolName rule.head) leftTree rightTree score).Best model ln
      definition tokens start stop rule.head := by
  obtain ⟨leftStart, leftStop⟩ := Span.mk.inj leftBest.span
  obtain ⟨rightStart, rightStop⟩ := Span.mk.inj rightBest.span
  obtain ⟨probability, member, ruleScore⟩ := represents.exists_pairRule found children
  refine ⟨rfl, ?_, held, ParseTree.IsDerivation.branch_iff.mpr ⟨⟨?_, ?_⟩, leftBest.derivation,
    rightBest.derivation⟩, ParseTree.forall_preorder_branch.mpr ⟨?_, leftBest.held,
      rightBest.held⟩⟩
  · rw [ParseTree.span, ParseTree.start, ParseTree.stop, leftStart, rightStop]
  · refine ⟨probability, ?_, ?_⟩
    · rw [leftBest.label, rightBest.label]
      exact member
    · rw [scoreEq, ruleScore]
  · exact leftStop.trans rightStart.symm
  · refine ⟨_, represents.id?_head found, ?_⟩
    rw [ParseTree.start, ParseTree.stop, leftStart, rightStop]
    exact held

end Build

/-- The ranks for a shorter range make up a row of their own before those for a longer one. -/
theorem row_lt_row {width part length rank : Nat} (partPos : 0 < part) (partLt : part < length)
    (rankLt : rank < width) : (part - 1) * width + rank < (length - 1) * width := by
  have rows : (part - 1 + 1) * width ≤ (length - 1) * width :=
    Nat.mul_le_mul_right _ (by omega)
  rw [Nat.succ_mul] at rows
  omega

section Exists

variable {model : GrammarModel S} {ln : Float → S} {definition : GrammarDefinition}
  {tokens : List String} (represents : model.Represents ln definition)

include represents

/-- With more levels than the rank of a nonterminal, the tree of what is held for it and the empty
word is found. -/
theorem exists_nullTreeWithin? (settled : model.NullsSettled) {place : Nat}
    (placeLe : place ≤ tokens.length) {symbol : SymbolId} {null : NullDerivation S}
    (held : model.nulls.at? symbol = some null) {levels : Nat}
    (enough : model.symbolCount ≤ levels) :
    ∃ tree, model.nullTreeWithin? place levels symbol = some tree ∧
      tree.Best model ln definition tokens place place symbol := by
  obtain ⟨rank, founded⟩ := settled.founded
  have rankLt : rank symbol < levels := (founded symbol null held).1.trans_le enough
  clear enough
  induction levels generalizing symbol null with
  | zero => exact absurd rankLt (Nat.not_lt_zero _)
  | succ levels ih =>
      have scoreHeld : model.score? tokens place place symbol = some null.score := by
        rw [score?_empty, held, Option.map_some]
      obtain ⟨_, rule, found, rfl, way⟩ := founded symbol null held
      simp only [nullTreeWithin?, held, found, bind, Option.bind_some]
      rcases way with ⟨terminal, scoreEq⟩ | ⟨left, right, leftNull, rightNull, children, leftHeld,
        rightHeld, scoreEq, leftBelow, rightBelow⟩
      · have noChildren : rule.children = none := by
          have word := (represents.terminal?_eq_none_iff found).not
          simpa [terminal] using word
        simp only [noChildren, terminal, Option.bind_some]
        rw [scoreEq] at scoreHeld ⊢
        exact ⟨_, rfl, best_leaf represents found terminal (Or.inr ⟨rfl, placeLe, rfl⟩) scoreHeld⟩
      · obtain ⟨leftTree, leftBuilt, leftBest⟩ := ih leftHeld (by omega)
        obtain ⟨rightTree, rightBuilt, rightBest⟩ := ih rightHeld (by omega)
        simp only [children, leftBuilt, rightBuilt, Option.bind_some]
        rw [leftBest.null_score leftHeld, rightBest.null_score rightHeld] at scoreEq
        exact ⟨_, rfl, best_branch represents found children leftBest rightBest scoreEq scoreHeld⟩

theorem exists_nullTree? (settled : model.NullsSettled) {place : Nat}
    (placeLe : place ≤ tokens.length) {symbol : SymbolId} {null : NullDerivation S}
    (held : model.nulls.at? symbol = some null) :
    ∃ tree, model.nullTree? symbol place = some tree ∧
      tree.Best model ln definition tokens place place symbol :=
  exists_nullTreeWithin? represents settled placeLe held (Nat.le_succ _)

/-- With enough levels for the shorter ranges and the rank of a nonterminal, the tree of what is
held for it and a range is found. -/
theorem exists_treeWithin? (nulls : model.NullsSettled)
    (settled : ∀ start length, 0 < length → start + length ≤ tokens.length →
      model.RangeSettled tokens start length)
    {levels start length : Nat} (pos : 0 < length) (stop : start + length ≤ tokens.length)
    {rank : SymbolId → Nat} (founded : model.RangeFounded tokens start length rank)
    {symbol : SymbolId} (symbolLt : symbol < model.symbolCount) {entry : Entry S}
    (held : (model.chart tokens).at? start length symbol = some entry)
    (enough : (length - 1) * model.symbolCount + rank symbol < levels) :
    ∃ tree, model.treeWithin? (model.chart tokens) levels start length symbol = some tree ∧
      tree.Best model ln definition tokens start (start + length) symbol := by
  induction levels generalizing start length rank symbol entry with
  | zero => exact absurd enough (Nat.not_lt_zero _)
  | succ levels ih =>
      have scoreHeld : model.score? tokens start (start + length) symbol = some entry.score := by
        rw [score?_chart pos, held, Option.map_some]
      have origin := (founded symbol symbolLt entry held).2
      obtain ⟨score, back⟩ := entry
      simp only [treeWithin?, held, bind, Option.bind_some]
      cases back with
      | terminal place =>
          obtain ⟨rfl, rule, token, found, rfl, terminal, tokenFound, scoreEq⟩ := origin
          simp only at scoreEq scoreHeld
          simp only [found, terminal, Option.bind_some]
          rw [scoreEq] at scoreHeld ⊢
          exact ⟨_, rfl, best_leaf represents found terminal (Or.inl ⟨rfl, tokenFound⟩) scoreHeld⟩
      | split place cut =>
          obtain ⟨⟨cutPos, cutLt⟩, rule, left, right, leftEntry, rightEntry, found, rfl, children,
            leftHeld, rightHeld, scoreEq⟩ := origin
          obtain ⟨leftLt, rightLt⟩ := represents.children_lt found children
          have restPos : 0 < length - cut := by omega
          have restLt : length - cut < length := by omega
          have restStop : start + cut + (length - cut) = start + length := by omega
          obtain ⟨leftRank, leftFounded⟩ := (settled start cut cutPos (by omega)).founded
          have leftEnough := row_lt_row cutPos cutLt (leftFounded left leftLt leftEntry leftHeld).1
          obtain ⟨leftTree, leftBuilt, leftBest⟩ :=
            ih cutPos (by omega) leftFounded leftLt leftHeld (by omega)
          obtain ⟨rightRank, rightFounded⟩ :=
            (settled (start + cut) (length - cut) restPos (by omega)).founded
          have rightEnough := row_lt_row restPos restLt
            (rightFounded right rightLt rightEntry rightHeld).1
          obtain ⟨rightTree, rightBuilt, rightBest⟩ :=
            ih restPos (by omega) rightFounded rightLt rightHeld (by omega)
          simp only [found, children, leftBuilt, rightBuilt, Option.bind_some]
          rw [leftBest.entry_score cutPos leftHeld, rightBest.entry_score restPos rightHeld]
            at scoreEq
          rw [restStop] at rightBest
          exact ⟨_, rfl, best_branch represents found children leftBest rightBest scoreEq scoreHeld⟩
      | emptyLeft place =>
          obtain ⟨rule, left, right, null, rightEntry, found, rfl, children, nullHeld, rightHeld,
            below, scoreEq⟩ := origin
          have startLe : start ≤ tokens.length := by omega
          obtain ⟨leftTree, leftBuilt, leftBest⟩ :=
            exists_nullTree? represents nulls startLe nullHeld
          obtain ⟨rightTree, rightBuilt, rightBest⟩ := ih pos stop founded
            (represents.children_lt found children).2 rightHeld (by omega)
          simp only [found, children, leftBuilt, rightBuilt, Option.bind_some]
          rw [leftBest.null_score nullHeld, rightBest.entry_score pos rightHeld] at scoreEq
          exact ⟨_, rfl, best_branch represents found children leftBest rightBest scoreEq scoreHeld⟩
      | emptyRight place =>
          obtain ⟨rule, left, right, leftEntry, null, found, rfl, children, leftHeld, below,
            nullHeld, scoreEq⟩ := origin
          obtain ⟨leftTree, leftBuilt, leftBest⟩ := ih pos stop founded
            (represents.children_lt found children).1 leftHeld (by omega)
          obtain ⟨rightTree, rightBuilt, rightBest⟩ :=
            exists_nullTree? represents nulls stop nullHeld
          simp only [found, children, leftBuilt, rightBuilt, Option.bind_some]
          rw [leftBest.entry_score pos leftHeld, rightBest.null_score nullHeld] at scoreEq
          exact ⟨_, rfl, best_branch represents found children leftBest rightBest scoreEq scoreHeld⟩

theorem exists_tree? (nulls : model.NullsSettled)
    (settled : ∀ start length, 0 < length → start + length ≤ tokens.length →
      model.RangeSettled tokens start length)
    {start length : Nat} (pos : 0 < length) (stop : start + length ≤ tokens.length)
    {symbol : SymbolId} (symbolLt : symbol < model.symbolCount) {entry : Entry S}
    (held : (model.chart tokens).at? start length symbol = some entry) :
    ∃ tree, model.tree? (model.chart tokens) start length symbol = some tree ∧
      tree.Best model ln definition tokens start (start + length) symbol := by
  obtain ⟨rank, founded⟩ := (settled start length pos stop).founded
  refine exists_treeWithin? represents nulls settled pos stop founded symbolLt held ?_
  have rankLt := (founded symbol symbolLt entry held).1
  have rows : (length - 1) * model.symbolCount + model.symbolCount =
      length * model.symbolCount := by
    rw [← Nat.succ_mul, Nat.succ_eq_add_one, Nat.sub_add_cancel pos]
  omega

end Exists

end GrammarModel

end QuestionSearch.Grammar
