import QuestionSearch.Proofs.Grammar.Parsing
import QuestionSearch.Proofs.Grammar.TraceableTables

/-!
# Grounded entries

Following the references from anything that is held, one comes to words after finitely many steps:
what is held is grounded, at every moment while the tables are filled. So a tree is read off every
entry, and more levels than are needed give the same tree (`exists_tree_of_held`).
-/

namespace QuestionSearch.Grammar

variable {S : Type}

/-- Whether the references from the derivation held for a nonterminal all lead to rules for the
empty word. -/
inductive NullTable.Grounded (rules : Array (WeightedRule S)) (table : NullTable S) :
    SymbolId → Prop
  | word {symbol : SymbolId} {null : NullDerivation S} {rule : WeightedRule S} :
    table.at? symbol = some null → rules[null.rule]? = some rule → rule.terminal? = some "" →
    Grounded rules table symbol
  | pair {symbol left right : SymbolId} {null : NullDerivation S} {rule : WeightedRule S} :
    table.at? symbol = some null → rules[null.rule]? = some rule →
    rule.children = some (left, right) → Grounded rules table left → Grounded rules table right →
    Grounded rules table symbol

theorem NullTable.Grounded.isSome {rules : Array (WeightedRule S)} {table : NullTable S}
    {symbol : SymbolId} (grounded : table.Grounded rules symbol) : (table.at? symbol).isSome := by
  cases grounded with
  | word held | pair held => rw [held]; rfl

namespace GrammarModel

/-- Whether the references from the entry for a range and a nonterminal all lead to rules for words,
over shorter ranges, the same one and the empty one. -/
inductive Grounded (model : GrammarModel S) (chart : Chart S) : Nat → Nat → SymbolId → Prop
  | terminal {start length : Nat} {symbol : SymbolId} {score : S} {place : RuleIndex}
    {rule : WeightedRule S} {word : String} :
    chart.at? start length symbol = some ⟨score, .terminal place⟩ →
    model.rules[place]? = some rule → rule.terminal? = some word →
    Grounded model chart start length symbol
  | split {start length cut : Nat} {symbol left right : SymbolId} {score : S} {place : RuleIndex}
    {rule : WeightedRule S} :
    chart.at? start length symbol = some ⟨score, .split place cut⟩ →
    model.rules[place]? = some rule → rule.children = some (left, right) →
    Grounded model chart start cut left →
    Grounded model chart (start + cut) (length - cut) right →
    Grounded model chart start length symbol
  | emptyLeft {start length : Nat} {symbol left right : SymbolId} {score : S} {place : RuleIndex}
    {rule : WeightedRule S} :
    chart.at? start length symbol = some ⟨score, .emptyLeft place⟩ →
    model.rules[place]? = some rule → rule.children = some (left, right) →
    model.nulls.Grounded model.rules left → Grounded model chart start length right →
    Grounded model chart start length symbol
  | emptyRight {start length : Nat} {symbol left right : SymbolId} {score : S} {place : RuleIndex}
    {rule : WeightedRule S} :
    chart.at? start length symbol = some ⟨score, .emptyRight place⟩ →
    model.rules[place]? = some rule → rule.children = some (left, right) →
    Grounded model chart start length left → model.nulls.Grounded model.rules right →
    Grounded model chart start length symbol

theorem exists_rule_of_children? {model : GrammarModel S} {place : RuleIndex}
    {pair : SymbolId × SymbolId} (children : model.children? place = some pair) :
    ∃ rule, model.rules[place]? = some rule ∧ rule.children = some pair :=
  Option.bind_eq_some_iff.mp children

variable [Add S] [LT S] [DecidableLT S] {model : GrammarModel S} {ln : Float → S}
  {definition : GrammarDefinition} {IsScore : S → Prop}

omit [DecidableLT S] in
/-- In a traceable table every derivation is grounded, by induction on the ranks. -/
theorem NullsTraceable.grounded (laws : ScoreLaws S IsScore) {table : NullTable S}
    (traceable : model.NullsTraceable IsScore table) {symbol : SymbolId} {null : NullDerivation S}
    (held : table.at? symbol = some null) : table.Grounded model.rules symbol := by
  obtain ⟨rank, below⟩ := traceable.holding.exists_rank laws
  induction rankEq : rank symbol using Nat.strong_induction_on generalizing symbol null with
  | h _ ih =>
      subst rankEq
      have heldEq : table.holding symbol = some (null.score, null.rule) :=
        NullTable.holding_eq_some_iff.mpr held
      obtain ⟨rule, found, fits⟩ := traceable.rule symbol _ heldEq
      rcases fits with terminal | binary
      · exact .word held found terminal
      · obtain ⟨⟨left, right⟩, children⟩ := Option.isSome_iff_exists.mp binary
        have grounded (source : SymbolId) (member : source = left ∨ source = right) :
            table.Grounded model.rules source := by
          obtain ⟨lower, sourceHeld, sourceEq⟩ := below symbol _ heldEq source
            (by simpa [nullSources, children?_eq found, children] using member)
          exact ih _ lower (NullTable.holding_eq_some_iff.mp sourceEq) rfl
        exact .pair held found children (grounded left (Or.inl rfl)) (grounded right (Or.inr rfl))

/-- In a traceable chart every entry is grounded, by induction on the lengths of the ranges and,
within one, on the ranks. -/
theorem ChartTraceable.grounded (represents : model.Represents ln definition)
    (laws : ScoreLaws S IsScore) {tokens : Nat} {chart : Chart S}
    (traceable : model.ChartTraceable IsScore tokens chart)
    (nulls : ∀ symbol, (model.nulls.at? symbol).isSome → model.nulls.Grounded model.rules symbol)
    {start length : Nat} (pos : 0 < length) (stop : start + length ≤ tokens) {symbol : SymbolId}
    (symbolLt : symbol < model.symbolCount) {entry : Entry S}
    (held : chart.at? start length symbol = some entry) :
    model.Grounded chart start length symbol := by
  induction length using Nat.strong_induction_on generalizing start symbol entry with
  | h length shorter =>
      obtain ⟨rank, below⟩ := (traceable.ranges _ _ pos stop).exists_rank laws
      induction rankEq : rank symbol using Nat.strong_induction_on generalizing symbol entry with
      | h _ ih =>
          subst rankEq
          obtain ⟨score, back⟩ := entry
          have heldEq := traceable.range_eq_some symbolLt held
          have supported := traceable.supported _ _ pos stop symbol _ heldEq
          have beside (source : SymbolId) (sourceLt : source < model.symbolCount)
              (member : source ∈ model.backSources back) :
              model.Grounded chart start length source := by
            obtain ⟨lower, sourceHeld, sourceEq⟩ := below symbol _ heldEq source member
            exact ih _ lower sourceLt (Chart.range_eq_some_iff.mp sourceEq).2 rfl
          cases back with
          | terminal place =>
              obtain ⟨rule, word, found, terminal⟩ := supported
              exact .terminal held found terminal
          | split place cut =>
              obtain ⟨⟨cutPos, cutLt⟩, left, right, children, leftFilled, rightFilled⟩ := supported
              obtain ⟨rule, found, childrenEq⟩ := exists_rule_of_children? children
              obtain ⟨leftLt, rightLt⟩ := represents.children_lt found childrenEq
              obtain ⟨leftEntry, leftHeld⟩ := Option.isSome_iff_exists.mp leftFilled
              obtain ⟨rightEntry, rightHeld⟩ := Option.isSome_iff_exists.mp rightFilled
              exact .split held found childrenEq
                (shorter cut cutLt cutPos (by omega) leftLt leftHeld)
                (shorter (length - cut) (by omega) (by omega) (by omega) rightLt rightHeld)
          | emptyLeft place =>
              obtain ⟨left, right, children, leftFilled⟩ := supported
              obtain ⟨rule, found, childrenEq⟩ := exists_rule_of_children? children
              exact .emptyLeft held found childrenEq (nulls left leftFilled)
                (beside right (represents.children_lt found childrenEq).2
                  (by simp [backSources, children]))
          | emptyRight place =>
              obtain ⟨left, right, children, rightFilled⟩ := supported
              obtain ⟨rule, found, childrenEq⟩ := exists_rule_of_children? children
              exact .emptyRight held found childrenEq
                (beside left (represents.children_lt found childrenEq).1
                  (by simp [backSources, children]))
                (nulls right rightFilled)

/-! ## Trees -/

section Levels

omit [Add S] [LT S] [DecidableLT S]

variable {levels more : Nat} {tree : ParseTree S}

/-- More levels than are needed give the same tree of the empty word. -/
theorem nullTreeWithin?_mono {place : Nat} (le : levels ≤ more) {symbol : SymbolId}
    (built : model.nullTreeWithin? place levels symbol = some tree) :
    model.nullTreeWithin? place more symbol = some tree := by
  induction levels generalizing more symbol tree with
  | zero => cases built
  | succ levels ih =>
      obtain ⟨more, rfl⟩ := Nat.exists_eq_succ_of_ne_zero (by omega : more ≠ 0)
      have lower : levels ≤ more := Nat.le_of_succ_le_succ le
      simp only [nullTreeWithin?, bind, Option.bind_eq_some_iff] at built ⊢
      obtain ⟨null, held, rule, found, below⟩ := built
      refine ⟨null, held, rule, found, ?_⟩
      cases children : rule.children with
      | none => simpa only [children] using below
      | some pair =>
          simp only [children, Option.bind_eq_some_iff] at below ⊢
          obtain ⟨leftTree, leftBuilt, rightTree, rightBuilt, treeEq⟩ := below
          exact ⟨leftTree, ih lower leftBuilt, rightTree, ih lower rightBuilt, treeEq⟩

/-- More levels than are needed give the same tree of a range. -/
theorem treeWithin?_mono {chart : Chart S} {start length : Nat} (le : levels ≤ more)
    {symbol : SymbolId} (built : model.treeWithin? chart levels start length symbol = some tree) :
    model.treeWithin? chart more start length symbol = some tree := by
  induction levels generalizing more start length symbol tree with
  | zero => cases built
  | succ levels ih =>
      obtain ⟨more, rfl⟩ := Nat.exists_eq_succ_of_ne_zero (by omega : more ≠ 0)
      have lower : levels ≤ more := Nat.le_of_succ_le_succ le
      simp only [treeWithin?, bind, Option.bind_eq_some_iff] at built ⊢
      obtain ⟨entry, held, below⟩ := built
      refine ⟨entry, held, ?_⟩
      cases backEq : entry.back with
      | terminal place => simpa only [backEq] using below
      | split place cut =>
          simp only [backEq, Option.bind_eq_some_iff] at below ⊢
          obtain ⟨rule, found, pair, children, leftTree, leftBuilt, rightTree, rightBuilt,
            treeEq⟩ := below
          exact ⟨rule, found, pair, children, leftTree, ih lower leftBuilt, rightTree,
            ih lower rightBuilt, treeEq⟩
      | emptyLeft place =>
          simp only [backEq, Option.bind_eq_some_iff] at below ⊢
          obtain ⟨rule, found, pair, children, leftTree, leftBuilt, rightTree, rightBuilt,
            treeEq⟩ := below
          exact ⟨rule, found, pair, children, leftTree, leftBuilt, rightTree,
            ih lower rightBuilt, treeEq⟩
      | emptyRight place =>
          simp only [backEq, Option.bind_eq_some_iff] at below ⊢
          obtain ⟨rule, found, pair, children, leftTree, leftBuilt, rightTree, rightBuilt,
            treeEq⟩ := below
          exact ⟨rule, found, pair, children, leftTree, ih lower leftBuilt, rightTree, rightBuilt,
            treeEq⟩

/-- A tree is read off every grounded entry. -/
theorem Grounded.exists_treeWithin?
    (nulls : ∀ symbol place, (model.nulls.at? symbol).isSome →
      ∃ tree, model.nullTree? symbol place = some tree)
    {chart : Chart S} {start length : Nat} {symbol : SymbolId}
    (grounded : model.Grounded chart start length symbol) :
    ∃ levels tree, model.treeWithin? chart levels start length symbol = some tree := by
  induction grounded with
  | terminal held found terminal =>
      refine ⟨1, Option.isSome_iff_exists.mp ?_⟩
      simp [treeWithin?, held, found, terminal]
  | split held found children _ _ ihLeft ihRight =>
      obtain ⟨leftLevels, leftTree, leftBuilt⟩ := ihLeft
      obtain ⟨rightLevels, rightTree, rightBuilt⟩ := ihRight
      have leftMore := treeWithin?_mono (Nat.le_max_left leftLevels rightLevels) leftBuilt
      have rightMore := treeWithin?_mono (Nat.le_max_right leftLevels rightLevels) rightBuilt
      refine ⟨max leftLevels rightLevels + 1, Option.isSome_iff_exists.mp ?_⟩
      simp [treeWithin?, held, found, children, leftMore, rightMore]
  | @emptyLeft start _ _ left _ _ _ _ held found children leftGrounded _ ihRight =>
      obtain ⟨leftTree, leftBuilt⟩ := nulls left start leftGrounded.isSome
      obtain ⟨levels, rightTree, rightBuilt⟩ := ihRight
      refine ⟨levels + 1, Option.isSome_iff_exists.mp ?_⟩
      simp [treeWithin?, held, found, children, leftBuilt, rightBuilt]
  | @emptyRight start length _ _ right _ _ _ held found children _ rightGrounded ihLeft =>
      obtain ⟨levels, leftTree, leftBuilt⟩ := ihLeft
      obtain ⟨rightTree, rightBuilt⟩ := nulls right (start + length) rightGrounded.isSome
      refine ⟨levels + 1, Option.isSome_iff_exists.mp ?_⟩
      simp [treeWithin?, held, found, children, leftBuilt, rightBuilt]

end Levels

section Finished

variable (represents : model.Represents ln definition) (laws : ScoreLaws S IsScore)
  (lnScores : ∀ probability, isRuleProbability probability = true → IsScore (ln probability))

include represents laws lnScores

/-- A tree of the empty word is read off with as many levels as there are nonterminals. -/
theorem exists_nullTree?_of_held {symbol : SymbolId} (place : Nat)
    (held : (model.nulls.at? symbol).isSome) :
    ∃ tree, model.nullTree? symbol place = some tree ∧
      ∀ more, model.symbolCount ≤ more → model.nullTreeWithin? place more symbol = some tree := by
  obtain ⟨null, nullHeld⟩ := Option.isSome_iff_exists.mp held
  obtain ⟨tree, built, _⟩ := exists_nullTreeWithin? represents
    (nullsSettled represents laws lnScores)
    (Nat.le_of_eq (List.length_replicate (n := place) (a := "")).symm) nullHeld (Nat.le_refl _)
  exact ⟨tree, nullTreeWithin?_mono (Nat.le_succ _) built,
    fun _ enough => nullTreeWithin?_mono enough built⟩

/-- The best tree of a range is read off with the levels that are allowed. -/
theorem exists_tree?_of_held {tokens : List String} {start length : Nat} (pos : 0 < length)
    (stop : start + length ≤ tokens.length) {symbol : SymbolId}
    (symbolLt : symbol < model.symbolCount)
    (held : ((model.chart tokens).at? start length symbol).isSome) :
    ∃ tree, model.tree? (model.chart tokens) start length symbol = some tree ∧
      tree.Best model ln definition tokens start (start + length) symbol := by
  obtain ⟨entry, entryHeld⟩ := Option.isSome_iff_exists.mp held
  exact exists_tree? represents (nullsSettled represents laws lnScores)
    (fun _ _ => rangeSettled represents laws lnScores) pos stop symbolLt entryHeld

/-- Parsing finds a tree if and only if the start symbol is held for all the tokens. -/
theorem isSome_parse?_iff (tokens : List String) :
    (model.parse? tokens).isSome ↔
      (model.score? tokens 0 tokens.length model.start).isSome := by
  constructor
  · intro found
    obtain ⟨tree, parsed⟩ := Option.isSome_iff_exists.mp found
    rw [(best_of_parse? represents laws lnScores parsed).weight]
    rfl
  · intro held
    suffices ∃ tree : ParseTree S,
        tree.Best model ln definition tokens 0 tokens.length model.start by
      obtain ⟨tree, best⟩ := this
      obtain ⟨found, parsed⟩ := exists_parse?_of_derivation represents laws lnScores
        best.derivation (best.label.trans (represents.symbolName_eq represents.start)) best.span
      rw [parsed]
      rfl
    rcases Nat.eq_zero_or_pos tokens.length with empty | pos
    · rw [empty, score?_empty, Option.isSome_map] at held
      obtain ⟨null, nullHeld⟩ := Option.isSome_iff_exists.mp held
      obtain ⟨tree, _, best⟩ := exists_nullTree? represents
        (nullsSettled represents laws lnScores) (Nat.zero_le tokens.length) nullHeld
      exact ⟨tree, empty.symm ▸ best⟩
    · rw [← Nat.zero_add tokens.length, score?_chart pos, Option.isSome_map] at held
      obtain ⟨tree, _, best⟩ := exists_tree?_of_held represents laws lnScores pos
        (Nat.le_of_eq (Nat.zero_add _)) (represents.id_lt represents.start) held
      rw [Nat.zero_add] at best
      exact ⟨tree, best⟩

end Finished

/-- At every moment while the derivations of the empty word are found and while a chart is filled,
the references from all that is held come to words after finitely many steps, so that a tree is read
off every entry, and more levels do not change it. Of the finished tables it is read off with the
levels that are allowed, and parsing finds a tree whenever the start symbol is held. -/
theorem exists_tree_of_held (laws : ScoreLaws S IsScore)
    (lnScores : ∀ probability, isRuleProbability probability = true → IsScore (ln probability))
    (built : ofDefinition ln definition = .ok model) :
    (NullTable.MetInBuild model.symbolCount model.rules model.tables model.nulls ∧
      ∀ table, NullTable.MetInBuild model.symbolCount model.rules model.tables table →
        ∀ symbol, (table.at? symbol).isSome → table.Grounded model.rules symbol) ∧
    (∀ tokens, model.MetInChart tokens (model.chart tokens) ∧
      ∀ chart, model.MetInChart tokens chart → ∀ start length symbol,
        chart.layout.IsSlot start length symbol → (chart.at? start length symbol).isSome →
          model.Grounded chart start length symbol ∧
          ∃ levels tree, ∀ more, levels ≤ more →
            model.treeWithin? chart more start length symbol = some tree) ∧
    (∀ symbol place, (model.nulls.at? symbol).isSome →
      ∃ tree, model.nullTree? symbol place = some tree ∧
        ∀ more, model.symbolCount ≤ more →
          model.nullTreeWithin? place more symbol = some tree) ∧
    (∀ tokens start length symbol, (model.chart tokens).layout.IsSlot start length symbol →
      ((model.chart tokens).at? start length symbol).isSome →
        ∃ tree, model.tree? (model.chart tokens) start length symbol = some tree ∧
          ∀ more, length * model.symbolCount < more →
            model.treeWithin? (model.chart tokens) more start length symbol = some tree) ∧
    ((model.parse? []).isSome ↔ (model.nulls.at? model.start).isSome) ∧
    ∀ tokens, tokens ≠ [] → ((model.parse? tokens).isSome ↔
      ((model.chart tokens).at? 0 tokens.length model.start).isSome) := by
  have represents := represents_of_ofDefinition built
  have nullsMet : NullTable.MetInBuild model.symbolCount model.rules model.tables model.nulls := by
    rw [represents.nulls]
    exact NullTable.metInBuild_last ..
  have nullsGrounded (table : NullTable S)
      (isMet : NullTable.MetInBuild model.symbolCount model.rules model.tables table)
      (symbol : SymbolId) (held : (table.at? symbol).isSome) :
      table.Grounded model.rules symbol := by
    obtain ⟨null, nullHeld⟩ := Option.isSome_iff_exists.mp held
    exact (nullsTraceable_of_met represents laws lnScores isMet).grounded laws nullHeld
  refine ⟨⟨nullsMet, nullsGrounded⟩, fun tokens => ⟨model.metInChart_last tokens, ?_⟩, ?_, ?_, ?_,
    ?_⟩
  · intro chart isMet start length symbol slot held
    have traceable := chartTraceable_of_met represents laws lnScores isMet
    obtain ⟨pos, stop, symbolLt⟩ := slot
    rw [traceable.isFor.layout] at stop symbolLt
    obtain ⟨entry, entryHeld⟩ := Option.isSome_iff_exists.mp held
    have grounded := traceable.grounded represents laws (nullsGrounded _ nullsMet) pos stop symbolLt
      entryHeld
    have trees (source : SymbolId) (place : Nat) (filled : (model.nulls.at? source).isSome) :
        ∃ tree, model.nullTree? source place = some tree := by
      obtain ⟨tree, found, _⟩ := exists_nullTree?_of_held represents laws lnScores place filled
      exact ⟨tree, found⟩
    obtain ⟨levels, tree, found⟩ := grounded.exists_treeWithin? trees
    exact ⟨grounded, levels, tree, fun _ enough => treeWithin?_mono enough found⟩
  · exact fun symbol place held => exists_nullTree?_of_held represents laws lnScores place held
  · rintro tokens start length symbol ⟨pos, stop, symbolLt⟩ held
    rw [(isFor_chart represents).layout] at stop symbolLt
    obtain ⟨tree, found, _⟩ :=
      exists_tree?_of_held represents laws lnScores pos stop symbolLt held
    exact ⟨tree, found, fun _ enough => treeWithin?_mono enough found⟩
  · rw [isSome_parse?_iff represents laws lnScores, List.length_nil, score?_empty,
      Option.isSome_map]
  · intro tokens notEmpty
    have pos : 0 < tokens.length := List.length_pos_iff.mpr notEmpty
    have scoreEq : model.score? tokens 0 (0 + tokens.length) model.start =
        ((model.chart tokens).at? 0 tokens.length model.start).map Entry.score :=
      score?_chart pos model.start
    rw [isSome_parse?_iff represents laws lnScores, ← Option.isSome_map (f := Entry.score),
      ← scoreEq, Nat.zero_add]

theorem exists_tree_of_held_what : ∃ model : GrammarModel ℝ,
    ofDefinition halvingLog trailingGrammar = .ok model ∧
      model.Grounded (model.chart ["what"]) 0 1 model.start ∧
      ∃ tree, model.tree? (model.chart ["what"]) 0 1 model.start = some tree := by
  obtain ⟨model, built⟩ := exists_trailingModel
  have represents := represents_of_ofDefinition built
  obtain ⟨_, moments, _, finished, _, parsedIff⟩ :=
    exists_tree_of_held scoreLaws_real halvingLog_nonpos built
  obtain ⟨tree, parsed⟩ := exists_parse?_of_derivation represents scoreLaws_real halvingLog_nonpos
    isDerivation_what rfl rfl
  have held : ((model.chart ["what"]).at? 0 1 model.start).isSome :=
    (parsedIff ["what"] (List.cons_ne_nil _ _)).mp (by rw [parsed]; rfl)
  have slot : (model.chart ["what"]).layout.IsSlot 0 1 model.start := by
    rw [(isFor_chart represents).layout]
    exact ⟨Nat.one_pos, Nat.le_refl 1, represents.id_lt represents.start⟩
  obtain ⟨grounded, _⟩ := (moments ["what"]).2 _ (moments ["what"]).1 0 1 model.start slot held
  obtain ⟨found, foundEq, _⟩ := finished ["what"] 0 1 model.start slot held
  exact ⟨model, built, grounded, found, foundEq⟩

end GrammarModel

end QuestionSearch.Grammar
