import QuestionSearch.Proofs.Grammar.RuleProducts

/-!
# The empty word

Which nonterminals derive the empty word, and how well, said of definitions as they are written
down. A model holds for each nonterminal the best score of all its derivations, however large they
are, and a tree with this score is read off it (`nullScore?_exact`).
-/

namespace QuestionSearch.Grammar

variable {S : Type}

namespace GrammarDefinition

/-- How a nonterminal derives the empty word, with the score of the derivation: by a rule for it, or
by a rule for two nonterminals both of which derive it. -/
inductive DerivesEmpty [Add S] (ln : Float → S) (definition : GrammarDefinition) : String → S → Prop
  | word {head : String} {probability : Float} :
    ⟨head, [""], probability⟩ ∈ definition.rules → DerivesEmpty ln definition head (ln probability)
  | pair {head left right : String} {probability : Float} {leftScore rightScore : S} :
    ⟨head, [left, right], probability⟩ ∈ definition.rules →
    DerivesEmpty ln definition left leftScore → DerivesEmpty ln definition right rightScore →
    DerivesEmpty ln definition head (ln probability + leftScore + rightScore)

/-- Whether a score is that of a derivation of the empty word and no other derivation from the
nonterminal has a better one. -/
def BestEmpty [Add S] [LT S] (ln : Float → S) (definition : GrammarDefinition) (symbol : String)
    (score : S) : Prop :=
  definition.DerivesEmpty ln symbol score ∧
    ∀ other, definition.DerivesEmpty ln symbol other → ¬ score < other

end GrammarDefinition

/-! ## Trees over an empty range -/

namespace ParseTree

/-- Below a tree over an empty range all ranges are the same, and all words are empty. -/
theorem empty_below {tokens : List String} {place : Nat} {tree : ParseTree S}
    (tiles : ∀ node ∈ tree.preorder, node.Tiles tokens) (span : tree.span = ⟨place, place⟩) :
    (∀ node ∈ tree.preorder, node.span = ⟨place, place⟩) ∧ ∀ word ∈ tree.leaves, word = "" := by
  induction tree with
  | leaf label word ownSpan weight =>
      refine ⟨forall_preorder_leaf.mpr span, ?_⟩
      obtain ⟨startEq, stopEq⟩ := Span.mk.inj span
      simp only [start, stop] at startEq stopEq
      rcases forall_preorder_leaf.mp tiles with ⟨longer, _⟩ | ⟨_, _, empty⟩
      · omega
      · simpa [leaves] using empty
  | branch label left right weight ihLeft ihRight =>
      obtain ⟨meet, leftTiles, rightTiles⟩ := forall_preorder_branch.mp tiles
      obtain ⟨startEq, stopEq⟩ := Span.mk.inj span
      have leftLe := (start_le_stop leftTiles).1
      have rightLe := (start_le_stop rightTiles).1
      simp only [start, stop, Tiles] at startEq stopEq meet
      obtain ⟨leftSpans, leftWords⟩ := ihLeft leftTiles (by rw [ParseTree.span]; congr 1; omega)
      obtain ⟨rightSpans, rightWords⟩ :=
        ihRight rightTiles (by rw [ParseTree.span]; congr 1; omega)
      refine ⟨forall_preorder_branch.mpr ⟨span, leftSpans, rightSpans⟩, ?_⟩
      intro word member
      exact (List.mem_append.mp member).elim (leftWords word) (rightWords word)

theorem Scored.followsRule [Add S] {ln : Float → S} {definition : GrammarDefinition}
    {tree : ParseTree S} (scored : tree.Scored ln definition) : tree.FollowsRule definition := by
  cases tree with
  | leaf => exact ⟨scored.choose, scored.choose_spec.1⟩
  | branch => exact ⟨scored.choose, scored.choose_spec.1⟩

end ParseTree

/-- The derivations of the empty word are the trees for no tokens. -/
theorem GrammarDefinition.derivesEmpty_iff [Add S] {ln : Float → S}
    {definition : GrammarDefinition} {symbol : String} {score : S} :
    definition.DerivesEmpty ln symbol score ↔
      ∃ tree : ParseTree S, tree.IsDerivation ln definition [] ∧ tree.label = symbol ∧
        tree.span = ⟨0, 0⟩ ∧ tree.weight = score := by
  constructor
  · intro derives
    induction derives with
    | @word head probability member =>
        exact ⟨.leaf head "" ⟨0, 0⟩ (ln probability), ParseTree.forall_preorder_leaf.mpr
          ⟨⟨probability, member, rfl⟩, Or.inr ⟨rfl, Nat.le_refl 0, rfl⟩⟩, rfl, rfl, rfl⟩
    | @pair head left right probability leftScore rightScore member _ _ ihLeft ihRight =>
        obtain ⟨leftTree, leftDerivation, rfl, leftSpan, rfl⟩ := ihLeft
        obtain ⟨rightTree, rightDerivation, rfl, rightSpan, rfl⟩ := ihRight
        obtain ⟨leftStart, leftStop⟩ := Span.mk.inj leftSpan
        obtain ⟨rightStart, rightStop⟩ := Span.mk.inj rightSpan
        refine ⟨.branch head leftTree rightTree
          (ln probability + leftTree.weight + rightTree.weight), ?_, rfl, ?_, rfl⟩
        · exact ParseTree.IsDerivation.branch_iff.mpr ⟨⟨⟨probability, member, rfl⟩,
            leftStop.trans rightStart.symm⟩, leftDerivation, rightDerivation⟩
        · rw [ParseTree.span, ParseTree.start, ParseTree.stop, leftStart, rightStop]
  · rintro ⟨tree, derivation, rfl, span, rfl⟩
    have words := (ParseTree.empty_below derivation.tiles span).2
    clear span
    induction tree with
    | leaf label word ownSpan weight =>
        obtain rfl : word = "" := words word (List.mem_singleton_self word)
        obtain ⟨⟨probability, member, rfl⟩, _⟩ := ParseTree.forall_preorder_leaf.mp derivation
        exact .word member
    | branch label left right weight ihLeft ihRight =>
        obtain ⟨⟨⟨probability, member, rfl⟩, _⟩, leftDerivation, rightDerivation⟩ :=
          ParseTree.IsDerivation.branch_iff.mp derivation
        exact .pair member
          (ihLeft leftDerivation fun word inLeft => words word (List.mem_append_left _ inLeft))
          (ihRight rightDerivation fun word inRight => words word (List.mem_append_right _ inRight))

namespace GrammarModel

variable {W : Type} {model : GrammarModel S} {ln : Float → S} {definition : GrammarDefinition}
  {IsScore : S → Prop} {symbol : String} {score : S}

theorem nullScore?_eq_some_iff :
    model.nullScore? symbol = some score ↔ ∃ id null, model.symbols.id? symbol = some id ∧
      model.nulls.at? id = some null ∧ null.score = score := by
  simp [nullScore?, symbolId?, Option.bind_eq_some_iff]

variable [Add S] [LT S] [DecidableLT S]

section Lawful

variable (represents : model.Represents ln definition) (laws : ScoreLaws S IsScore)
  (lnScores : ∀ probability, isRuleProbability probability = true → IsScore (ln probability))

include represents laws lnScores

/-- The tree that is read off the model at any place. -/
theorem exists_nullTree?_of_nullScore? (held : model.nullScore? symbol = some score) {id : SymbolId}
    (found : model.symbols.id? symbol = some id) {tokens : List String} {place : Nat}
    (placeLe : place ≤ tokens.length) :
    ∃ tree, model.nullTree? id place = some tree ∧ tree.IsDerivation ln definition tokens ∧
      tree.label = symbol ∧ tree.span = ⟨place, place⟩ ∧ tree.weight = score := by
  obtain ⟨other, null, otherFound, nullHeld, rfl⟩ := nullScore?_eq_some_iff.mp held
  obtain rfl := Option.some.inj (found.symm.trans otherFound)
  obtain ⟨tree, built, best⟩ :=
    exists_nullTree? represents (nullsSettled represents laws lnScores) placeLe nullHeld
  exact ⟨tree, built, best.derivation, best.label.trans (represents.symbolName_eq found),
    best.span, (best.null_score nullHeld).symm⟩

/-- What is held for the empty word is the score of a derivation. -/
theorem derivesEmpty_of_nullScore? (held : model.nullScore? symbol = some score) :
    definition.DerivesEmpty ln symbol score := by
  obtain ⟨id, _, found, _, _⟩ := nullScore?_eq_some_iff.mp held
  obtain ⟨tree, _, derivation, label, span, weight⟩ :=
    exists_nullTree?_of_nullScore? represents laws lnScores held found
      (Nat.zero_le ([] : List String).length)
  exact GrammarDefinition.derivesEmpty_iff.mpr ⟨tree, derivation, label, span, weight⟩

/-- What is held for the empty word is at least as good as any derivation. -/
theorem exists_nullScore?_of_derivesEmpty (derives : definition.DerivesEmpty ln symbol score) :
    IsScore score ∧ ∃ held, model.nullScore? symbol = some held ∧ ¬ held < score := by
  obtain ⟨tree, derivation, rfl, span, rfl⟩ := GrammarDefinition.derivesEmpty_iff.mp derives
  obtain ⟨startEq, stopEq⟩ := Span.mk.inj span
  obtain ⟨id, held, found, heldEq, isScore, heldLe⟩ :=
    exists_score?_of_derivation represents laws lnScores derivation
  rw [startEq, stopEq, score?_empty] at heldEq
  obtain ⟨null, nullHeld, rfl⟩ := Option.map_eq_some_iff.mp heldEq
  exact ⟨isScore, null.score, nullScore?_eq_some_iff.mpr ⟨id, null, found, nullHeld, rfl⟩, heldLe⟩

theorem nullScore?_eq_some_iff_bestEmpty :
    model.nullScore? symbol = some score ↔ definition.BestEmpty ln symbol score := by
  constructor
  · intro held
    refine ⟨derivesEmpty_of_nullScore? represents laws lnScores held, fun other derives => ?_⟩
    obtain ⟨_, best, bestHeld, bestLe⟩ :=
      exists_nullScore?_of_derivesEmpty represents laws lnScores derives
    obtain rfl := Option.some.inj (held.symm.trans bestHeld)
    exact bestLe
  · rintro ⟨derives, best⟩
    obtain ⟨isScore, held, heldEq, heldLe⟩ :=
      exists_nullScore?_of_derivesEmpty represents laws lnScores derives
    have heldDerives := derivesEmpty_of_nullScore? represents laws lnScores heldEq
    have heldScore := (exists_nullScore?_of_derivesEmpty represents laws lnScores heldDerives).1
    rw [heldEq, laws.le_antisymm heldScore isScore (best held heldDerives) heldLe]

/-- Parsing no tokens gives the tree of the start symbol. -/
theorem weight_parse?_nil :
    (model.parse? []).map ParseTree.weight = model.nullScore? definition.start := by
  have startFound : model.symbols.id? definition.start = some model.start := represents.start
  cases held : model.nullScore? definition.start with
  | some score =>
      obtain ⟨tree, built, _, _, _, rfl⟩ := exists_nullTree?_of_nullScore? represents laws lnScores
        held startFound (Nat.zero_le ([] : List String).length)
      simp [parse?, built]
  | none =>
      have missing : model.nulls.at? model.start = none := by
        simpa [nullScore?, symbolId?, startFound] using held
      simp [parse?, nullTree?, nullTreeWithin?, missing]

end Lawful

/-- A model has a score for the empty word and a nonterminal if and only if the nonterminal derives
it, and then it is the best score of all derivations. A tree that has this score by the rules at its
nodes is read off the model, wherever the word stands. Parsing no tokens gives this tree for the
start symbol. -/
theorem nullScore?_exact (laws : ScoreLaws S IsScore)
    (lnScores : ∀ probability, isRuleProbability probability = true → IsScore (ln probability))
    (built : ofDefinition ln definition = .ok model) (exp : S → W) :
    (∀ symbol, (model.nullScore? symbol).isSome ↔
      ∃ score, definition.DerivesEmpty ln symbol score) ∧
    (∀ symbol value, (model.nullScore? symbol).map exp = some value ↔
      ∃ score, definition.BestEmpty ln symbol score ∧ exp score = value) ∧
    (∀ symbol score, model.nullScore? symbol = some score →
      ∃ id, model.symbolId? symbol = some id ∧ ∀ place, ∃ tree,
        model.nullTree? id place = some tree ∧ tree.label = symbol ∧ tree.weight = score ∧
        (∀ node ∈ tree.preorder, node.FollowsRule definition ∧ node.span = ⟨place, place⟩) ∧
        (∀ word ∈ tree.leaves, word = "") ∧
        tree.ruleScore? (fun rule => (model.probability? rule).map ln) = some score) ∧
    ((model.parse? []).map (ParseTree.map exp)).map ParseTree.weight =
      (model.nullScore? definition.start).map exp := by
  have represents := represents_of_ofDefinition built
  refine ⟨?_, ?_, ?_, ?_⟩
  · intro symbol
    rw [Option.isSome_iff_exists]
    constructor
    · rintro ⟨score, held⟩
      exact ⟨score, derivesEmpty_of_nullScore? represents laws lnScores held⟩
    · rintro ⟨score, derives⟩
      obtain ⟨_, held, heldEq, _⟩ :=
        exists_nullScore?_of_derivesEmpty represents laws lnScores derives
      exact ⟨held, heldEq⟩
  · intro symbol value
    simp only [Option.map_eq_some_iff, nullScore?_eq_some_iff_bestEmpty represents laws lnScores]
  · intro symbol score held
    obtain ⟨id, _, found, _, _⟩ := nullScore?_eq_some_iff.mp held
    refine ⟨id, found, fun place => ?_⟩
    obtain ⟨tree, treeBuilt, derivation, label, span, weight⟩ :=
      exists_nullTree?_of_nullScore? represents laws lnScores held found
        (Nat.le_of_eq (List.length_replicate (n := place) (a := "")).symm)
    obtain ⟨spans, words⟩ := ParseTree.empty_below derivation.tiles span
    refine ⟨tree, treeBuilt, label, weight, ?_, words, ?_⟩
    · exact fun node member => ⟨(derivation node member).1.followsRule, spans node member⟩
    · rw [← weight]
      exact ParseTree.ruleScore?_eq_weight
        (fun rule probability listed => (probability?_eq_some_iff built).mpr listed)
        fun node member => (derivation node member).1
  · rw [← weight_parse?_nil represents laws lnScores, Option.map_map, Option.map_map]
    congr 1
    funext tree
    exact tree.weight_map exp

/-- The end, which is only expanded to the empty word, is all that derives it. -/
theorem derivesEmpty_trailing {symbol : String} {score : ℝ}
    (derives : trailingGrammar.DerivesEmpty halvingLog symbol score) :
    symbol = "end" ∧ score = 0 := by
  induction derives with
  | word member =>
      obtain ⟨rfl, rfl⟩ : _ = "end" ∧ _ = (1 : Float) := by simpa [trailingGrammar] using member
      exact ⟨rfl, if_neg (by decide)⟩
  | pair member _ _ ihLeft _ =>
      obtain ⟨_, ⟨rfl, _⟩, _⟩ : _ = "question" ∧ (_ = "question" ∧ _ = "end") ∧ _ = 0.5 := by
        simpa [trailingGrammar] using member
      exact absurd ihLeft.1 (by decide)

theorem nullScore?_exact_end : ∃ model : GrammarModel ℝ,
    ofDefinition halvingLog trailingGrammar = .ok model ∧
      (model.nullScore? "end").map Real.exp = some 1 ∧ model.nullScore? "question" = none ∧
      model.parse? [] = none := by
  obtain ⟨model, built⟩ := exists_trailingModel
  obtain ⟨derived, best, _, parsed⟩ :=
    nullScore?_exact scoreLaws_real halvingLog_nonpos built Real.exp
  have missing : model.nullScore? "question" = none := by
    rw [← Option.not_isSome_iff_eq_none, derived]
    rintro ⟨score, derives⟩
    exact absurd (derivesEmpty_trailing derives).1 (by decide)
  have ofEnd : trailingGrammar.DerivesEmpty halvingLog "end" (halvingLog 1) :=
    .word (by simp [trailingGrammar])
  have zero : halvingLog 1 = 0 := (derivesEmpty_trailing ofEnd).2
  refine ⟨model, built, (best "end" 1).mpr ⟨0, ⟨zero ▸ ofEnd, ?_⟩, Real.exp_zero⟩, missing, ?_⟩
  · intro other derives
    rw [(derivesEmpty_trailing derives).2]
    exact lt_irrefl 0
  · have startMissing : model.nullScore? trailingGrammar.start = none := missing
    rw [startMissing] at parsed
    simpa using parsed

end GrammarModel

end QuestionSearch.Grammar
