import QuestionSearch.Proofs.Grammar.Parsing
import QuestionSearch.Proofs.Grammar.Validation

/-!
# Products of rules

What the rules of a grammar make of a tree: the score of a tree is put together from the rules at
its nodes alone, whatever scores are noted there, and in exact arithmetic it stands for the product
of their probabilities. The scores noted in a tree that parsing finds are these at every node
(`node_probability`), so none of them is out of date.
-/

namespace QuestionSearch.Grammar

variable {S : Type}

/-- The symbols of a right side in order. -/
def RightSide.symbols : RightSide → List String
  | terminal word => [word]
  | binary left right => [left, right]

/-! ## Looking up probabilities -/

theorem RightSide.symbols_inj {first second : RightSide} (same : first.symbols = second.symbols) :
    first = second := by
  cases first <;> cases second <;> simp_all [symbols]

theorem WeightedRule.definition_eq (weighted : WeightedRule S) :
    weighted.definition =
      ⟨weighted.rule.head, weighted.rule.right.symbols, weighted.probability⟩ := by
  obtain ⟨⟨head, right⟩, probability, score, headId, children⟩ := weighted
  cases right <;> rfl

/-- A checked rule is written down as it was. -/
theorem Checked.definition_eq {ln : Float → S} {symbols : Symbols} {rule : RuleDefinition}
    {weighted : WeightedRule S} (checked : Checked ln symbols rule weighted) :
    weighted.definition = rule := by
  cases checked <;> rfl

section Accepted

variable [Add S] [LT S] [DecidableLT S] {ln : Float → S} {definition : GrammarDefinition}
  {model : GrammarModel S}

theorem GrammarModel.Represents.rules_eq (represents : model.Represents ln definition) :
    definition.rules = model.rules.toList.map WeightedRule.definition := by
  have same := represents.rules.imp fun _ _ checked => checked.definition_eq.symm
  rwa [← List.forall₂_map_right_iff, List.forall₂_eq_eq_eq] at same

/-- The rules of an accepted definition are sound. -/
theorem soundRules_of_ofDefinition (built : GrammarModel.ofDefinition ln definition = .ok model) :
    definition.SoundRules definition.rules := by
  have apart : definition.SymbolsApart := by
    rw [← find?_isNonterminal_eq_none_iff]
    cases found : definition.terminals.find? (Symbols.ofDefinition definition).isNonterminal with
    | none => rfl
    | some symbol => simp [GrammarModel.ofDefinition, found] at built
  have declared : definition.start ∈ definition.nonterminals := by
    have represents := represents_of_ofDefinition built
    exact Symbols.exists_id?_iff.mp ⟨_, represents.symbols ▸ represents.start⟩
  have folded := (GrammarModel.ofDefinition_of_start ln apart declared).1.mp ⟨model, built⟩
  exact (exists_foldlM_addRule_iff apart .nil ⟨by simp, .nil⟩).mp folded

/-- No rule stands twice in a model. -/
theorem pairwise_rule_ne (built : GrammarModel.ofDefinition ln definition = .ok model) :
    model.rules.toList.Pairwise fun earlier later => earlier.rule ≠ later.rule := by
  have distinct := (soundRules_of_ofDefinition built).distinct
  rw [(represents_of_ofDefinition built).rules_eq, List.pairwise_map] at distinct
  refine distinct.imp fun different same => different ?_
  simp [RuleDefinition.SameSides, WeightedRule.definition_eq, same]

/-- The probability of a rule is the one that the definition gives to it. -/
theorem probability?_eq_some_iff (built : GrammarModel.ofDefinition ln definition = .ok model)
    {rule : Rule} {probability : Float} :
    model.probability? rule = some probability ↔
      ⟨rule.head, rule.right.symbols, probability⟩ ∈ definition.rules := by
  rw [(represents_of_ofDefinition built).rules_eq, GrammarModel.probability?, ← Array.find?_toList,
    Option.map_eq_some_iff]
  simp only [List.mem_map, WeightedRule.definition_eq, RuleDefinition.mk.injEq]
  constructor
  · rintro ⟨weighted, found, rfl⟩
    obtain rfl : weighted.rule = rule := by simpa using List.find?_some found
    exact ⟨weighted, List.mem_of_find?_eq_some found, rfl, rfl, rfl⟩
  · rintro ⟨weighted, member, headEq, rightEq, rfl⟩
    have ruleEq : weighted.rule = rule := by
      obtain ⟨head, right⟩ := rule
      obtain ⟨⟨ownHead, ownRight⟩, probability, score, headId, children⟩ := weighted
      simp only at headEq rightEq
      rw [headEq, RightSide.symbols_inj rightEq]
    obtain ⟨before, after, split⟩ := List.append_of_mem member
    refine ⟨weighted, List.find?_eq_some_iff_append.mpr
      ⟨by simp [ruleEq], before, after, split, ?_⟩, rfl⟩
    intro earlier earlierMem
    have different := pairwise_rule_ne built
    rw [split, List.pairwise_append] at different
    have ne := different.2.2 earlier earlierMem weighted List.mem_cons_self
    simpa [ruleEq] using ne

end Accepted

/-! ## Rules of trees -/

namespace ParseTree

variable {V W : Type}

/-- The rule at the root. -/
def rule : ParseTree W → Rule
  | leaf label word _ _ => .terminal label word
  | branch label left right _ => .binary label left.label right.label

/-- The rules at the nodes, each before those below it and the left ones before the right ones. -/
def rules : ParseTree W → List Rule
  | leaf label word span weight => [(leaf label word span weight).rule]
  | branch label left right weight =>
    (branch label left right weight).rule :: (left.rules ++ right.rules)

/-- The score of a tree by the rules at its nodes: that of the rule at the root and, at a branch,
those of its parts. What is noted at the nodes does not count. -/
def ruleScore? [Add S] (score? : Rule → Option S) : ParseTree W → Option S
  | leaf label word span weight => score? (leaf label word span weight).rule
  | branch label left right weight => do
    let own ← score? (branch label left right weight).rule
    let leftScore ← left.ruleScore? score?
    let rightScore ← right.ruleScore? score?
    some (own + leftScore + rightScore)

theorem label_map (image : V → W) (tree : ParseTree V) : (tree.map image).label = tree.label := by
  cases tree <;> rfl

theorem weight_map (image : V → W) (tree : ParseTree V) :
    (tree.map image).weight = image tree.weight := by
  cases tree <;> rfl

theorem ruleScore?_map [Add S] (score? : Rule → Option S) (image : V → W) (tree : ParseTree V) :
    (tree.map image).ruleScore? score? = tree.ruleScore? score? := by
  induction tree with
  | leaf => rfl
  | branch label left right weight ihLeft ihRight =>
      simp [map, ruleScore?, rule, label_map, ihLeft, ihRight]

theorem preorder_map (image : V → W) (tree : ParseTree V) :
    (tree.map image).preorder = tree.preorder.map (map image) := by
  induction tree with
  | leaf => rfl
  | branch label left right weight ihLeft ihRight => simp [map, preorder, ihLeft, ihRight]

section Products

variable [Add S] {ln : Float → S} {probability? : Rule → Option Float}

/-- If the score noted at each node is that of its rule plus those noted at its parts, it is the
score by the rules. -/
theorem ruleScore?_eq_weight {definition : GrammarDefinition}
    (listed : ∀ (rule : Rule) (probability : Float),
      ⟨rule.head, rule.right.symbols, probability⟩ ∈ definition.rules →
        probability? rule = some probability)
    {tree : ParseTree S} (scored : ∀ node ∈ tree.preorder, node.Scored ln definition) :
    tree.ruleScore? (fun rule => (probability? rule).map ln) = some tree.weight := by
  induction tree with
  | leaf label word span weight =>
      obtain ⟨probability, member, rfl⟩ := forall_preorder_leaf.mp scored
      simp only [ruleScore?, listed (.terminal label word) probability member, rule, weight,
        Option.map_some]
  | branch label left right weight ihLeft ihRight =>
      obtain ⟨⟨probability, member, rfl⟩, leftScored, rightScored⟩ :=
        forall_preorder_branch.mp scored
      simp only [ruleScore?, listed (.binary label left.label right.label) probability member,
        rule, ParseTree.weight, ihLeft leftScored, ihRight rightScored, Option.map_some, bind,
        Option.bind_some]

/-- In exact arithmetic a score by the rules stands for the product of their probabilities. -/
theorem exists_product_of_ruleScore? [Monoid W] {exp : S → W} {value : Float → W}
    (expAdd : ∀ a b, exp (a + b) = exp a * exp b) (expLn : ∀ rule probability,
      probability? rule = some probability → exp (ln probability) = value probability)
    {tree : ParseTree V} {score : S}
    (scoreEq : tree.ruleScore? (fun rule => (probability? rule).map ln) = some score) :
    ∃ probabilities : List Float, tree.rules.map probability? = probabilities.map some ∧
      exp score = (probabilities.map value).prod := by
  induction tree generalizing score with
  | leaf label word span weight =>
      obtain ⟨probability, found, rfl⟩ := Option.map_eq_some_iff.mp scoreEq
      refine ⟨[probability], by simpa [rules] using found, ?_⟩
      simpa using expLn _ _ found
  | branch label left right weight ihLeft ihRight =>
      simp only [ruleScore?, bind, Option.bind_eq_some_iff, Option.some.injEq] at scoreEq
      obtain ⟨own, ownEq, leftScore, leftEq, rightScore, rightEq, rfl⟩ := scoreEq
      obtain ⟨probability, found, rfl⟩ := Option.map_eq_some_iff.mp ownEq
      obtain ⟨lefts, leftsEq, leftProduct⟩ := ihLeft leftEq
      obtain ⟨rights, rightsEq, rightProduct⟩ := ihRight rightEq
      refine ⟨probability :: (lefts ++ rights), by simp [rules, found, leftsEq, rightsEq], ?_⟩
      calc
        exp (ln probability + leftScore + rightScore) =
            exp (ln probability) * exp leftScore * exp rightScore := by rw [expAdd, expAdd]
        _ = value probability * ((lefts.map value).prod * (rights.map value).prod) := by
            rw [expLn _ _ found, leftProduct, rightProduct, mul_assoc]
        _ = ((probability :: (lefts ++ rights)).map value).prod := by simp

end Products

end ParseTree

/-! ## Probabilities of parts -/

namespace GrammarModel

variable [Add S] [LT S] [DecidableLT S] {W : Type} {model : GrammarModel S} {ln : Float → S}
  {definition : GrammarDefinition}

theorem isRuleProbability_of_probability? (built : ofDefinition ln definition = .ok model)
    {rule : Rule} {probability : Float} (found : model.probability? rule = some probability) :
    isRuleProbability probability = true := by
  have represents := represents_of_ofDefinition built
  obtain ⟨weighted, ruleFound, rfl⟩ := Option.map_eq_some_iff.mp found
  obtain ⟨place, lt, rfl⟩ := Array.getElem_of_mem (Array.mem_of_find?_eq_some ruleFound)
  exact (represents.score_eq (Array.getElem?_eq_getElem lt)).2

/-- At every node of a tree that is found stands the image under `exp` of the score that the rules
at the nodes below give. If `exp` turns sums into products and undoes the logarithm, it is the
product of the probabilities of these rules. -/
theorem node_probability {IsScore : S → Prop} (laws : ScoreLaws S IsScore)
    (lnScores : ∀ probability, isRuleProbability probability = true → IsScore (ln probability))
    (built : ofDefinition ln definition = .ok model) (exp : S → W) {tokens : List String}
    {tree : ParseTree W} (parsed : (model.parse? tokens).map (ParseTree.map exp) = some tree) :
    ∀ node ∈ tree.preorder,
      (∃ score, node.ruleScore? (fun rule => (model.probability? rule).map ln) = some score ∧
        node.weight = exp score) ∧
      ∀ [Monoid W] (value : Float → W), (∀ a b, exp (a + b) = exp a * exp b) →
        (∀ probability, isRuleProbability probability = true →
          exp (ln probability) = value probability) →
        ∃ probabilities : List Float,
          node.rules.map model.probability? = probabilities.map some ∧
            node.weight = (probabilities.map value).prod := by
  obtain ⟨scores, scoresFound, rfl⟩ := Option.map_eq_some_iff.mp parsed
  have best := best_of_parse? (represents_of_ofDefinition built) laws lnScores scoresFound
  rw [ParseTree.preorder_map, List.forall_mem_map]
  intro node member
  have scoreEq : (node.map exp).ruleScore? (fun rule => (model.probability? rule).map ln) =
      some node.weight := by
    rw [ParseTree.ruleScore?_map]
    refine ParseTree.ruleScore?_eq_weight
      (fun rule probability listed => (probability?_eq_some_iff built).mpr listed) ?_
    intro part partMem
    exact (best.derivation part (ParseTree.preorder_subset member partMem)).1
  refine ⟨⟨node.weight, scoreEq, node.weight_map exp⟩, ?_⟩
  intro _ value expAdd expLn
  rw [node.weight_map exp]
  exact ParseTree.exists_product_of_ruleScore? expAdd
    (fun rule probability found =>
      expLn probability (isRuleProbability_of_probability? built found)) scoreEq

/-- The probabilities one and one half as exact numbers. -/
def halves (probability : Float) : ℚ := if probability < 1 then 1 / 2 else 1

theorem exp_halvingLog (probability : Float) :
    Real.exp (halvingLog probability) = halves probability := by
  rw [halvingLog, halves]
  split
  · rw [Real.exp_log (by norm_num)]
    norm_num
  · rw [Real.exp_zero, Rat.cast_one]

theorem node_probability_what : ∃ (model : GrammarModel ℝ) (tree : ParseTree ℝ),
    ofDefinition halvingLog trailingGrammar = .ok model ∧
      (model.parse? ["what"]).map (ParseTree.map Real.exp) = some tree ∧
      (∃ score, tree.ruleScore? (fun rule => (model.probability? rule).map halvingLog) =
        some score ∧ tree.weight = Real.exp score) ∧
      ∃ probabilities : List Float, tree.rules.map model.probability? = probabilities.map some ∧
        tree.weight = (probabilities.map fun probability => (halves probability : ℝ)).prod := by
  obtain ⟨model, built⟩ := exists_trailingModel
  obtain ⟨scores, found⟩ := exists_parse?_of_derivation (represents_of_ofDefinition built)
    scoreLaws_real halvingLog_nonpos isDerivation_what rfl rfl
  have parsed : (model.parse? ["what"]).map (ParseTree.map Real.exp) =
      some (scores.map Real.exp) := by rw [found, Option.map_some]
  obtain ⟨score, product⟩ := node_probability scoreLaws_real halvingLog_nonpos built Real.exp parsed
    _ (ParseTree.mem_preorder_self _)
  exact ⟨model, _, built, parsed, score,
    product _ Real.exp_add fun probability _ => exp_halvingLog probability⟩

end GrammarModel

end QuestionSearch.Grammar
