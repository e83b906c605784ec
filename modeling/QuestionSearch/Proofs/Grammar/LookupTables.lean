import QuestionSearch.Proofs.Grammar.RuleProducts

/-!
# Lookup tables

A model finds rules by what they expand to, numbers by names and names by numbers, all in tables of
its own. They agree with the rules that the definition lists: what is found for a word or for two
nonterminals is what one would pick out of that list from front to back, and the model gives back
the definition as it was written (`lookups_mirror_definition`).
-/

namespace QuestionSearch.Grammar

variable {S : Type}

/-- Looking up the places of the items that pass a test gives these items. -/
theorem filterMap_placesOf (rules : List (WeightedRule S)) (test : WeightedRule S → Bool) :
    (placesOf rules.zipIdx test).filterMap (fun place => rules[place]?) = rules.filter test := by
  have found : ∀ indexed ∈ rules.zipIdx.filter (fun indexed => test indexed.1),
      rules[indexed.2]? = some indexed.1 := by
    intro indexed member
    exact List.mem_zipIdx_iff_getElem?.mp (List.mem_of_mem_filter member)
  calc
    (placesOf rules.zipIdx test).filterMap (fun place => rules[place]?) =
        (rules.zipIdx.filter fun indexed => test indexed.1).filterMap
          (fun indexed => rules[indexed.2]?) := List.filterMap_map ..
    _ = (rules.zipIdx.filter fun indexed => test indexed.1).map Prod.fst := by
      rw [List.filterMap_congr found, List.filterMap_eq_map']
    _ = (rules.zipIdx.map Prod.fst).filter test := (List.filter_map ..).symm
    _ = rules.filter test := by rw [List.zipIdx_map_fst]

/-- A name that is declared more than once has the number of its last place. -/
theorem Symbols.le_of_id? {definition : GrammarDefinition} {name : String} {id : SymbolId}
    (found : (ofDefinition definition).id? name = some id) {place : Nat}
    (declared : definition.nonterminals[place]? = some name) : place ≤ id := by
  simp only [id?, ofDefinition] at found
  generalize definition.nonterminals = names at found declared
  induction names using List.reverseRecOn generalizing id with
  | nil => simp at declared
  | append_singleton earlier last ih =>
      simp only [List.zipIdx_append, List.zipIdx_singleton, List.foldl_append, List.foldl_cons,
        List.foldl_nil, Nat.zero_add, Std.HashMap.getElem?_insert] at found
      rw [List.getElem?_append] at declared
      split at declared
      case isTrue before =>
        split at found
        · exact Option.some.inj found ▸ Nat.le_of_lt before
        · exact ih found declared
      case isFalse after =>
        obtain ⟨atLast, rfl⟩ : place - earlier.length = 0 ∧ last = name := by
          rwa [List.getElem?_singleton, Option.ite_none_right_eq_some,
            Option.some.injEq] at declared
        rw [if_pos (beq_self_eq_true last)] at found
        obtain rfl := Option.some.inj found
        omega

namespace GrammarModel

/-- Whether some rules of a model are those of a definition that pass a test, in the same order. -/
def Selects (model : GrammarModel S) (definition : GrammarDefinition)
    (found : List (WeightedRule S)) (test : RuleDefinition → Bool) : Prop :=
  found.Sublist model.rules.toList ∧
    found.map WeightedRule.definition = definition.rules.filter test

variable [Add S] [LT S] [DecidableLT S] {ln : Float → S} {definition : GrammarDefinition}
  {model : GrammarModel S}

namespace Represents

theorem checked_definition (represents : model.Represents ln definition)
    {weighted : WeightedRule S} (member : weighted ∈ model.rules.toList) :
    Checked ln model.symbols weighted.definition weighted := by
  obtain ⟨place, found⟩ := List.mem_iff_getElem?.mp member
  obtain ⟨rule, _, checked⟩ := represents.exists_checked (Array.getElem?_toList ▸ found)
  exact checked.definition_eq.symm ▸ checked

/-- A name that is declared has a number, its last place, and the name of that number is the
declared one. -/
theorem exists_id_of_declared (represents : model.Represents ln definition) {name : String}
    (declared : name ∈ definition.nonterminals) :
    ∃ id, model.symbolId? name = some id ∧ id < model.symbolCount ∧
      model.symbolName id = name ∧
      ∀ place, definition.nonterminals[place]? = some name → place ≤ id := by
  obtain ⟨id, found⟩ := Symbols.exists_id?_iff.mpr declared
  have last (place : Nat) (held : definition.nonterminals[place]? = some name) : place ≤ id :=
    Symbols.le_of_id? found held
  rw [← represents.symbols] at found
  exact ⟨id, found, represents.id_lt found, represents.symbolName_eq found, last⟩

theorem symbolId?_eq_none (represents : model.Represents ln definition) {name : String}
    (undeclared : name ∉ definition.nonterminals) : model.symbolId? name = none := by
  rw [symbolId?, represents.symbols]
  exact Symbols.id?_eq_none_iff.mpr undeclared

/-- Of two names with one number neither is a different one. -/
theorem symbolId?_inj (represents : model.Represents ln definition) {first second : String}
    {id : SymbolId} (firstFound : model.symbolId? first = some id)
    (secondFound : model.symbolId? second = some id) : first = second :=
  (represents.symbolName_eq firstFound).symm.trans (represents.symbolName_eq secondFound)

/-- If a table lists the places of the rules that pass a test, it selects the rules of the
definition that pass it. -/
theorem selects_of_listed (represents : model.Represents ln definition)
    {places : Array RuleIndex} {test : WeightedRule S → Bool} {written : RuleDefinition → Bool}
    (listed : places.toList = placesOf model.rules.toList.zipIdx test)
    (agree : ∀ rule weighted, Checked ln model.symbols rule weighted →
      test weighted = written rule) :
    model.Selects definition (model.rulesAt places) written := by
  have rulesEq : model.rulesAt places = model.rules.toList.filter test := by
    rw [rulesAt, listed, ← filterMap_placesOf]
    exact List.filterMap_congr fun place _ => Array.getElem?_toList.symm
  have passes : model.rules.toList.filter test =
      model.rules.toList.filter (written ∘ WeightedRule.definition) :=
    List.filter_congr fun _ member => agree _ _ (represents.checked_definition member)
  refine ⟨rulesEq ▸ List.filter_sublist, ?_⟩
  rw [rulesEq, passes, represents.rules_eq, List.filter_map]

theorem selects_rulesForTerminal (represents : model.Represents ln definition) (word : String) :
    model.Selects definition (model.rulesForTerminal word) fun rule => rule.right = [word] := by
  refine represents.selects_of_listed (represents.toList_terminalRules word) ?_
  intro rule weighted checked
  cases checked <;> simp [WeightedRule.isFor]

theorem selects_pairRules (represents : model.Represents ln definition) {left right : String}
    {leftId rightId : SymbolId} (leftFound : model.symbolId? left = some leftId)
    (rightFound : model.symbolId? right = some rightId) :
    model.Selects definition (model.rulesAt (model.pairRules leftId rightId)) fun rule =>
      rule.right = [left, right] := by
  refine represents.selects_of_listed (represents.toList_pairRules leftId rightId) ?_
  intro rule weighted checked
  rw [checked.pair?_eq]
  cases checked with
  | word => simp
  | pair _ _ _ ownLeftFound _ ownRightFound =>
      -- Numbers stand for one name each, so the pairs of numbers are as different as the names.
      simp only [Option.some.injEq, Prod.mk.injEq, List.cons.injEq, and_true, decide_eq_decide]
      constructor
      · rintro ⟨rfl, rfl⟩
        exact ⟨represents.symbolId?_inj ownLeftFound leftFound,
          represents.symbolId?_inj ownRightFound rightFound⟩
      · rintro ⟨rfl, rfl⟩
        exact ⟨Option.some.inj (ownLeftFound.symm.trans leftFound),
          Option.some.inj (ownRightFound.symm.trans rightFound)⟩

/-- No rule has a symbol in a pair that is not declared. -/
theorem filter_pair_eq_nil (represents : model.Represents ln definition) {left right : String}
    (undeclared : left ∉ definition.nonterminals ∨ right ∉ definition.nonterminals) :
    (definition.rules.filter fun rule => rule.right = [left, right]) = [] := by
  rw [List.filter_eq_nil_iff]
  intro rule member same
  obtain ⟨_, _, _, checked⟩ := represents.exists_rule member
  rw [represents.symbols] at checked
  have rightEq : rule.right = [left, right] := of_decide_eq_true same
  rcases checked.wellFormed.right with ⟨word, _, wordEq⟩ | ⟨first, firstMem, second, secondMem, eq⟩
  · simp [rightEq] at wordEq
  · obtain ⟨rfl, rfl⟩ : left = first ∧ right = second := by simpa [rightEq] using eq
    rcases undeclared with leftFree | rightFree
    · exact leftFree firstMem
    · exact rightFree secondMem

theorem rulesForPair_eq_nil (represents : model.Represents ln definition) {left right : String}
    (undeclared : left ∉ definition.nonterminals ∨ right ∉ definition.nonterminals) :
    model.rulesForPair left right = [] := by
  rw [rulesForPair]
  rcases undeclared with leftFree | rightFree
  · rw [represents.symbolId?_eq_none leftFree]
  · rw [represents.symbolId?_eq_none rightFree]
    cases model.symbolId? left <;> rfl

theorem selects_rulesForPair (represents : model.Represents ln definition)
    (left right : String) :
    model.Selects definition (model.rulesForPair left right) fun rule =>
      rule.right = [left, right] := by
  by_cases declared : left ∈ definition.nonterminals ∧ right ∈ definition.nonterminals
  · obtain ⟨leftId, leftFound, _⟩ := represents.exists_id_of_declared declared.1
    obtain ⟨rightId, rightFound, _⟩ := represents.exists_id_of_declared declared.2
    rw [rulesForPair, leftFound, rightFound]
    exact represents.selects_pairRules leftFound rightFound
  · rw [not_and_or] at declared
    rw [represents.rulesForPair_eq_nil declared]
    exact ⟨List.nil_sublist _, (represents.filter_pair_eq_nil declared).symm⟩

theorem selects_binary (represents : model.Represents ln definition) :
    model.Selects definition (model.rulesAt model.tables.binary) fun rule =>
      rule.right.length = 2 := by
  have listed : model.tables.binary.toList =
      placesOf model.rules.toList.zipIdx (·.pair?.isSome) := by
    rw [represents.tables, RuleTables.ofRules,
      RuleTables.binary_foldl_add model.rules.toList.zipIdx .empty, RuleTables.empty,
      List.nil_append]
  refine represents.selects_of_listed listed ?_
  intro rule weighted checked
  rw [checked.pair?_eq]
  cases checked <;> rfl

theorem definition_eq (represents : model.Represents ln definition) :
    model.definition = definition := by
  have startEq : model.startSymbol = definition.start := represents.symbolName_eq represents.start
  have nonterminalsEq : model.nonterminals.toList = definition.nonterminals := by
    rw [represents.nonterminals]
  have terminalsEq : model.symbols.terminals = definition.terminals := by
    rw [represents.symbols]
    rfl
  rw [GrammarModel.definition, startEq, nonterminalsEq, terminalsEq, ← represents.rules_eq]

/-- No table leads to a place without a rule. -/
theorem lt_of_listed (represents : model.Represents ln definition) {place : RuleIndex}
    (listed : (∃ word, place ∈ model.terminalRules word) ∨
      (∃ left right, place ∈ model.pairRules left right) ∨ place ∈ model.tables.binary) :
    place < model.rules.size := by
  have found : ∃ weighted, model.rules[place]? = some weighted := by
    rcases listed with ⟨word, member⟩ | ⟨left, right, member⟩ | member
    · obtain ⟨weighted, found, _⟩ := represents.mem_terminalRules_iff.mp member
      exact ⟨weighted, found⟩
    · obtain ⟨weighted, found, _⟩ := represents.mem_pairRules_iff.mp member
      exact ⟨weighted, found⟩
    · obtain ⟨weighted, _, found, _⟩ := represents.mem_binary_iff.mp member
      exact ⟨weighted, found⟩
  obtain ⟨weighted, found⟩ := found
  exact (Array.getElem?_eq_some_iff.mp found).1

end Represents

/-- A grammar that declares some of its symbols twice. -/
def repeatingGrammar : GrammarDefinition where
  start := "question"
  nonterminals := ["word", "question", "word"]
  terminals := ["what", "what"]
  rules := [⟨"word", ["what"], 0.5⟩, ⟨"question", ["word", "word"], 0.5⟩, ⟨"question", ["what"], 1⟩]

theorem exists_repeatingModel :
    ∃ model, ofDefinition Float.log repeatingGrammar = .ok model := by
  have half : isRuleProbability 0.5 = true := by decide
  have one : isRuleProbability 1 = true := by decide
  simp [ofDefinition, repeatingGrammar, Symbols.ofDefinition, Symbols.isNonterminal,
    Symbols.id?, Symbols.isTerminal, Symbols.childId, Symbols.rightSide, addRule, checkRule, half,
    one, pure, bind, Except.pure, Except.bind]

/-- All tables of a model describe the rules of its definition, in their order: what is found for a
word, for two nonterminals and for all such pairs, and what each rule was resolved to. Names that
are not declared have no rules, numbers and names that are declared lead to each other, and the
model gives back its definition, from which it is built again. -/
theorem lookups_mirror_definition (built : ofDefinition ln definition = .ok model) :
    (∀ word, model.Selects definition (model.rulesForTerminal word) fun rule =>
      rule.right = [word]) ∧
    (∀ left right,
      (model.Selects definition (model.rulesForPair left right) fun rule =>
        rule.right = [left, right]) ∧
      (left ∉ definition.nonterminals ∨ right ∉ definition.nonterminals →
        model.rulesForPair left right = [])) ∧
    (model.Selects definition (model.rulesAt model.tables.binary) fun rule =>
      rule.right.length = 2) ∧
    (∀ place, ((∃ word, place ∈ model.terminalRules word) ∨
        (∃ left right, place ∈ model.pairRules left right) ∨ place ∈ model.tables.binary) →
      place < model.rules.size) ∧
    (∀ weighted ∈ model.rules, Checked ln model.symbols weighted.definition weighted) ∧
    (∀ rule probability, model.probability? rule = some probability ↔
      ⟨rule.head, rule.right.symbols, probability⟩ ∈ definition.rules) ∧
    (∀ name ∈ definition.nonterminals, ∃ id, model.symbolId? name = some id ∧
      id < model.symbolCount ∧ model.symbolName id = name ∧
      ∀ place, definition.nonterminals[place]? = some name → place ≤ id) ∧
    model.definition = definition ∧ ofDefinition ln model.definition = .ok model := by
  have represents := represents_of_ofDefinition built
  have definitionEq := represents.definition_eq
  refine ⟨represents.selects_rulesForTerminal,
    fun left right => ⟨represents.selects_rulesForPair left right, represents.rulesForPair_eq_nil⟩,
    represents.selects_binary, fun place listed => represents.lt_of_listed listed,
    fun weighted member => represents.checked_definition (Array.mem_toList_iff.mpr member),
    fun rule probability => probability?_eq_some_iff built,
    fun name declared => represents.exists_id_of_declared declared, definitionEq, ?_⟩
  rw [definitionEq, built]

theorem lookups_mirror_definition_repeating : ∃ model : GrammarModel Float,
    ofDefinition Float.log repeatingGrammar = .ok model ∧
      (model.rulesForTerminal "what").map WeightedRule.definition =
        [⟨"word", ["what"], 0.5⟩, ⟨"question", ["what"], 1⟩] ∧
      (model.rulesForPair "word" "word").map WeightedRule.definition =
        [⟨"question", ["word", "word"], 0.5⟩] ∧
      model.rulesForPair "word" "verb" = [] ∧ model.symbolId? "word" = some 2 ∧
      model.definition = repeatingGrammar := by
  obtain ⟨model, built⟩ := exists_repeatingModel
  obtain ⟨words, pairs, _, _, _, _, numbers, definitionEq, _⟩ := lookups_mirror_definition built
  obtain ⟨id, found, idLt, nameEq, last⟩ := numbers "word" (by simp [repeatingGrammar])
  have countEq : model.symbolCount = 3 := by
    rw [symbolCount, (represents_of_ofDefinition built).nonterminals]
    rfl
  rw [countEq] at idLt
  have idEq : id = 2 := Nat.le_antisymm (Nat.le_of_lt_succ idLt) (last 2 rfl)
  exact ⟨model, built, (words "what").2, (pairs "word" "word").1.2,
    (pairs "word" "verb").2 (by simp [repeatingGrammar]), idEq ▸ found, definitionEq⟩

end GrammarModel

end QuestionSearch.Grammar
