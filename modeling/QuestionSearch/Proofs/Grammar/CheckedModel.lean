import Mathlib.Data.List.Forall2
import QuestionSearch.Grammar.Model

/-!
# Checked models

What the model of a definition holds (`represents_of_ofDefinition`): the rules of the definition in
order, each with its numbers and its score, and tables that list the places of exactly the rules
with some right side. All later statements about models rest on these facts and not on how a
definition is checked.
-/

namespace QuestionSearch.Grammar

variable {S : Type}

namespace Symbols

theorem mem_foldl_insert {named : List (String × SymbolId)} {ids : Std.HashMap String SymbolId}
    {name : String} {id : SymbolId}
    (found : (named.foldl (fun ids entry => ids.insert entry.1 entry.2) ids)[name]? = some id) :
    (name, id) ∈ named ∨ ids[name]? = some id := by
  induction named generalizing ids with
  | nil => exact Or.inr found
  | cons entry rest ih =>
      rcases ih found with later | earlier
      · exact Or.inl (List.mem_cons_of_mem _ later)
      · rw [Std.HashMap.getElem?_insert] at earlier
        split at earlier
        · rename_i same
          obtain rfl := Option.some.inj earlier
          exact Or.inl (by simp [← eq_of_beq same])
        · exact Or.inr earlier

/-- The number of a nonterminal is one of its places among the declared ones. -/
theorem getElem?_of_id? {definition : GrammarDefinition} {name : String} {id : SymbolId}
    (found : (ofDefinition definition).id? name = some id) :
    definition.nonterminals[id]? = some name := by
  rcases mem_foldl_insert found with member | absent
  · exact List.mem_zipIdx_iff_getElem?.mp member
  · simp at absent

theorem childId_eq_ok_iff {symbols : Symbols} {rule symbol : String} {id : SymbolId} :
    symbols.childId rule symbol = .ok id ↔
      symbols.isTerminal symbol = false ∧ symbols.id? symbol = some id := by
  rw [childId]
  by_cases terminal : symbols.isTerminal symbol = true
  · simp [terminal]
  · cases found : symbols.id? symbol with
    | none => simp [terminal]
    | some other => simp [terminal]

end Symbols

/-- What a rule of a definition becomes once its symbols are found. -/
inductive Checked (ln : Float → S) (symbols : Symbols) : RuleDefinition → WeightedRule S → Prop
  /-- A rule for a word. -/
  | word {head word : String} {probability : Float} {headId : SymbolId} :
      symbols.id? head = some headId →
      isRuleProbability probability = true →
      symbols.isNonterminal word = false →
      symbols.isTerminal word = true →
      Checked ln symbols ⟨head, [word], probability⟩
        ⟨⟨head, .terminal word⟩, probability, ln probability, headId, none⟩
  /-- A rule for two nonterminals. -/
  | pair {head left right : String} {probability : Float} {headId leftId rightId : SymbolId} :
      symbols.id? head = some headId →
      isRuleProbability probability = true →
      symbols.isTerminal left = false →
      symbols.id? left = some leftId →
      symbols.isTerminal right = false →
      symbols.id? right = some rightId →
      Checked ln symbols ⟨head, [left, right], probability⟩
        ⟨⟨head, .binary left right⟩, probability, ln probability, headId, some (leftId, rightId)⟩

/-- A right side is one declared word or two numbered nonterminals. -/
theorem cases_of_rightSide {symbols : Symbols} {rule : String} {right : List String}
    {side : RightSide} {children : Option (SymbolId × SymbolId)}
    (found : symbols.rightSide rule right = .ok (side, children)) :
    (∃ word, right = [word] ∧ side = .terminal word ∧ children = none ∧
        symbols.isNonterminal word = false ∧ symbols.isTerminal word = true) ∨
      (∃ left other leftId otherId, right = [left, other] ∧ side = .binary left other ∧
        children = some (leftId, otherId) ∧
        symbols.childId rule left = .ok leftId ∧ symbols.childId rule other = .ok otherId) := by
  match right with
  | [] => cases found
  | [word] =>
      cases nonterminal : symbols.isNonterminal word with
      | true => simp [Symbols.rightSide, nonterminal] at found
      | false =>
          cases terminal : symbols.isTerminal word with
          | false => simp [Symbols.rightSide, nonterminal, terminal] at found
          | true =>
              simp only [Symbols.rightSide, nonterminal, terminal, Bool.false_eq_true, if_false,
                if_true, Except.ok.injEq, Prod.mk.injEq] at found
              obtain ⟨rfl, rfl⟩ := found
              exact Or.inl ⟨word, rfl, rfl, rfl, nonterminal, terminal⟩
  | [left, other] =>
      cases leftFound : symbols.childId rule left with
      | error fault => simp [Symbols.rightSide, leftFound, bind, Except.bind] at found
      | ok leftId =>
          cases otherFound : symbols.childId rule other with
          | error fault =>
              simp [Symbols.rightSide, leftFound, otherFound, bind, Except.bind] at found
          | ok otherId =>
              simp only [Symbols.rightSide, leftFound, otherFound, bind, Except.bind,
                Except.ok.injEq, Prod.mk.injEq] at found
              obtain ⟨rfl, rfl⟩ := found
              exact Or.inr ⟨left, other, leftId, otherId, rfl, rfl, rfl, leftFound, otherFound⟩
  | _ :: _ :: _ :: _ => cases found

theorem checkRule_eq_ok_iff {ln : Float → S} {symbols : Symbols} {rule : RuleDefinition}
    {weighted : WeightedRule S} :
    checkRule ln symbols rule = .ok weighted ↔ Checked ln symbols rule weighted := by
  obtain ⟨head, right, probability⟩ := rule
  constructor
  · intro checked
    rw [checkRule] at checked
    cases headFound : symbols.id? head with
    | none => simp [headFound] at checked
    | some headId =>
        by_cases valid : isRuleProbability probability = true
        · simp only [headFound, valid, if_true] at checked
          generalize RuleDefinition.describe _ = described at checked
          cases sideFound : symbols.rightSide described right with
          | error fault => simp [sideFound, bind, Except.bind] at checked
          | ok sides =>
              obtain ⟨side, children⟩ := sides
              simp only [sideFound, bind, Except.bind, Except.ok.injEq] at checked
              subst checked
              rcases cases_of_rightSide sideFound with
                ⟨word, rfl, rfl, rfl, nonterminal, terminal⟩ |
                ⟨left, other, leftId, otherId, rfl, rfl, rfl, leftFound, otherFound⟩
              · exact .word headFound valid nonterminal terminal
              · obtain ⟨leftFree, leftEq⟩ := Symbols.childId_eq_ok_iff.mp leftFound
                obtain ⟨otherFree, otherEq⟩ := Symbols.childId_eq_ok_iff.mp otherFound
                exact .pair headFound valid leftFree leftEq otherFree otherEq
        · simp [headFound, valid] at checked
  · intro checked
    cases checked with
    | word headFound valid nonterminal terminal =>
        simp [checkRule, headFound, valid, Symbols.rightSide, nonterminal, terminal, bind,
          Except.bind]
    | pair headFound valid leftFree leftFound rightFree rightFound =>
        simp [checkRule, headFound, valid, Symbols.rightSide,
          Symbols.childId_eq_ok_iff.mpr ⟨leftFree, leftFound⟩,
          Symbols.childId_eq_ok_iff.mpr ⟨rightFree, rightFound⟩, bind, Except.bind]

/-- Checking rules in order adds the checked ones to those before. -/
theorem foldlM_addRule {ln : Float → S} {symbols : Symbols} {definitions : List RuleDefinition}
    {before rules : Array (WeightedRule S)}
    (checked : definitions.foldlM (addRule ln symbols) before = .ok rules) :
    ∃ added, rules.toList = before.toList ++ added ∧
      List.Forall₂ (Checked ln symbols) definitions added := by
  induction definitions generalizing before with
  | nil =>
      obtain rfl := Except.ok.inj checked
      exact ⟨[], by simp, .nil⟩
  | cons definition rest ih =>
      rw [List.foldlM_cons] at checked
      cases ruleFound : checkRule ln symbols definition with
      | error fault => simp [addRule, ruleFound, bind, Except.bind] at checked
      | ok weighted =>
          by_cases duplicate : before.any (fun earlier => earlier.rule = weighted.rule) = true
          · simp only [addRule, ruleFound, duplicate, bind, Except.bind, if_true] at checked
            cases checked
          · simp only [addRule, ruleFound, duplicate, bind, Except.bind] at checked
            obtain ⟨added, addedEq, allChecked⟩ := ih checked
            refine ⟨weighted :: added, ?_, .cons (checkRule_eq_ok_iff.mp ruleFound) allChecked⟩
            rw [addedEq, Array.toList_push, List.append_assoc, List.singleton_append]

/-! ## Tables of rules -/

/-- Whether a rule is one for a word. -/
def WeightedRule.isFor (word : String) (weighted : WeightedRule S) : Bool :=
  weighted.rule.right = .terminal word

/-- Whether a rule is one for two nonterminals, which have numbers. -/
def WeightedRule.pair? (weighted : WeightedRule S) : Option (SymbolId × SymbolId) :=
  match weighted.rule.right with
  | .terminal _ => none
  | .binary _ _ => weighted.children

/-- The places of the rules that pass a test, in order. -/
def placesOf (rules : List (WeightedRule S × RuleIndex)) (test : WeightedRule S → Bool) :
    List RuleIndex :=
  (rules.filter fun indexed => test indexed.1).map Prod.snd

theorem Checked.pair?_eq {ln : Float → S} {symbols : Symbols} {rule : RuleDefinition}
    {weighted : WeightedRule S} (checked : Checked ln symbols rule weighted) :
    weighted.pair? = weighted.children := by
  cases checked <;> rfl

namespace RuleTables

theorem byTerminal_foldl_add (indexed : List (WeightedRule S × RuleIndex)) (tables : RuleTables)
    (word : String) :
    ((indexed.foldl add tables).byTerminal.getD word #[]).toList =
      (tables.byTerminal.getD word #[]).toList ++ placesOf indexed (·.isFor word) := by
  induction indexed generalizing tables with
  | nil => simp [placesOf]
  | cons first rest ih =>
      rw [List.foldl_cons, ih]
      obtain ⟨⟨⟨head, right⟩, probability, score, headId, children⟩, place⟩ := first
      cases right with
      | terminal other =>
          by_cases same : other = word
          · subst same
            simp [add, placesOf, WeightedRule.isFor]
          · simp [add, placesOf, WeightedRule.isFor, Std.HashMap.getD_insert, same]
      | binary left other =>
          cases children <;> simp [add, placesOf, WeightedRule.isFor]

theorem byPair_foldl_add (indexed : List (WeightedRule S × RuleIndex)) (tables : RuleTables)
    (pair : SymbolId × SymbolId) :
    ((indexed.foldl add tables).byPair.getD pair #[]).toList =
      (tables.byPair.getD pair #[]).toList ++ placesOf indexed (·.pair? = some pair) := by
  induction indexed generalizing tables with
  | nil => simp [placesOf]
  | cons first rest ih =>
      rw [List.foldl_cons, ih]
      obtain ⟨⟨⟨head, right⟩, probability, score, headId, children⟩, place⟩ := first
      cases right with
      | terminal other => simp [add, placesOf, WeightedRule.pair?]
      | binary left other =>
          cases children with
          | none => simp [add, placesOf, WeightedRule.pair?]
          | some found =>
              by_cases same : found = pair
              · subst same
                simp [add, placesOf, WeightedRule.pair?]
              · simp [add, placesOf, WeightedRule.pair?, Std.HashMap.getD_insert, same]

theorem binary_foldl_add (indexed : List (WeightedRule S × RuleIndex)) (tables : RuleTables) :
    (indexed.foldl add tables).binary.toList =
      tables.binary.toList ++ placesOf indexed (·.pair?.isSome) := by
  induction indexed generalizing tables with
  | nil => simp [placesOf]
  | cons first rest ih =>
      rw [List.foldl_cons, ih]
      obtain ⟨⟨⟨head, right⟩, probability, score, headId, children⟩, place⟩ := first
      cases right with
      | terminal other => simp [add, placesOf, WeightedRule.pair?]
      | binary left other => cases children <;> simp [add, placesOf, WeightedRule.pair?]

end RuleTables

/-- The places are in order. -/
theorem pairwise_placesOf (rules : List (WeightedRule S)) (test : WeightedRule S → Bool) :
    (placesOf rules.zipIdx test).Pairwise (· < ·) := by
  have sublist : (placesOf rules.zipIdx test).Sublist (rules.zipIdx.map Prod.snd) :=
    List.filter_sublist.map _
  rw [List.zipIdx_map_snd] at sublist
  exact (List.pairwise_lt_range' 1).sublist sublist

theorem mem_placesOf_iff {rules : Array (WeightedRule S)} {test : WeightedRule S → Bool}
    {place : RuleIndex} :
    place ∈ placesOf rules.toList.zipIdx test ↔
      ∃ weighted, rules[place]? = some weighted ∧ test weighted = true := by
  simp only [placesOf, List.mem_map, List.mem_filter, Prod.exists, exists_eq_right,
    List.mem_zipIdx_iff_getElem?, Array.getElem?_toList]

/-! ## Models of definitions -/

/-- What the model of a definition holds. -/
structure GrammarModel.Represents (model : GrammarModel S) (ln : Float → S)
    (definition : GrammarDefinition) [Add S] [LT S] [DecidableLT S] : Prop where
  /-- The symbols are those of the definition. -/
  symbols : model.symbols = .ofDefinition definition
  /-- The nonterminals are those of the definition. -/
  nonterminals : model.nonterminals = definition.nonterminals.toArray
  /-- The start symbol has its number. -/
  start : model.symbols.id? definition.start = some model.start
  /-- The rules are those of the definition. -/
  rules : List.Forall₂ (Checked ln model.symbols) definition.rules model.rules.toList
  /-- The tables are those of the rules. -/
  tables : model.tables = .ofRules model.rules
  /-- The derivations of the empty word are those that the rules give. -/
  nulls : model.nulls = .build model.symbolCount model.rules model.tables

variable [Add S] [LT S] [DecidableLT S] {ln : Float → S} {definition : GrammarDefinition}
  {model : GrammarModel S}

theorem represents_of_ofDefinition (built : GrammarModel.ofDefinition ln definition = .ok model) :
    model.Represents ln definition := by
  rw [GrammarModel.ofDefinition] at built
  cases ambiguous : definition.terminals.find? (Symbols.ofDefinition definition).isNonterminal with
  | some symbol => simp [ambiguous] at built
  | none =>
      cases startFound : (Symbols.ofDefinition definition).id? definition.start with
      | none => simp [ambiguous, startFound] at built
      | some start =>
          cases checked : definition.rules.foldlM
              (addRule ln (Symbols.ofDefinition definition)) #[] with
          | error fault =>
              simp [ambiguous, startFound, checked, bind, Except.bind] at built
          | ok rules =>
              simp only [ambiguous, startFound, checked, bind, Except.bind,
                Except.ok.injEq] at built
              subst built
              obtain ⟨added, addedEq, allChecked⟩ := foldlM_addRule checked
              have rulesEq : rules.toList = added := by simpa using addedEq
              exact ⟨rfl, rfl, startFound, rulesEq ▸ allChecked, rfl, rfl⟩

namespace GrammarModel.Represents

theorem exists_checked (represents : model.Represents ln definition) {place : RuleIndex}
    {weighted : WeightedRule S} (found : model.rules[place]? = some weighted) :
    ∃ rule ∈ definition.rules, Checked ln model.symbols rule weighted := by
  obtain ⟨lt, rfl⟩ := Array.getElem?_eq_some_iff.mp found
  have length := represents.rules.length_eq
  have defined : place < definition.rules.length := by simpa [length] using lt
  exact ⟨definition.rules[place], List.getElem_mem _,
    by simpa using represents.rules.get defined (by simpa using lt)⟩

theorem exists_rule (represents : model.Represents ln definition) {rule : RuleDefinition}
    (member : rule ∈ definition.rules) :
    ∃ (place : RuleIndex) (weighted : WeightedRule S), model.rules[place]? = some weighted ∧
      Checked ln model.symbols rule weighted := by
  obtain ⟨place, defined, rfl⟩ := List.getElem_of_mem member
  have lt : place < model.rules.toList.length := represents.rules.length_eq ▸ defined
  refine ⟨place, model.rules.toList[place], ?_, ?_⟩
  · rw [← Array.getElem?_toList, List.getElem?_eq_getElem lt]
  · simpa using represents.rules.get defined lt

theorem getElem?_nonterminals (represents : model.Represents ln definition) {name : String}
    {id : SymbolId} (found : model.symbols.id? name = some id) :
    model.nonterminals[id]? = some name := by
  rw [represents.symbols] at found
  rw [represents.nonterminals, List.getElem?_toArray]
  exact Symbols.getElem?_of_id? found

theorem symbolName_eq (represents : model.Represents ln definition) {name : String} {id : SymbolId}
    (found : model.symbols.id? name = some id) : model.symbolName id = name := by
  simp [GrammarModel.symbolName, represents.getElem?_nonterminals found]

/-- The nonterminal that a rule expands is found under its name. -/
theorem id?_head (represents : model.Represents ln definition) {place : RuleIndex}
    {weighted : WeightedRule S} (found : model.rules[place]? = some weighted) :
    model.symbols.id? (model.symbolName weighted.head) = some weighted.head := by
  obtain ⟨rule, _, checked⟩ := represents.exists_checked found
  cases checked with
  | word headFound => rwa [represents.symbolName_eq headFound]
  | pair headFound => rwa [represents.symbolName_eq headFound]

theorem id_lt (represents : model.Represents ln definition) {name : String} {id : SymbolId}
    (found : model.symbols.id? name = some id) : id < model.symbolCount := by
  obtain ⟨lt, _⟩ := Array.getElem?_eq_some_iff.mp (represents.getElem?_nonterminals found)
  exact lt

theorem head_lt (represents : model.Represents ln definition) {place : RuleIndex}
    {weighted : WeightedRule S} (found : model.rules[place]? = some weighted) :
    weighted.head < model.symbolCount := by
  obtain ⟨rule, _, checked⟩ := represents.exists_checked found
  cases checked with
  | word headFound => exact represents.id_lt headFound
  | pair headFound => exact represents.id_lt headFound

theorem children_lt (represents : model.Represents ln definition) {place : RuleIndex}
    {weighted : WeightedRule S} (found : model.rules[place]? = some weighted)
    {left right : SymbolId} (children : weighted.children = some (left, right)) :
    left < model.symbolCount ∧ right < model.symbolCount := by
  obtain ⟨rule, _, checked⟩ := represents.exists_checked found
  cases checked with
  | word => cases children
  | pair _ _ _ leftFound _ rightFound =>
      cases children
      exact ⟨represents.id_lt leftFound, represents.id_lt rightFound⟩

theorem score_eq (represents : model.Represents ln definition) {place : RuleIndex}
    {weighted : WeightedRule S} (found : model.rules[place]? = some weighted) :
    weighted.score = ln weighted.probability ∧ isRuleProbability weighted.probability = true := by
  obtain ⟨rule, _, checked⟩ := represents.exists_checked found
  cases checked with
  | word _ valid => exact ⟨rfl, valid⟩
  | pair _ valid => exact ⟨rfl, valid⟩

theorem isScore (represents : model.Represents ln definition) {IsScore : S → Prop}
    (lnScores : ∀ probability, isRuleProbability probability = true → IsScore (ln probability))
    {place : RuleIndex} {weighted : WeightedRule S} (found : model.rules[place]? = some weighted) :
    IsScore weighted.score := by
  obtain ⟨scoreEq, valid⟩ := represents.score_eq found
  exact scoreEq ▸ lnScores _ valid

/-- A rule for a word is one of the definition. -/
theorem exists_wordRule (represents : model.Represents ln definition) {place : RuleIndex}
    {weighted : WeightedRule S} (found : model.rules[place]? = some weighted) {word : String}
    (terminal : weighted.terminal? = some word) :
    ∃ probability, ⟨model.symbolName weighted.head, [word], probability⟩ ∈ definition.rules ∧
      weighted.score = ln probability := by
  obtain ⟨rule, member, checked⟩ := represents.exists_checked found
  cases checked with
  | word headFound =>
      obtain rfl := Option.some.inj terminal
      exact ⟨_, represents.symbolName_eq headFound ▸ member, rfl⟩
  | pair => cases terminal

/-- A rule for two nonterminals is one of the definition. -/
theorem exists_pairRule (represents : model.Represents ln definition) {place : RuleIndex}
    {weighted : WeightedRule S} (found : model.rules[place]? = some weighted)
    {left right : SymbolId} (children : weighted.children = some (left, right)) :
    ∃ probability,
      ⟨model.symbolName weighted.head, [model.symbolName left, model.symbolName right],
        probability⟩ ∈ definition.rules ∧
      weighted.score = ln probability := by
  obtain ⟨rule, member, checked⟩ := represents.exists_checked found
  cases checked with
  | word => cases children
  | pair headFound _ _ leftFound _ rightFound =>
      cases children
      rw [represents.symbolName_eq headFound, represents.symbolName_eq leftFound,
        represents.symbolName_eq rightFound]
      exact ⟨_, member, rfl⟩

/-- A rule is for a word if and only if it is not for two nonterminals. -/
theorem terminal?_eq_none_iff (represents : model.Represents ln definition) {place : RuleIndex}
    {weighted : WeightedRule S} (found : model.rules[place]? = some weighted) :
    weighted.terminal? = none ↔ weighted.children.isSome := by
  obtain ⟨rule, _, checked⟩ := represents.exists_checked found
  cases checked <;> simp [WeightedRule.terminal?]

theorem toList_terminalRules (represents : model.Represents ln definition) (word : String) :
    (model.terminalRules word).toList = placesOf model.rules.toList.zipIdx (·.isFor word) := by
  rw [GrammarModel.terminalRules, represents.tables, RuleTables.ofRules,
    RuleTables.byTerminal_foldl_add model.rules.toList.zipIdx .empty word, RuleTables.empty,
    Std.HashMap.getD_empty, List.nil_append]

theorem toList_pairRules (represents : model.Represents ln definition) (left right : SymbolId) :
    (model.pairRules left right).toList =
      placesOf model.rules.toList.zipIdx (·.pair? = some (left, right)) := by
  rw [GrammarModel.pairRules, represents.tables, RuleTables.ofRules,
    RuleTables.byPair_foldl_add model.rules.toList.zipIdx .empty (left, right), RuleTables.empty,
    Std.HashMap.getD_empty, List.nil_append]

theorem pairwise_terminalRules (represents : model.Represents ln definition) (word : String) :
    (model.terminalRules word).toList.Pairwise (· < ·) := by
  rw [represents.toList_terminalRules]
  exact pairwise_placesOf ..

theorem pairwise_pairRules (represents : model.Represents ln definition) (left right : SymbolId) :
    (model.pairRules left right).toList.Pairwise (· < ·) := by
  rw [represents.toList_pairRules]
  exact pairwise_placesOf ..

theorem mem_terminalRules_iff (represents : model.Represents ln definition) {word : String}
    {place : RuleIndex} :
    place ∈ model.terminalRules word ↔
      ∃ weighted, model.rules[place]? = some weighted ∧ weighted.terminal? = some word := by
  rw [← Array.mem_toList_iff, represents.toList_terminalRules, mem_placesOf_iff]
  refine exists_congr fun weighted => and_congr_right fun _ => ?_
  obtain ⟨⟨head, right⟩, probability, score, headId, children⟩ := weighted
  cases right <;> simp [WeightedRule.isFor, WeightedRule.terminal?]

theorem mem_pairRules_iff (represents : model.Represents ln definition) {left right : SymbolId}
    {place : RuleIndex} :
    place ∈ model.pairRules left right ↔
      ∃ weighted, model.rules[place]? = some weighted ∧ weighted.children = some (left, right) := by
  rw [← Array.mem_toList_iff, represents.toList_pairRules, mem_placesOf_iff]
  refine exists_congr fun weighted => and_congr_right fun found => ?_
  obtain ⟨rule, _, checked⟩ := represents.exists_checked found
  simp [checked.pair?_eq]

theorem mem_binary_iff (represents : model.Represents ln definition) {place : RuleIndex} :
    place ∈ model.tables.binary ↔
      ∃ weighted pair, model.rules[place]? = some weighted ∧ weighted.children = some pair := by
  have listed := RuleTables.binary_foldl_add model.rules.toList.zipIdx .empty
  rw [← Array.mem_toList_iff, represents.tables, RuleTables.ofRules, listed, RuleTables.empty,
    List.nil_append, mem_placesOf_iff]
  refine exists_congr fun weighted => ?_
  rw [exists_and_left]
  refine and_congr_right fun found => ?_
  obtain ⟨rule, _, checked⟩ := represents.exists_checked found
  rw [checked.pair?_eq, Option.isSome_iff_exists]

end GrammarModel.Represents

end QuestionSearch.Grammar
