import QuestionSearch.Proofs.Grammar.CheckedModel

/-!
# Well-formed definitions

A definition becomes a model if and only if it is well-formed: its two kinds of symbols are apart,
it starts with a nonterminal, and its rules are different rules in normal form with a probability
each. What is wrong with any other definition is its first fault (`ofDefinition_verdict`): symbols
come before the start symbol, the start symbol before the rules, and each rule before the next one.
-/

namespace QuestionSearch.Grammar

open QuestionSearch.Text

/-! ## Faults -/

namespace RuleDefinition

/-- Whether two rules expand the same nonterminal to the same right side. -/
def SameSides (first second : RuleDefinition) : Prop :=
  first.head = second.head ∧ first.right = second.right

/-- Whether a rule stands for one word or two nonterminals and has a probability. -/
structure WellFormed (definition : GrammarDefinition) (rule : RuleDefinition) : Prop where
  /-- A nonterminal is expanded. -/
  head : rule.head ∈ definition.nonterminals
  /-- The probability is finite, above zero and at most one. -/
  probability : rule.probability.isFinite = true ∧ 0 < rule.probability ∧ rule.probability ≤ 1
  /-- One terminal or two nonterminals stand on the right. -/
  right : (∃ word ∈ definition.terminals, rule.right = [word]) ∨
    ∃ left ∈ definition.nonterminals, ∃ right ∈ definition.nonterminals,
      rule.right = [left, right]

/-- What is wrong with a symbol where a nonterminal must stand. -/
inductive ChildFault (definition : GrammarDefinition) (rule symbol : String) : GrammarError → Prop
  | terminal : symbol ∈ definition.terminals →
      ChildFault definition rule symbol
        (.notNormalForm rule ("binary rule contains terminal " ++ quoted symbol))
  | undeclared : symbol ∉ definition.terminals → symbol ∉ definition.nonterminals →
      ChildFault definition rule symbol (.unknownNonterminal rule symbol)

/-- What is wrong with a right side, read from the left. -/
inductive RightFault (definition : GrammarDefinition) (rule : String) :
    List String → GrammarError → Prop
  | nonterminal {symbol : String} : symbol ∈ definition.nonterminals →
      RightFault definition rule [symbol]
        (.notNormalForm rule "unary rule rewrites to a nonterminal")
  | undeclared {symbol : String} : symbol ∉ definition.nonterminals →
      symbol ∉ definition.terminals →
      RightFault definition rule [symbol] (.unknownTerminal rule symbol)
  | left {left right : String} {fault : GrammarError} : ChildFault definition rule left fault →
      RightFault definition rule [left, right] fault
  | right {left right : String} {fault : GrammarError} : left ∈ definition.nonterminals →
      ChildFault definition rule right fault →
      RightFault definition rule [left, right] fault
  | length {symbols : List String} : symbols.length ≠ 1 → symbols.length ≠ 2 →
      RightFault definition rule symbols
        (.notNormalForm rule (toString symbols.length ++ " right-hand symbols, expected 1 or 2"))

/-- What is wrong with a rule by itself: first its head, then its probability, then its right
side. -/
inductive Fault (definition : GrammarDefinition) (rule : RuleDefinition) : GrammarError → Prop
  | head : rule.head ∉ definition.nonterminals →
      Fault definition rule (.unknownNonterminal rule.describe rule.head)
  | probability : rule.head ∈ definition.nonterminals →
      ¬ (rule.probability.isFinite = true ∧ 0 < rule.probability ∧ rule.probability ≤ 1) →
      Fault definition rule (.invalidProbability rule.describe rule.probability)
  | right {fault : GrammarError} : rule.head ∈ definition.nonterminals →
      rule.probability.isFinite = true ∧ 0 < rule.probability ∧ rule.probability ≤ 1 →
      RightFault definition rule.describe rule.right fault →
      Fault definition rule fault

/-- What is wrong with a rule that stands among earlier ones already. -/
inductive Repeated (earlier : List RuleDefinition) (rule : RuleDefinition) : GrammarError → Prop
  | word {word : String} : rule.right = [word] → (∃ other ∈ earlier, other.SameSides rule) →
      Repeated earlier rule (.duplicateRule (Rule.terminal rule.head word).display)
  | pair {left right : String} : rule.right = [left, right] →
      (∃ other ∈ earlier, other.SameSides rule) →
      Repeated earlier rule (.duplicateRule (Rule.binary rule.head left right).display)

/-- What is wrong with a rule after earlier ones: what is wrong with it by itself, or else that it
is one of them. -/
def FaultAfter (definition : GrammarDefinition) (earlier : List RuleDefinition)
    (rule : RuleDefinition) (fault : GrammarError) : Prop :=
  rule.Fault definition fault ∨ rule.WellFormed definition ∧ rule.Repeated earlier fault

end RuleDefinition

namespace GrammarDefinition

/-- Whether no symbol is declared both as a terminal and as a nonterminal. -/
def SymbolsApart (definition : GrammarDefinition) : Prop :=
  ∀ symbol ∈ definition.terminals, symbol ∉ definition.nonterminals

/-- Whether some rules are well-formed and all different. -/
structure SoundRules (definition : GrammarDefinition) (rules : List RuleDefinition) : Prop where
  /-- Each of them is well-formed. -/
  each : ∀ rule ∈ rules, rule.WellFormed definition
  /-- None of them stands there twice. -/
  distinct : rules.Pairwise fun earlier later => ¬ earlier.SameSides later

/-- Whether a definition is one of a grammar in normal form. -/
structure WellFormed (definition : GrammarDefinition) : Prop where
  /-- No symbol is declared both ways. -/
  apart : definition.SymbolsApart
  /-- The start symbol is a nonterminal. -/
  start : definition.start ∈ definition.nonterminals
  /-- The rules are well-formed and different. -/
  rules : definition.SoundRules definition.rules

/-- What is wrong with a definition: everything that comes before it is as it should be. -/
inductive FirstFault (definition : GrammarDefinition) : GrammarError → Prop
  | ambiguous {before after : List String} {symbol : String} :
      definition.terminals = before ++ symbol :: after →
      (∀ other ∈ before, other ∉ definition.nonterminals) →
      symbol ∈ definition.nonterminals →
      FirstFault definition (.ambiguousSymbol symbol)
  | start : definition.SymbolsApart → definition.start ∉ definition.nonterminals →
      FirstFault definition (.unknownStartSymbol definition.start)
  | rule {before after : List RuleDefinition} {rule : RuleDefinition} {fault : GrammarError} :
      definition.SymbolsApart → definition.start ∈ definition.nonterminals →
      definition.rules = before ++ rule :: after →
      definition.SoundRules before →
      rule.FaultAfter definition before fault →
      FirstFault definition fault

end GrammarDefinition

/-! ## Symbols -/

namespace Symbols

variable {definition : GrammarDefinition}

theorem contains_foldl_insert (named : List (String × SymbolId))
    (ids : Std.HashMap String SymbolId) (name : String) :
    (named.foldl (fun ids entry => ids.insert entry.1 entry.2) ids).contains name = true ↔
      name ∈ named.map Prod.fst ∨ ids.contains name = true := by
  induction named generalizing ids with
  | nil => simp
  | cons entry rest ih =>
      rw [List.foldl_cons, ih, Std.HashMap.contains_insert, List.map_cons, List.mem_cons,
        Bool.or_eq_true, beq_iff_eq]
      constructor
      · rintro (later | rfl | earlier)
        · exact Or.inl (Or.inr later)
        · exact Or.inl (Or.inl rfl)
        · exact Or.inr earlier
      · rintro ((rfl | later) | earlier)
        · exact Or.inr (Or.inl rfl)
        · exact Or.inl later
        · exact Or.inr (Or.inr earlier)

/-- The symbols declared as nonterminals, once or more often, are those that have a number. -/
theorem isNonterminal_iff {name : String} :
    (ofDefinition definition).isNonterminal name = true ↔ name ∈ definition.nonterminals := by
  have numbered := contains_foldl_insert definition.nonterminals.zipIdx ∅ name
  rw [List.zipIdx_map_fst] at numbered
  simpa [isNonterminal, ofDefinition] using numbered

theorem isTerminal_iff {name : String} :
    (ofDefinition definition).isTerminal name = true ↔ name ∈ definition.terminals :=
  List.contains_iff_mem

theorem exists_id?_iff {name : String} :
    (∃ id, (ofDefinition definition).id? name = some id) ↔ name ∈ definition.nonterminals := by
  rw [← Option.isSome_iff_exists, ← isNonterminal_iff, id?, isNonterminal,
    Std.HashMap.isSome_getElem?_eq_contains]

theorem id?_eq_none_iff {name : String} :
    (ofDefinition definition).id? name = none ↔ name ∉ definition.nonterminals := by
  rw [← exists_id?_iff, ← Option.isSome_iff_exists, Bool.not_eq_true, Option.isSome_eq_false_iff,
    Option.isNone_iff_eq_none]

theorem childId_eq_error_iff {rule symbol : String} {fault : GrammarError} :
    (ofDefinition definition).childId rule symbol = .error fault ↔
      RuleDefinition.ChildFault definition rule symbol fault := by
  constructor
  · intro failed
    rw [childId] at failed
    split at failed
    · rename_i terminal
      obtain rfl := Except.error.inj failed
      exact .terminal (isTerminal_iff.mp terminal)
    · rename_i notTerminal
      split at failed
      · rename_i missing
        obtain rfl := Except.error.inj failed
        exact .undeclared (fun declared => notTerminal (isTerminal_iff.mpr declared))
          (id?_eq_none_iff.mp missing)
      · cases failed
  · rintro (terminal | ⟨notTerminal, undeclared⟩)
    · rw [childId, if_pos (isTerminal_iff.mpr terminal)]
    · rw [childId, if_neg (fun terminal => notTerminal (isTerminal_iff.mp terminal)),
        id?_eq_none_iff.mpr undeclared]

/-- If no symbol is declared both ways, the nonterminals are what may stand in a pair. -/
theorem exists_childId_iff (rule : String) (apart : definition.SymbolsApart) {symbol : String} :
    (∃ id, (ofDefinition definition).childId rule symbol = .ok id) ↔
      symbol ∈ definition.nonterminals := by
  rw [← exists_id?_iff]
  refine exists_congr fun id => ?_
  rw [childId_eq_ok_iff, and_iff_right_iff_imp]
  intro found
  rw [← Bool.not_eq_true, isTerminal_iff]
  exact fun terminal => apart symbol terminal (exists_id?_iff.mp ⟨id, found⟩)

theorem rightSide_eq_error_iff (apart : definition.SymbolsApart)
    {rule : String} {right : List String} {fault : GrammarError} :
    (ofDefinition definition).rightSide rule right = .error fault ↔
      RuleDefinition.RightFault definition rule right fault := by
  constructor
  · intro failed
    rcases right with _ | ⟨first, _ | ⟨second, _ | ⟨third, rest⟩⟩⟩
    · obtain rfl := Except.error.inj failed
      exact .length (by simp) (by simp)
    · rw [rightSide] at failed
      split at failed
      · rename_i nonterminal
        obtain rfl := Except.error.inj failed
        exact .nonterminal (isNonterminal_iff.mp nonterminal)
      · rename_i notNonterminal
        split at failed
        · cases failed
        · rename_i notTerminal
          obtain rfl := Except.error.inj failed
          exact .undeclared (fun declared => notNonterminal (isNonterminal_iff.mpr declared))
            (fun declared => notTerminal (isTerminal_iff.mpr declared))
    · cases leftFound : (ofDefinition definition).childId rule first with
      | error leftFault =>
          simp only [rightSide, leftFound, bind, Except.bind, Except.error.injEq] at failed
          subst failed
          exact .left (childId_eq_error_iff.mp leftFound)
      | ok leftId =>
          cases otherFound : (ofDefinition definition).childId rule second with
          | error otherFault =>
              simp only [rightSide, leftFound, otherFound, bind, Except.bind,
                Except.error.injEq] at failed
              subst failed
              exact .right ((exists_childId_iff rule apart).mp ⟨leftId, leftFound⟩)
                (childId_eq_error_iff.mp otherFound)
          | ok otherId => simp [rightSide, leftFound, otherFound, bind, Except.bind] at failed
    · obtain rfl := Except.error.inj failed
      exact .length (by simp) (by simp)
  · intro wrong
    cases wrong with
    | nonterminal declared => rw [rightSide, if_pos (isNonterminal_iff.mpr declared)]
    | undeclared notNonterminal notTerminal =>
        rw [rightSide, if_neg fun declared => notNonterminal (isNonterminal_iff.mp declared),
          if_neg fun declared => notTerminal (isTerminal_iff.mp declared)]
    | left leftWrong =>
        simp only [rightSide, childId_eq_error_iff.mpr leftWrong, bind, Except.bind]
    | right declared otherWrong =>
        obtain ⟨leftId, leftFound⟩ := (exists_childId_iff rule apart).mpr declared
        simp only [rightSide, leftFound, childId_eq_error_iff.mpr otherWrong, bind, Except.bind]
    | length notOne notTwo =>
        rcases right with _ | ⟨first, _ | ⟨second, _ | ⟨third, rest⟩⟩⟩
        · rfl
        · exact absurd rfl notOne
        · exact absurd rfl notTwo
        · rfl

end Symbols

/-! ## Rules -/

variable {S : Type} {ln : Float → S} {definition : GrammarDefinition}

theorem isRuleProbability_iff {probability : Float} :
    isRuleProbability probability = true ↔
      probability.isFinite = true ∧ 0 < probability ∧ probability ≤ 1 := by
  simp [isRuleProbability, and_assoc]

theorem Checked.wellFormed {rule : RuleDefinition} {weighted : WeightedRule S}
    (checked : Checked ln (.ofDefinition definition) rule weighted) :
    rule.WellFormed definition := by
  cases checked with
  | word headFound valid _ terminal =>
      exact ⟨Symbols.exists_id?_iff.mp ⟨_, headFound⟩, isRuleProbability_iff.mp valid,
        Or.inl ⟨_, Symbols.isTerminal_iff.mp terminal, rfl⟩⟩
  | pair headFound valid _ leftFound _ rightFound =>
      exact ⟨Symbols.exists_id?_iff.mp ⟨_, headFound⟩, isRuleProbability_iff.mp valid,
        Or.inr ⟨_, Symbols.exists_id?_iff.mp ⟨_, leftFound⟩, _,
          Symbols.exists_id?_iff.mp ⟨_, rightFound⟩, rfl⟩⟩

theorem RuleDefinition.WellFormed.exists_checked (ln : Float → S) (apart : definition.SymbolsApart)
    {rule : RuleDefinition} (wellFormed : rule.WellFormed definition) :
    ∃ weighted : WeightedRule S, Checked ln (.ofDefinition definition) rule weighted := by
  obtain ⟨head, right, probability⟩ := rule
  obtain ⟨headId, headFound⟩ := Symbols.exists_id?_iff.mpr wellFormed.head
  have valid := isRuleProbability_iff.mpr wellFormed.probability
  rcases wellFormed.right with ⟨word, terminal, rfl⟩ | ⟨left, leftMem, other, otherMem, rfl⟩
  · have free : (Symbols.ofDefinition definition).isNonterminal word = false := by
      rw [← Bool.not_eq_true, Symbols.isNonterminal_iff]
      exact apart word terminal
    exact ⟨_, .word headFound valid free (Symbols.isTerminal_iff.mpr terminal)⟩
  · have free {symbol : String} (declared : symbol ∈ definition.nonterminals) :
        (Symbols.ofDefinition definition).isTerminal symbol = false := by
      rw [← Bool.not_eq_true, Symbols.isTerminal_iff]
      exact fun terminal => apart symbol terminal declared
    obtain ⟨leftId, leftFound⟩ := Symbols.exists_id?_iff.mpr leftMem
    obtain ⟨otherId, otherFound⟩ := Symbols.exists_id?_iff.mpr otherMem
    exact ⟨_, .pair headFound valid (free leftMem) leftFound (free otherMem) otherFound⟩

/-- Checked rules are the same if and only if they were written with the same sides. -/
theorem Checked.rule_eq_iff {symbols : Symbols} {first second : RuleDefinition}
    {firstWeighted secondWeighted : WeightedRule S}
    (firstChecked : Checked ln symbols first firstWeighted)
    (secondChecked : Checked ln symbols second secondWeighted) :
    firstWeighted.rule = secondWeighted.rule ↔ first.SameSides second := by
  cases firstChecked <;> cases secondChecked <;> simp [RuleDefinition.SameSides]

/-- A checked rule stands among earlier ones under the name that it is shown by. -/
theorem Checked.repeated_iff {symbols : Symbols} {earlier : List RuleDefinition}
    {rule : RuleDefinition} {weighted : WeightedRule S} {fault : GrammarError}
    (checked : Checked ln symbols rule weighted) :
    rule.Repeated earlier fault ↔
      (∃ other ∈ earlier, other.SameSides rule) ∧
        fault = .duplicateRule weighted.rule.display := by
  constructor
  · intro repeated
    cases checked with
    | word =>
        cases repeated with
        | word rightEq again =>
            cases rightEq
            exact ⟨again, rfl⟩
        | pair rightEq => cases rightEq
    | pair =>
        cases repeated with
        | word rightEq => cases rightEq
        | pair rightEq again =>
            cases rightEq
            exact ⟨again, rfl⟩
  · rintro ⟨again, rfl⟩
    cases checked with
    | word => exact .word rfl again
    | pair => exact .pair rfl again

theorem checkRule_eq_error_iff (apart : definition.SymbolsApart)
    {rule : RuleDefinition} {fault : GrammarError} :
    checkRule ln (.ofDefinition definition) rule = .error fault ↔ rule.Fault definition fault := by
  constructor
  · intro failed
    rw [checkRule] at failed
    split at failed
    · rename_i missing
      obtain rfl := Except.error.inj failed
      exact .head (Symbols.id?_eq_none_iff.mp missing)
    · rename_i headId headFound
      have declared := Symbols.exists_id?_iff.mp ⟨headId, headFound⟩
      split at failed
      · rename_i valid
        cases sideFound :
            (Symbols.ofDefinition definition).rightSide rule.describe rule.right with
        | error sideFault =>
            simp only [sideFound, bind, Except.bind, Except.error.injEq] at failed
            subst failed
            exact .right declared (isRuleProbability_iff.mp valid)
              ((Symbols.rightSide_eq_error_iff apart).mp sideFound)
        | ok sides => simp [sideFound, bind, Except.bind] at failed
      · rename_i invalid
        obtain rfl := Except.error.inj failed
        exact .probability declared fun valid => invalid (isRuleProbability_iff.mpr valid)
  · intro wrong
    cases wrong with
    | head undeclared => rw [checkRule, Symbols.id?_eq_none_iff.mpr undeclared]
    | probability declared invalid =>
        obtain ⟨headId, headFound⟩ := Symbols.exists_id?_iff.mpr declared
        simp only [checkRule, headFound]
        rw [if_neg fun valid => invalid (isRuleProbability_iff.mp valid)]
    | right declared valid sideWrong =>
        obtain ⟨headId, headFound⟩ := Symbols.exists_id?_iff.mpr declared
        simp only [checkRule, headFound, (Symbols.rightSide_eq_error_iff apart).mpr sideWrong,
          bind, Except.bind]
        rw [if_pos (isRuleProbability_iff.mpr valid)]

/-! ## Lists of rules -/

section Lists

variable {earlier : List RuleDefinition} {checked : Array (WeightedRule S)}

/-- A rule is among the checked ones if and only if one was written with its sides. -/
theorem any_rule_eq_iff
    (kept : List.Forall₂ (Checked ln (.ofDefinition definition)) earlier checked.toList)
    {rule : RuleDefinition} {weighted : WeightedRule S}
    (ruleChecked : Checked ln (.ofDefinition definition) rule weighted) :
    checked.any (fun other => other.rule = weighted.rule) = true ↔
      ∃ other ∈ earlier, other.SameSides rule := by
  rw [← Array.any_toList]
  generalize checked.toList = others at kept
  induction kept with
  | nil => simp
  | cons otherChecked _ ih =>
      rw [List.any_cons, Bool.or_eq_true, ih, decide_eq_true_iff,
        otherChecked.rule_eq_iff ruleChecked]
      simp

theorem addRule_eq_error_iff (apart : definition.SymbolsApart)
    (kept : List.Forall₂ (Checked ln (.ofDefinition definition)) earlier checked.toList)
    {rule : RuleDefinition} {fault : GrammarError} :
    addRule ln (.ofDefinition definition) checked rule = .error fault ↔
      rule.FaultAfter definition earlier fault := by
  cases found : checkRule ln (.ofDefinition definition) rule with
  | error ruleFault =>
      have wrong := (checkRule_eq_error_iff apart).mp found
      have notWellFormed : ¬ rule.WellFormed definition := by
        intro wellFormed
        obtain ⟨weighted, ruleChecked⟩ := wellFormed.exists_checked ln apart
        rw [checkRule_eq_ok_iff.mpr ruleChecked] at found
        cases found
      simp only [addRule, found, bind, Except.bind, Except.error.injEq]
      constructor
      · rintro rfl
        exact Or.inl wrong
      · rintro (alone | ⟨wellFormed, _⟩)
        · exact Except.error.inj (found.symm.trans ((checkRule_eq_error_iff apart).mpr alone))
        · exact absurd wellFormed notWellFormed
  | ok weighted =>
      have ruleChecked := checkRule_eq_ok_iff.mp found
      have sound : ¬ rule.Fault definition fault := by
        intro wrong
        rw [(checkRule_eq_error_iff apart).mpr wrong] at found
        cases found
      rw [RuleDefinition.FaultAfter, ruleChecked.repeated_iff, ← any_rule_eq_iff kept ruleChecked]
      simp only [addRule, found, bind, Except.bind, sound, ruleChecked.wellFormed, false_or,
        true_and]
      by_cases again : checked.any (fun other => other.rule = weighted.rule) = true
      · simp only [again, if_true, Except.error.injEq, true_and]
        exact eq_comm
      · simp only [again, Bool.false_eq_true, if_false, false_and, iff_false]
        rintro ⟨⟩

/-- A rule is added if and only if it is well-formed and new. -/
theorem exists_addRule_iff (apart : definition.SymbolsApart)
    (kept : List.Forall₂ (Checked ln (.ofDefinition definition)) earlier checked.toList)
    {rule : RuleDefinition} :
    (∃ next, addRule ln (.ofDefinition definition) checked rule = .ok next) ↔
      rule.WellFormed definition ∧ ∀ other ∈ earlier, ¬ other.SameSides rule := by
  constructor
  · rintro ⟨next, added⟩
    cases found : checkRule ln (.ofDefinition definition) rule with
    | error fault => simp [addRule, found, bind, Except.bind] at added
    | ok weighted =>
        have ruleChecked := checkRule_eq_ok_iff.mp found
        refine ⟨ruleChecked.wellFormed, fun other member same => ?_⟩
        have again := (any_rule_eq_iff kept ruleChecked).mpr ⟨other, member, same⟩
        simp [addRule, found, again, bind, Except.bind] at added
  · rintro ⟨wellFormed, new⟩
    obtain ⟨weighted, ruleChecked⟩ := wellFormed.exists_checked ln apart
    have unique : ¬ checked.any (fun other => other.rule = weighted.rule) = true := by
      rw [any_rule_eq_iff kept ruleChecked]
      rintro ⟨other, member, same⟩
      exact new other member same
    refine ⟨checked.push weighted, ?_⟩
    simp only [addRule, checkRule_eq_ok_iff.mpr ruleChecked, bind, Except.bind, unique,
      Bool.false_eq_true, if_false]

theorem GrammarDefinition.soundRules_concat_iff {rule : RuleDefinition} :
    definition.SoundRules (earlier ++ [rule]) ↔
      definition.SoundRules earlier ∧ rule.WellFormed definition ∧
        ∀ other ∈ earlier, ¬ other.SameSides rule := by
  constructor
  · intro sound
    obtain ⟨distinct, _, new⟩ := List.pairwise_append.mp sound.distinct
    exact ⟨⟨fun other member => sound.each other (List.mem_append_left _ member), distinct⟩,
      sound.each rule (List.mem_append_right _ (List.mem_singleton_self rule)),
      fun other member => new other member rule (List.mem_singleton_self rule)⟩
  · rintro ⟨sound, wellFormed, new⟩
    refine ⟨fun other member => ?_, ?_⟩
    · rcases List.mem_append.mp member with before | last
      · exact sound.each other before
      · obtain rfl := List.mem_singleton.mp last
        exact wellFormed
    · refine List.pairwise_append.mpr ⟨sound.distinct, List.pairwise_singleton _ _, ?_⟩
      intro other member last lastMem
      obtain rfl := List.mem_singleton.mp lastMem
      exact new other member

/-- A rule that is added leaves the rules sound and checked. -/
theorem sound_of_addRule (apart : definition.SymbolsApart)
    (kept : List.Forall₂ (Checked ln (.ofDefinition definition)) earlier checked.toList)
    (sound : definition.SoundRules earlier) {rule : RuleDefinition}
    {next : Array (WeightedRule S)}
    (added : addRule ln (.ofDefinition definition) checked rule = .ok next) :
    definition.SoundRules (earlier ++ [rule]) ∧
      List.Forall₂ (Checked ln (.ofDefinition definition)) (earlier ++ [rule]) next.toList := by
  have folded : [rule].foldlM (addRule ln (.ofDefinition definition)) checked = .ok next := by
    rw [List.foldlM_cons, added]
    rfl
  obtain ⟨last, lastEq, lastChecked⟩ := foldlM_addRule folded
  refine ⟨?_, lastEq ▸ List.rel_append kept lastChecked⟩
  exact GrammarDefinition.soundRules_concat_iff.mpr
    ⟨sound, (exists_addRule_iff apart kept).mp ⟨next, added⟩⟩

/-- All rules of a list are added if and only if they are sound together with those before. -/
theorem exists_foldlM_addRule_iff (apart : definition.SymbolsApart)
    (kept : List.Forall₂ (Checked ln (.ofDefinition definition)) earlier checked.toList)
    (sound : definition.SoundRules earlier) {later : List RuleDefinition} :
    (∃ rules, later.foldlM (addRule ln (.ofDefinition definition)) checked = .ok rules) ↔
      definition.SoundRules (earlier ++ later) := by
  induction later generalizing earlier checked with
  | nil => simpa [pure, Except.pure] using sound
  | cons rule rest ih =>
      rw [List.foldlM_cons, List.append_cons]
      cases added : addRule ln (.ofDefinition definition) checked rule with
      | error fault =>
          simp only [bind, Except.bind, reduceCtorEq, exists_false, false_iff]
          intro whole
          have first : definition.SoundRules (earlier ++ [rule]) :=
            ⟨fun other member => whole.each other (List.mem_append_left _ member),
              (List.pairwise_append.mp whole.distinct).1⟩
          obtain ⟨_, fine⟩ := GrammarDefinition.soundRules_concat_iff.mp first
          obtain ⟨next, addedToo⟩ := (exists_addRule_iff apart kept).mpr fine
          rw [added] at addedToo
          cases addedToo
      | ok next =>
          obtain ⟨nextSound, nextKept⟩ := sound_of_addRule apart kept sound added
          exact ih nextKept nextSound

/-- A place in a list is its front or a place in the rest. -/
theorem exists_split_cons_iff {α : Type} {property : List α → α → Prop} {first : α}
    {rest : List α} :
    (∃ before item after, first :: rest = before ++ item :: after ∧ property before item) ↔
      property [] first ∨
        ∃ before item after, rest = before ++ item :: after ∧ property (first :: before) item := by
  constructor
  · rintro ⟨before, item, after, split, holds⟩
    cases before with
    | nil =>
        obtain ⟨rfl, -⟩ := List.cons.inj split
        exact Or.inl holds
    | cons head before =>
        obtain ⟨rfl, restEq⟩ := List.cons.inj split
        exact Or.inr ⟨before, item, after, restEq, holds⟩
  · rintro (holds | ⟨before, item, after, rfl, holds⟩)
    · exact ⟨[], first, rest, rfl, holds⟩
    · exact ⟨first :: before, item, after, rfl, holds⟩

/-- Adding a list of rules fails at the first rule that is at fault. -/
theorem foldlM_addRule_eq_error_iff (apart : definition.SymbolsApart)
    (kept : List.Forall₂ (Checked ln (.ofDefinition definition)) earlier checked.toList)
    (sound : definition.SoundRules earlier) {later : List RuleDefinition} {fault : GrammarError} :
    later.foldlM (addRule ln (.ofDefinition definition)) checked = .error fault ↔
      ∃ before rule after, later = before ++ rule :: after ∧
        definition.SoundRules (earlier ++ before) ∧
        rule.FaultAfter definition (earlier ++ before) fault := by
  induction later generalizing earlier checked with
  | nil => simp [pure, Except.pure]
  | cons rule rest ih =>
      have atFront : definition.SoundRules (earlier ++ []) ∧
          rule.FaultAfter definition (earlier ++ []) fault ↔
            addRule ln (.ofDefinition definition) checked rule = .error fault := by
        rw [List.append_nil, and_iff_right sound, addRule_eq_error_iff apart kept]
      rw [exists_split_cons_iff, atFront, List.foldlM_cons]
      cases added : addRule ln (.ofDefinition definition) checked rule with
      | error ruleFault =>
          have notLater : ¬ ∃ before item after, rest = before ++ item :: after ∧
              definition.SoundRules (earlier ++ rule :: before) ∧
              item.FaultAfter definition (earlier ++ rule :: before) fault := by
            rintro ⟨before, _, _, _, beforeSound, _⟩
            -- The first rule is sound after the earlier ones, so it would have been added.
            have all : ∃ rules,
                (rule :: before).foldlM (addRule ln (.ofDefinition definition)) checked =
                  .ok rules :=
              (exists_foldlM_addRule_iff apart kept sound).mpr beforeSound
            obtain ⟨rules, folded⟩ := all
            rw [List.foldlM_cons, added] at folded
            cases folded
          rw [or_iff_left notLater]
          rfl
      | ok next =>
          obtain ⟨nextSound, nextKept⟩ := sound_of_addRule apart kept sound added
          simpa only [bind, Except.bind, reduceCtorEq, false_or, List.append_assoc,
            List.singleton_append] using ih nextKept nextSound

end Lists

/-! ## Definitions -/

/-- The symbol that is reported as declared both ways is the first one. -/
theorem find?_isNonterminal_eq_some_iff {symbol : String} :
    definition.terminals.find? (Symbols.ofDefinition definition).isNonterminal = some symbol ↔
      symbol ∈ definition.nonterminals ∧
        ∃ before after, definition.terminals = before ++ symbol :: after ∧
          ∀ other ∈ before, other ∉ definition.nonterminals := by
  simp only [List.find?_eq_some_iff_append, Symbols.isNonterminal_iff, Bool.not_eq_true',
    ← Bool.not_eq_true]

theorem find?_isNonterminal_eq_none_iff :
    definition.terminals.find? (Symbols.ofDefinition definition).isNonterminal = none ↔
      definition.SymbolsApart := by
  simp only [List.find?_eq_none, Symbols.isNonterminal_iff, GrammarDefinition.SymbolsApart]

namespace GrammarDefinition.FirstFault

variable {fault : GrammarError}

/-- If a symbol is declared both ways, the first such symbol is the fault. -/
theorem iff_ambiguous {symbol : String}
    (found : definition.terminals.find? (Symbols.ofDefinition definition).isNonterminal =
      some symbol) :
    definition.FirstFault fault ↔ fault = .ambiguousSymbol symbol := by
  obtain ⟨declared, before, after, split, free⟩ := find?_isNonterminal_eq_some_iff.mp found
  have notApart : ¬ definition.SymbolsApart := by
    rw [← find?_isNonterminal_eq_none_iff, found]
    rintro ⟨⟩
  constructor
  · intro first
    cases first with
    | ambiguous otherSplit otherFree otherDeclared =>
        have same := find?_isNonterminal_eq_some_iff.mpr
          ⟨otherDeclared, _, _, otherSplit, otherFree⟩
        rw [Option.some.inj (found.symm.trans same)]
    | start apart => exact absurd apart notApart
    | rule apart => exact absurd apart notApart
  · rintro rfl
    exact .ambiguous split free declared

theorem not_ambiguous (apart : definition.SymbolsApart)
    {before after : List String} {symbol : String}
    (split : definition.terminals = before ++ symbol :: after) :
    symbol ∉ definition.nonterminals :=
  apart symbol (split ▸ List.mem_append_right _ List.mem_cons_self)

theorem iff_unknownStart (apart : definition.SymbolsApart)
    (undeclared : definition.start ∉ definition.nonterminals) :
    definition.FirstFault fault ↔ fault = .unknownStartSymbol definition.start := by
  constructor
  · intro first
    cases first with
    | ambiguous split _ declared => exact absurd declared (not_ambiguous apart split)
    | start => rfl
    | rule _ declared => exact absurd declared undeclared
  · rintro rfl
    exact .start apart undeclared

/-- If the symbols are as they should be, the fault is that of a rule after sound ones. -/
theorem iff_rule (apart : definition.SymbolsApart)
    (declared : definition.start ∈ definition.nonterminals) :
    definition.FirstFault fault ↔
      ∃ before rule after, definition.rules = before ++ rule :: after ∧
        definition.SoundRules before ∧ rule.FaultAfter definition before fault := by
  constructor
  · intro first
    cases first with
    | ambiguous split _ twice => exact absurd twice (not_ambiguous apart split)
    | start _ undeclared => exact absurd declared undeclared
    | rule _ _ split sound wrong => exact ⟨_, _, _, split, sound, wrong⟩
  · rintro ⟨before, rule, after, split, sound, wrong⟩
    exact .rule apart declared split sound wrong

end GrammarDefinition.FirstFault

namespace GrammarModel

variable [Add S] [LT S] [DecidableLT S]

/-- Once the symbols are apart and the start symbol is found, the rules decide. -/
theorem ofDefinition_of_start (ln : Float → S) (apart : definition.SymbolsApart)
    (declared : definition.start ∈ definition.nonterminals) :
    ((∃ model, ofDefinition ln definition = .ok model) ↔
        ∃ rules, definition.rules.foldlM (addRule ln (.ofDefinition definition)) #[] =
          .ok rules) ∧
      ∀ fault, ofDefinition ln definition = .error fault ↔
        definition.rules.foldlM (addRule ln (.ofDefinition definition)) #[] = .error fault := by
  obtain ⟨start, startFound⟩ := Symbols.exists_id?_iff.mpr declared
  rw [ofDefinition, find?_isNonterminal_eq_none_iff.mpr apart, startFound]
  cases definition.rules.foldlM (addRule ln (.ofDefinition definition)) #[] with
  | error fault => simp [bind, Except.bind]
  | ok rules => simp [bind, Except.bind]

/-- A definition becomes a model if and only if it is well-formed, and otherwise it is refused with
its first fault and no other one. -/
theorem ofDefinition_verdict (ln : Float → S) (definition : GrammarDefinition) :
    ((∃ model, ofDefinition ln definition = .ok model) ↔ definition.WellFormed) ∧
      ∀ fault, ofDefinition ln definition = .error fault ↔ definition.FirstFault fault := by
  cases found : definition.terminals.find? (Symbols.ofDefinition definition).isNonterminal with
  | some symbol =>
      have refused : ofDefinition ln definition = .error (.ambiguousSymbol symbol) := by
        rw [ofDefinition, found]
      have notWellFormed : ¬ definition.WellFormed := by
        intro wellFormed
        rw [find?_isNonterminal_eq_none_iff.mpr wellFormed.apart] at found
        cases found
      simp [refused, notWellFormed, GrammarDefinition.FirstFault.iff_ambiguous found, eq_comm]
  | none =>
      have apart := find?_isNonterminal_eq_none_iff.mp found
      by_cases declared : definition.start ∈ definition.nonterminals
      · obtain ⟨accepted, refused⟩ := ofDefinition_of_start ln apart declared
        have noRules : definition.SoundRules [] := ⟨by simp, .nil⟩
        constructor
        · rw [accepted, exists_foldlM_addRule_iff apart .nil noRules]
          exact ⟨fun sound => ⟨apart, declared, sound⟩, fun wellFormed => wellFormed.rules⟩
        · intro fault
          rw [refused, foldlM_addRule_eq_error_iff apart .nil noRules,
            GrammarDefinition.FirstFault.iff_rule apart declared]
          rfl
      · have refused :
            ofDefinition ln definition = .error (.unknownStartSymbol definition.start) := by
          rw [ofDefinition, found, Symbols.id?_eq_none_iff.mpr declared]
        have notWellFormed : ¬ definition.WellFormed := fun wellFormed => declared wellFormed.start
        simp [refused, notWellFormed, GrammarDefinition.FirstFault.iff_unknownStart apart declared,
          eq_comm]

end GrammarModel

end QuestionSearch.Grammar
