import QuestionSearch.Proofs.Grammar.FloatScores
import QuestionSearch.Proofs.Grammar.TieBreaking
import QuestionSearch.Proofs.Grammar.TreeShape

/-!
# First trees

Without rules for the empty word every entry stands for the first of the best beginnings, so the
tree that is found takes that one at each of its nodes (`ReadsFirst`). It is the only tree that does
(`parse?_eq_some_iff`), whatever order the rules are written in and however scores are rounded.
-/

namespace QuestionSearch.Grammar.GrammarModel

variable {S : Type} [Add S] [LT S] [DecidableLT S]

/-- A tree that takes the first of the best beginnings at each node. -/
inductive ReadsFirst (model : GrammarModel S) (tokens : List String) :
    Nat → Nat → SymbolId → ParseTree S → Prop
  /-- By a rule for the only token. -/
  | word {start length : Nat} {symbol : SymbolId} {place : RuleIndex} {score : S} {token : String} :
      model.IsFirst tokens start length symbol (.word place) score → tokens[start]? = some token →
      ReadsFirst model tokens start length symbol
        (.leaf (model.symbolName symbol) token ⟨start, start + length⟩ score)
  /-- By a rule for the parts of a cut. -/
  | parts {start length cut : Nat} {symbol left right : SymbolId} {place : RuleIndex} {score : S}
      {leftTree rightTree : ParseTree S} :
      model.IsFirst tokens start length symbol (.parts cut left right place) score →
      ReadsFirst model tokens start cut left leftTree →
      ReadsFirst model tokens (start + cut) (length - cut) right rightTree →
      ReadsFirst model tokens start length symbol
        (.branch (model.symbolName symbol) leftTree rightTree score)

variable {model : GrammarModel S} {ln : Float → S} {definition : GrammarDefinition}
  {tokens : List String} {start length : Nat} {symbol : SymbolId} {IsScore : S → Prop}

/-- Without rules for the empty word nothing derives it. -/
theorem nulls_eq_none (represents : model.Represents ln definition)
    (noEmpty : ∀ rule ∈ definition.rules, rule.right ≠ [""]) (symbol : SymbolId) :
    model.nulls.at? symbol = none := by
  have nothing : model.nulls.holding.All fun _ _ => False := by
    rw [holding_nulls represents, Relaxation.result_eq_after]
    refine Relaxation.all_after ?_ ?_ _
    · refine Holding.all_offerAll (Holding.all_empty _) fun candidate member => ?_
      obtain ⟨rule, found, terminal, _, _⟩ := (mem_wordCandidates_iff represents).mp member
      obtain ⟨probability, ruleMem, _⟩ := represents.exists_wordRule found terminal
      exact noEmpty _ ruleMem rfl
    · intro inference member table nothing left _ leftEq _
      obtain ⟨rule, leftSymbol, _, _, _, inferenceEq⟩ :=
        (mem_nullInferences_iff represents).mp member
      rw [inferenceEq] at leftEq
      obtain ⟨reason, held⟩ := Holding.score?_eq_some_iff.mp leftEq
      exact nothing _ _ held
  rw [Option.eq_none_iff_forall_ne_some]
  intro null held
  exact nothing symbol (null.score, null.rule) (NullTable.holding_eq_some_iff.mpr held)

/-- Where a range begins by a rule for a token, the tree is the leaf for it. -/
theorem readsFirst_word_iff {place : RuleIndex} {score : S} {tree : ParseTree S}
    (isFirst : model.IsFirst tokens start length symbol (.word place) score) :
    model.ReadsFirst tokens start length symbol tree ↔
      ∃ token, tokens[start]? = some token ∧
        tree = .leaf (model.symbolName symbol) token ⟨start, start + length⟩ score := by
  constructor
  · intro reads
    cases reads with
    | word otherFirst found =>
        obtain ⟨_, rfl⟩ := isFirst.unique otherFirst
        exact ⟨_, found, rfl⟩
    | parts otherFirst _ _ => exact absurd (isFirst.unique otherFirst).1 (by simp)
  · rintro ⟨token, found, rfl⟩
    exact .word isFirst found

/-- Where a range begins by a rule for the parts of a cut, the tree joins those of the parts. -/
theorem readsFirst_parts_iff {cut : Nat} {left right : SymbolId} {place : RuleIndex} {score : S}
    {tree : ParseTree S}
    (isFirst : model.IsFirst tokens start length symbol (.parts cut left right place) score) :
    model.ReadsFirst tokens start length symbol tree ↔
      ∃ leftTree rightTree, model.ReadsFirst tokens start cut left leftTree ∧
        model.ReadsFirst tokens (start + cut) (length - cut) right rightTree ∧
        tree = .branch (model.symbolName symbol) leftTree rightTree score := by
  constructor
  · intro reads
    cases reads with
    | word otherFirst _ => exact absurd (isFirst.unique otherFirst).1 (by simp)
    | parts otherFirst leftReads rightReads =>
        obtain ⟨same, rfl⟩ := isFirst.unique otherFirst
        cases same
        exact ⟨_, _, leftReads, rightReads, rfl⟩
  · rintro ⟨leftTree, rightTree, leftReads, rightReads, rfl⟩
    exact .parts isFirst leftReads rightReads

theorem ReadsFirst.exists_isFirst {tree : ParseTree S}
    (reads : model.ReadsFirst tokens start length symbol tree) :
    ∃ first score, model.IsFirst tokens start length symbol first score := by
  cases reads with
  | word isFirst _ => exact ⟨_, _, isFirst⟩
  | parts isFirst _ _ => exact ⟨_, _, isFirst⟩

section Trees

variable (represents : model.Represents ln definition) (order : ScoreOrder S IsScore)
  (lnScores : ∀ probability, isRuleProbability probability = true → IsScore (ln probability))
  (noEmpty : ∀ rule ∈ definition.rules, rule.right ≠ [""])

include represents order lnScores noEmpty

theorem isFirst_of_at? (pos : 0 < length) (stop : start + length ≤ tokens.length)
    (symbolLt : symbol < model.symbolCount) {entry : Entry S}
    (held : (model.chart tokens).at? start length symbol = some entry) :
    ∃ first, model.IsFirst tokens start length symbol first entry.score ∧
      entry.back = first.back := by
  rcases entry_cases represents order lnScores pos stop symbolLt held with
    first | ⟨⟨_, part, null, nullHeld⟩, _⟩
  · exact first
  · rw [nulls_eq_none represents noEmpty] at nullHeld
    cases nullHeld

/-- The tree that the finished chart describes takes the first of the best beginnings at each node,
and there is no other such tree. -/
theorem treeWithin?_eq_some_iff {levels : Nat} (enough : length ≤ levels) (pos : 0 < length)
    (stop : start + length ≤ tokens.length) (symbolLt : symbol < model.symbolCount)
    (tree : ParseTree S) :
    model.treeWithin? (model.chart tokens) levels start length symbol = some tree ↔
      model.ReadsFirst tokens start length symbol tree := by
  induction levels generalizing start length symbol tree with
  | zero => omega
  | succ levels ih =>
      simp only [treeWithin?, bind]
      cases held : (model.chart tokens).at? start length symbol with
      | none =>
          have missing := not_begins_of_none represents order lnScores pos stop held
          simp only [Option.bind_none, reduceCtorEq, false_iff]
          intro reads
          obtain ⟨first, score, isFirst⟩ := reads.exists_isFirst
          exact missing _ _ isFirst.begins
      | some entry =>
          obtain ⟨first, isFirst, backEq⟩ :=
            isFirst_of_at? represents order lnScores noEmpty pos stop symbolLt held
          cases first with
          | word place =>
              obtain ⟨rfl, rule, token, found, _, terminal, tokenFound, _⟩ := isFirst.begins
              rw [readsFirst_word_iff isFirst]
              simp [backEq, Beginning.back, found, terminal, tokenFound, eq_comm]
          | parts cut left right place =>
              obtain ⟨⟨cutPos, cutLt⟩, rule, _, _, found, _, children, _⟩ := isFirst.begins
              obtain ⟨leftLt, rightLt⟩ := represents.children_lt found children
              have leftStop : start + cut ≤ tokens.length := by omega
              have rightStop : start + cut + (length - cut) ≤ tokens.length := by omega
              have leftIff := ih (by omega) cutPos leftStop leftLt
              have rightIff := ih (by omega) (by omega) rightStop rightLt
              rw [readsFirst_parts_iff isFirst]
              simp only [Option.bind_some, backEq, Beginning.back, found, children,
                Option.bind_eq_some_iff, Option.some.injEq, leftIff, rightIff]
              simp [eq_comm]

end Trees

/-- All tokens over which there is such a tree are words of the grammar. -/
theorem ReadsFirst.terminalRules_ne_empty (represents : model.Represents ln definition)
    {tree : ParseTree S} (reads : model.ReadsFirst tokens start length symbol tree) {place : Nat}
    (startLe : start ≤ place) (placeLt : place < start + length) {token : String}
    (found : tokens[place]? = some token) : (model.terminalRules token).isEmpty = false := by
  induction reads with
  | word isFirst _ =>
      obtain ⟨rfl, rule, word, ruleFound, _, terminal, wordFound, _⟩ := isFirst.begins
      obtain rfl : place = _ := Nat.le_antisymm (Nat.le_of_lt_succ placeLt) startLe
      obtain rfl := Option.some.inj (wordFound.symm.trans found)
      have listed := represents.mem_terminalRules_iff.mpr ⟨rule, ruleFound, terminal⟩
      rw [Array.isEmpty_eq_false_iff]
      exact Array.ne_empty_of_mem listed
  | @parts start length cut _ _ _ _ _ _ _ isFirst _ _ ihLeft ihRight =>
      rcases Nat.lt_or_ge place (start + cut) with inLeft | inRight
      · exact ihLeft startLe inLeft
      · exact ihRight inRight (by have := isFirst.begins.1.2; omega)

/-- The tree that is found takes the first of the best beginnings at each node, and there is no
other such tree. -/
theorem parse?_eq_some_iff (represents : model.Represents ln definition)
    (order : ScoreOrder S IsScore)
    (lnScores : ∀ probability, isRuleProbability probability = true → IsScore (ln probability))
    (noEmpty : ∀ rule ∈ definition.rules, rule.right ≠ [""]) (tree : ParseTree S) :
    model.parse? tokens = some tree ↔
      model.ReadsFirst tokens 0 tokens.length model.start tree := by
  have startLt := represents.id_lt represents.start
  rw [parse?]
  split
  · rename_i isEmpty
    obtain rfl := List.isEmpty_iff.mp isEmpty
    have noTree : model.nullTree? model.start 0 = none := by
      simp [nullTree?, nullTreeWithin?, nulls_eq_none represents noEmpty]
    rw [noTree]
    refine ⟨fun parsed => absurd parsed (by simp), fun reads => ?_⟩
    obtain ⟨first, score, isFirst⟩ := reads.exists_isFirst
    have begins := isFirst.begins
    cases first with
    | word place => cases begins.1
    | parts cut left right place => cases begins.1.2
  · rename_i notEmpty
    have pos : 0 < tokens.length := List.length_pos_iff.mpr (by simpa using notEmpty)
    have enough : tokens.length ≤ tokens.length * model.symbolCount + 1 :=
      Nat.le_succ_of_le (Nat.le_mul_of_pos_right _ (Nat.zero_lt_of_lt startLt))
    split
    · rename_i unknown
      refine ⟨fun parsed => absurd parsed (by simp), fun reads => ?_⟩
      obtain ⟨token, member, noRule⟩ := List.any_eq_true.mp unknown
      obtain ⟨place, placeLt, rfl⟩ := List.getElem_of_mem member
      have known := reads.terminalRules_ne_empty represents (Nat.zero_le place)
        (by omega) (List.getElem?_eq_getElem placeLt)
      simp [known] at noRule
    · exact treeWithin?_eq_some_iff represents order lnScores noEmpty enough pos
        (Nat.le_of_eq (Nat.zero_add _)) startLt tree

/-! ## A grammar with equally good rules -/

/-- Two rules for the start symbol that are equally good, each for a nonterminal with one word. -/
def tiedGrammar : GrammarDefinition where
  start := "question"
  nonterminals := ["question", "noun", "name"]
  terminals := ["oak"]
  rules :=
    [⟨"question", ["noun", "noun"], 0.5⟩, ⟨"question", ["name", "name"], 0.5⟩,
      ⟨"noun", ["oak"], 1⟩, ⟨"name", ["oak"], 1⟩]

/-- The logarithm of the probabilities one and one half. -/
def roundedHalvingLog (probability : Float) : Float :=
  if probability < 1 then -0.6931471805599453 else 0

theorem roundedHalvingLog_nonpos (probability : Float)
    (_ : isRuleProbability probability = true) : roundedHalvingLog probability ≤ 0 := by
  rw [roundedHalvingLog]
  split <;> decide

theorem tiedGrammar_noEmpty : ∀ rule ∈ tiedGrammar.rules, rule.right ≠ [""] := by
  decide

/-- The rules of the grammar with their numbers. -/
def tiedRules : Array (WeightedRule Float) :=
  #[⟨⟨"question", .binary "noun" "noun"⟩, 0.5, roundedHalvingLog 0.5, 0, some (1, 1)⟩,
    ⟨⟨"question", .binary "name" "name"⟩, 0.5, roundedHalvingLog 0.5, 0, some (2, 2)⟩,
    ⟨⟨"noun", .terminal "oak"⟩, 1, roundedHalvingLog 1, 1, none⟩,
    ⟨⟨"name", .terminal "oak"⟩, 1, roundedHalvingLog 1, 2, none⟩]

theorem exists_tiedModel : ∃ model, ofDefinition roundedHalvingLog tiedGrammar = .ok model ∧
    model.start = 0 ∧ model.nonterminals = #["question", "noun", "name"] ∧
    model.rules = tiedRules := by
  have half : isRuleProbability 0.5 = true := by decide
  have one : isRuleProbability 1 = true := by decide
  simp [GrammarModel.ofDefinition, tiedGrammar, tiedRules, Symbols.ofDefinition,
    Symbols.isNonterminal, Symbols.id?, Symbols.isTerminal, Symbols.childId, Symbols.rightSide,
    addRule, checkRule, half, one, pure, bind, Except.pure, Except.bind,
    Std.HashMap.getElem_insert]

/-- Each word of the two is derived from a noun and from a name by one rule. -/
theorem isFirst_tiedWord {model : GrammarModel Float} (rules : model.rules = tiedRules)
    {start : Nat} (startLt : start < 2) {symbol : SymbolId} (kind : symbol = 1 ∨ symbol = 2) :
    model.IsFirst ["oak", "oak"] start 1 symbol (.word (symbol + 1)) (roundedHalvingLog 1) := by
  have token : ["oak", "oak"][start]? = some "oak" := by
    rcases start with _ | _ | start
    · rfl
    · rfl
    · omega
  have only {other : Beginning} {score : Float}
      (begins : model.Begins ["oak", "oak"] start 1 symbol other score) :
      other = .word (symbol + 1) ∧ score = roundedHalvingLog 1 := by
    cases other with
    | word place =>
        obtain ⟨_, rule, _, found, head, terminal, _, rfl⟩ := begins
        rw [rules] at found
        rcases place with _ | _ | _ | _ | place <;>
          simp [tiedRules] at found <;> subst found <;> simp_all [WeightedRule.terminal?]
    | parts cut left right place =>
        obtain ⟨⟨cutPos, cutLt⟩, _⟩ := begins
        omega
  refine ⟨?_, fun other score begins => ?_, fun other score begins before => ?_⟩
  · rcases kind with rfl | rfl
    · exact ⟨rfl, _, "oak", by rw [rules]; rfl, rfl, rfl, token, rfl⟩
    · exact ⟨rfl, _, "oak", by rw [rules]; rfl, rfl, rfl, token, rfl⟩
  · rw [(only begins).2]
    exact scoreOrder_float.irrefl _
  · rw [(only begins).1] at before
    exact absurd before (lt_irrefl _)

theorem exists_tiedEntry {model : GrammarModel Float}
    (built : ofDefinition roundedHalvingLog tiedGrammar = .ok model)
    (symbols : model.nonterminals = #["question", "noun", "name"]) (rules : model.rules = tiedRules)
    {start : Nat} (startLt : start < 2) {symbol : SymbolId} (kind : symbol = 1 ∨ symbol = 2) :
    ∃ entry, (model.chart ["oak", "oak"]).at? start 1 symbol = some entry ∧
      entry.score = roundedHalvingLog 1 := by
  have represents := represents_of_ofDefinition built
  have isFirst := isFirst_tiedWord rules startLt kind
  have stop : start + 1 ≤ ["oak", "oak"].length := startLt
  have symbolLt : symbol < model.symbolCount := by
    rw [symbolCount, symbols]
    rcases kind with rfl | rfl <;> decide
  cases held : (model.chart ["oak", "oak"]).at? start 1 symbol with
  | none =>
      exact absurd isFirst.begins (not_begins_of_none represents scoreOrder_float
        roundedHalvingLog_nonpos Nat.one_pos stop held _ _)
  | some entry =>
      obtain ⟨first, entryFirst, _⟩ := isFirst_of_at? represents scoreOrder_float
        roundedHalvingLog_nonpos tiedGrammar_noEmpty Nat.one_pos stop symbolLt held
      exact ⟨entry, rfl, (entryFirst.unique isFirst).2⟩

/-- The rule for two nouns comes first. -/
theorem isFirst_tiedPair {model : GrammarModel Float}
    (built : ofDefinition roundedHalvingLog tiedGrammar = .ok model)
    (symbols : model.nonterminals = #["question", "noun", "name"])
    (rules : model.rules = tiedRules) :
    model.IsFirst ["oak", "oak"] 0 2 0 (.parts 1 1 1 0)
      (roundedHalvingLog 0.5 + roundedHalvingLog 1 + roundedHalvingLog 1) := by
  have entries {start : Nat} (startLt : start < 2) {symbol : SymbolId}
      (kind : symbol = 1 ∨ symbol = 2) :=
    exists_tiedEntry built symbols rules startLt kind
  have only {other : Beginning} {score : Float}
      (begins : model.Begins ["oak", "oak"] 0 2 0 other score) :
      (other = .parts 1 1 1 0 ∨ other = .parts 1 2 2 1) ∧
        score = roundedHalvingLog 0.5 + roundedHalvingLog 1 + roundedHalvingLog 1 := by
    cases other with
    | word place => cases begins.1
    | parts cut left right place =>
        obtain ⟨⟨cutPos, cutLt⟩, rule, leftEntry, rightEntry, found, head, children, leftHeld,
          rightHeld, rfl⟩ := begins
        obtain rfl : cut = 1 := by omega
        have sides : rule.score = roundedHalvingLog 0.5 ∧
            (place = 0 ∧ left = 1 ∧ right = 1 ∨ place = 1 ∧ left = 2 ∧ right = 2) := by
          rw [rules] at found
          rcases place with _ | _ | _ | _ | place <;>
            simp [tiedRules] at found <;> subst found <;> simp_all [eq_comm]
        have kind : (left = 1 ∨ left = 2) ∧ (right = 1 ∨ right = 2) := by
          rcases sides.2 with ⟨_, rfl, rfl⟩ | ⟨_, rfl, rfl⟩ <;> simp
        obtain ⟨otherLeft, leftAgain, leftScore⟩ := entries Nat.two_pos kind.1
        obtain ⟨otherRight, rightAgain, rightScore⟩ := entries Nat.one_lt_two kind.2
        obtain rfl := Option.some.inj (leftHeld.symm.trans leftAgain)
        obtain rfl := Option.some.inj (rightHeld.symm.trans rightAgain)
        rw [sides.1, leftScore, rightScore]
        refine ⟨?_, rfl⟩
        rcases sides.2 with ⟨rfl, rfl, rfl⟩ | ⟨rfl, rfl, rfl⟩
        · exact Or.inl rfl
        · exact Or.inr rfl
  refine ⟨?_, fun other score begins => ?_, fun other score begins before => ?_⟩
  · obtain ⟨leftEntry, leftHeld, leftScore⟩ := entries Nat.two_pos (Or.inl rfl)
    obtain ⟨rightEntry, rightHeld, rightScore⟩ := entries Nat.one_lt_two (Or.inl rfl)
    exact ⟨⟨Nat.one_pos, Nat.one_lt_two⟩, _, leftEntry, rightEntry, by rw [rules]; rfl, rfl, rfl,
      leftHeld, rightHeld, by rw [leftScore, rightScore]; rfl⟩
  · rw [(only begins).2]
    exact scoreOrder_float.irrefl _
  · rcases (only begins).1 with rfl | rfl
    · exact absurd before (lt_irrefl _)
    · exact absurd before (by decide)

/-- What a finished chart holds for a range and a nonterminal stands for the first of the best ways
to begin without empty parts. It has an empty part only where that makes it better than all of them.
If no rule is for the empty word, the tree that is found takes the first of the best beginnings at
each node. -/
theorem ties_keep_first (order : ScoreOrder S IsScore)
    (lnScores : ∀ probability, isRuleProbability probability = true → IsScore (ln probability))
    (built : ofDefinition ln definition = .ok model) (tokens : List String) :
    (∀ start length symbol, 0 < length → start + length ≤ tokens.length →
      symbol < model.symbolCount →
        ((model.chart tokens).at? start length symbol = none →
          ∀ beginning score, ¬ model.Begins tokens start length symbol beginning score) ∧
        ∀ entry, (model.chart tokens).at? start length symbol = some entry →
          (∃ first, model.IsFirst tokens start length symbol first entry.score ∧
              entry.back = first.back) ∨
            entry.back.HasEmptyPart ∧
              ∀ beginning score, model.Begins tokens start length symbol beginning score →
                score < entry.score) ∧
    ((∀ rule ∈ definition.rules, rule.right ≠ [""]) → ∀ tree,
      model.parse? tokens = some tree ↔
        model.ReadsFirst tokens 0 tokens.length model.start tree) := by
  have represents := represents_of_ofDefinition built
  refine ⟨fun start length symbol pos stop symbolLt => ⟨?_, fun entry held => ?_⟩,
    fun noEmpty tree => ?_⟩
  · exact not_begins_of_none represents order lnScores pos stop
  · exact (entry_cases represents order lnScores pos stop symbolLt held).imp_right
      fun ⟨⟨empty, _⟩, better⟩ => ⟨empty, better⟩
  · exact parse?_eq_some_iff represents order lnScores noEmpty tree

/-- Of the two readings of two words the one by the earlier rule is found. -/
theorem ties_keep_first_oaks : ∃ model,
    ofDefinition roundedHalvingLog tiedGrammar = .ok model ∧
    model.parse? ["oak", "oak"] = some
      (.branch "question" (.leaf "noun" "oak" ⟨0, 1⟩ (roundedHalvingLog 1))
        (.leaf "noun" "oak" ⟨1, 2⟩ (roundedHalvingLog 1))
        (roundedHalvingLog 0.5 + roundedHalvingLog 1 + roundedHalvingLog 1)) ∧
    ∃ entry, (model.chart ["oak", "oak"]).at? 0 2 0 = some entry ∧ entry.back = .split 0 1 := by
  obtain ⟨model, built, startEq, symbols, rules⟩ := exists_tiedModel
  obtain ⟨cells, trees⟩ := ties_keep_first scoreOrder_float roundedHalvingLog_nonpos built
    ["oak", "oak"]
  have count : model.symbolCount = 3 := by rw [symbolCount, symbols]; rfl
  have isFirst := isFirst_tiedPair built symbols rules
  refine ⟨model, built, (trees tiedGrammar_noEmpty _).mpr ?_, ?_⟩
  · have names : model.symbolName 0 = "question" ∧ model.symbolName 1 = "noun" := by
      simp [symbolName, symbols]
    rw [startEq, ← names.1, ← names.2]
    exact .parts isFirst (.word (isFirst_tiedWord rules Nat.two_pos (Or.inl rfl)) rfl)
      (.word (isFirst_tiedWord rules Nat.one_lt_two (Or.inl rfl)) rfl)
  · obtain ⟨missing, _⟩ := cells 0 2 0 Nat.two_pos (Nat.le_refl 2) (by rw [count]; decide)
    cases held : (model.chart ["oak", "oak"]).at? 0 2 0 with
    | none => exact absurd isFirst.begins (missing held _ _)
    | some entry =>
        obtain ⟨first, entryFirst, backEq⟩ := isFirst_of_at? (represents_of_ofDefinition built)
          scoreOrder_float roundedHalvingLog_nonpos tiedGrammar_noEmpty Nat.two_pos
          (Nat.le_refl 2) (by rw [count]; decide) held
        rw [(entryFirst.unique isFirst).1] at backEq
        exact ⟨entry, rfl, backEq⟩

end QuestionSearch.Grammar.GrammarModel
