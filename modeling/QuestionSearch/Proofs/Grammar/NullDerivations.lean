import QuestionSearch.Proofs.Grammar.CheckedModel
import QuestionSearch.Proofs.Grammar.Settled

/-!
# Derivations of the empty word

The table of derivations of the empty word is what a relaxation gives that begins with the rules for
the empty word and combines what two nonterminals derive (`holding_nulls`). With lawful scores it is
therefore settled (`nulls_settled`).
-/

namespace QuestionSearch.Grammar

variable {S : Type}

namespace NullTable

/-- What a table of derivations holds. -/
def holding (table : NullTable S) : Holding S RuleIndex :=
  fun symbol => (table.at? symbol).map fun null => (null.score, null.rule)

theorem holding_eq_some_iff {table : NullTable S} {symbol : SymbolId} {held : S × RuleIndex} :
    table.holding symbol = some held ↔ table.at? symbol = some ⟨held.1, held.2⟩ := by
  rw [holding]
  constructor
  · intro found
    obtain ⟨null, nullEq, rfl⟩ := Option.map_eq_some_iff.mp found
    exact nullEq
  · intro found
    rw [found, Option.map_some]

theorem score?_holding (table : NullTable S) (symbol : SymbolId) :
    table.holding.score? symbol = (table.at? symbol).map NullDerivation.score := by
  simp [Holding.score?, holding, Option.map_map, Function.comp_def]

theorem holding_replicate_none (symbols : Nat) :
    holding (Array.replicate symbols none : NullTable S) = Holding.empty := by
  funext symbol
  by_cases lt : symbol < symbols <;> simp [holding, at?, Holding.empty, lt]

section Offer

variable [LT S] [DecidableLT S]

theorem size_offer (table : NullTable S) (symbol : SymbolId) (candidate : NullDerivation S) :
    (table.offer symbol candidate).1.size = table.size := by
  rw [offer]
  split <;> simp

theorem holding_offer {table : NullTable S} {symbol : SymbolId} (lt : symbol < table.size)
    (candidate : NullDerivation S) :
    table.holding.offer symbol (candidate.score, candidate.rule) =
      ((table.offer symbol candidate).1.holding, (table.offer symbol candidate).2) := by
  rw [Holding.offer, offer, score?_holding]
  split
  · refine Prod.ext ?_ rfl
    funext query
    by_cases same : query = symbol
    · subst same
      simp [holding, at?, lt]
    · simp [holding, at?, same, Ne.symm same]
  · rfl

end Offer

end NullTable

namespace GrammarModel

/-- The candidate by a rule for the empty word. -/
def wordCandidate? (model : GrammarModel S) (place : RuleIndex) :
    Option (SymbolId × S × RuleIndex) :=
  model.rules[place]?.map fun rule => (rule.head, rule.score, place)

/-- The inference by a rule both of whose nonterminals derive the empty word. -/
def nullInference? (model : GrammarModel S) (place : RuleIndex) :
    Option (Inference S RuleIndex) := do
  let rule ← model.rules[place]?
  let (left, right) ← rule.children
  some ⟨rule.head, .held left, .held right, rule.score, place⟩

variable [Add S] [LT S] [DecidableLT S]

/-- How derivations of the empty word follow from each other. -/
def nullRelaxation (model : GrammarModel S) : Relaxation S RuleIndex where
  start := Holding.empty.offerAll ((model.terminalRules "").toList.filterMap model.wordCandidate?)
  inferences := model.tables.binary.toList.filterMap model.nullInference?

/-- The table holds the best derivation of the empty word for every nonterminal that has one. -/
structure NullsSettled (model : GrammarModel S) : Prop where
  /-- No rule for the empty word is better. -/
  word : ∀ (place : RuleIndex) (rule : WeightedRule S), model.rules[place]? = some rule →
    rule.terminal? = some "" →
    ∃ null, model.nulls.at? rule.head = some null ∧ ¬ null.score < rule.score
  /-- No rule for two nonterminals is better. -/
  pair : ∀ (place : RuleIndex) (rule : WeightedRule S) (left right : SymbolId)
    (leftNull rightNull : NullDerivation S), model.rules[place]? = some rule →
    rule.children = some (left, right) → model.nulls.at? left = some leftNull →
    model.nulls.at? right = some rightNull →
      ∃ null, model.nulls.at? rule.head = some null ∧
        ¬ null.score < rule.score + leftNull.score + rightNull.score
  /-- All that is held is derived by the rule that is noted, from what ranks lower. -/
  founded : ∃ rank : SymbolId → Nat, ∀ symbol null, model.nulls.at? symbol = some null →
    rank symbol < model.symbolCount ∧ ∃ rule, model.rules[null.rule]? = some rule ∧
      rule.head = symbol ∧
        (rule.terminal? = some "" ∧ null.score = rule.score ∨
          ∃ left right leftNull rightNull, rule.children = some (left, right) ∧
            model.nulls.at? left = some leftNull ∧ model.nulls.at? right = some rightNull ∧
            null.score = rule.score + leftNull.score + rightNull.score ∧
            rank left < rank symbol ∧ rank right < rank symbol)

variable {model : GrammarModel S} {ln : Float → S} {definition : GrammarDefinition}

theorem holding_offerWord (represents : model.Represents ln definition) {table : NullTable S}
    (size : table.size = model.symbolCount) (places : List RuleIndex) :
    (places.foldl (NullTable.offerWord model.rules) table).size = model.symbolCount ∧
      (places.foldl (NullTable.offerWord model.rules) table).holding =
        table.holding.offerAll (places.filterMap model.wordCandidate?) := by
  induction places generalizing table with
  | nil => exact ⟨size, rfl⟩
  | cons place rest ih =>
      rw [List.foldl_cons]
      cases found : model.rules[place]? with
      | none =>
          have skipped : table.offerWord model.rules place = table := by
            simp [NullTable.offerWord, found]
          have dropped : model.wordCandidate? place = none := by simp [wordCandidate?, found]
          rw [skipped, List.filterMap_cons_none dropped]
          exact ih size
      | some rule =>
          have offered : table.offerWord model.rules place =
              (table.offer rule.head ⟨rule.score, place⟩).1 := by
            simp [NullTable.offerWord, found]
          have kept : model.wordCandidate? place = some (rule.head, rule.score, place) := by
            simp [wordCandidate?, found]
          rw [offered, List.filterMap_cons_some kept]
          obtain ⟨sizeRest, holdingRest⟩ := ih (NullTable.size_offer .. |>.trans size)
          refine ⟨sizeRest, holdingRest.trans ?_⟩
          have headLt : rule.head < table.size := size ▸ represents.head_lt found
          rw [Holding.offerAll, Holding.offerAll, List.foldl_cons,
            NullTable.holding_offer headLt ⟨rule.score, place⟩]

/-- One rule for two nonterminals does what its inference does. -/
theorem holding_relax (represents : model.Represents ln definition) {state : NullTable S × Bool}
    (size : state.1.size = model.symbolCount) (place : RuleIndex) :
    (NullTable.relax model.rules state place).1.size = model.symbolCount ∧
      ((model.nullInference? place).toList.foldl Inference.apply (state.1.holding, state.2)) =
        ((NullTable.relax model.rules state place).1.holding,
          (NullTable.relax model.rules state place).2) := by
  rw [NullTable.relax, nullInference?]
  cases found : model.rules[place]? with
  | none => exact ⟨size, rfl⟩
  | some rule =>
      cases children : rule.children with
      | none => simp [children, size]
      | some pair =>
          obtain ⟨left, right⟩ := pair
          simp only [children, bind, Option.bind_some, Option.toList_some, List.foldl_cons,
            List.foldl_nil, Inference.apply, Premise.score?, NullTable.score?_holding]
          cases leftFound : state.1.at? left with
          | none => exact ⟨size, rfl⟩
          | some leftNull =>
              cases rightFound : state.1.at? right with
              | none => exact ⟨size, rfl⟩
              | some rightNull =>
                  have headLt : rule.head < state.1.size := size ▸ represents.head_lt found
                  simp only [Option.map_some,
                    NullTable.holding_offer headLt
                      ⟨rule.score + leftNull.score + rightNull.score, place⟩,
                    NullTable.size_offer, size, Bool.or_comm, and_self]

theorem holding_foldl_relax (represents : model.Represents ln definition) (places : List RuleIndex)
    {state : NullTable S × Bool} (size : state.1.size = model.symbolCount) :
    (places.foldl (NullTable.relax model.rules) state).1.size = model.symbolCount ∧
      (places.filterMap model.nullInference?).foldl Inference.apply (state.1.holding, state.2) =
        ((places.foldl (NullTable.relax model.rules) state).1.holding,
          (places.foldl (NullTable.relax model.rules) state).2) := by
  induction places generalizing state with
  | nil => exact ⟨size, rfl⟩
  | cons place rest ih =>
      obtain ⟨sizeNext, stepEq⟩ := holding_relax represents size place
      obtain ⟨sizeRest, restEq⟩ := ih sizeNext
      refine ⟨sizeRest, ?_⟩
      rw [List.foldl_cons, ← restEq, ← stepEq]
      cases inferred : model.nullInference? place <;> simp [inferred]

/-- The derivations of the empty word are those that the relaxation gives. -/
theorem holding_nulls (represents : model.Represents ln definition) :
    model.nulls.holding = model.nullRelaxation.result (model.symbolCount + 1) := by
  rw [represents.nulls, NullTable.build, Relaxation.result]
  simp only [← Array.foldl_toList]
  have emptySize : (Array.replicate model.symbolCount none : NullTable S).size =
      model.symbolCount := Array.size_replicate
  obtain ⟨size, startEq⟩ := holding_offerWord represents emptySize
    (model.tables.byTerminal.getD "" #[]).toList
  rw [NullTable.holding_replicate_none] at startEq
  have agree : ∀ table : NullTable S, table.size = model.symbolCount →
      (model.tables.binary.toList.foldl (NullTable.relax model.rules) (table, false)).1.size =
          model.symbolCount ∧
        model.nullRelaxation.pass table.holding =
          ((model.tables.binary.toList.foldl (NullTable.relax model.rules)
              (table, false)).1.holding,
            (model.tables.binary.toList.foldl (NullTable.relax model.rules) (table, false)).2) :=
    fun table tableSize => holding_foldl_relax represents model.tables.binary.toList tableSize
  obtain ⟨_, settled⟩ := settle_view NullTable.holding agree (model.symbolCount + 1) size
  rw [settled, startEq]
  rfl

theorem mem_wordCandidates_iff (represents : model.Represents ln definition) {word : String}
    {candidate : SymbolId × S × RuleIndex} :
    candidate ∈ (model.terminalRules word).toList.filterMap model.wordCandidate? ↔
      ∃ rule, model.rules[candidate.2.2]? = some rule ∧ rule.terminal? = some word ∧
        candidate.1 = rule.head ∧ candidate.2.1 = rule.score := by
  simp only [List.mem_filterMap, Array.mem_toList_iff, represents.mem_terminalRules_iff,
    wordCandidate?, Option.map_eq_some_iff]
  constructor
  · rintro ⟨place, ⟨rule, found, terminal⟩, other, otherFound, rfl⟩
    obtain rfl := Option.some.inj (found.symm.trans otherFound)
    exact ⟨rule, found, terminal, rfl, rfl⟩
  · rintro ⟨rule, found, terminal, headEq, scoreEq⟩
    exact ⟨candidate.2.2, ⟨rule, found, terminal⟩, rule, found, by rw [← headEq, ← scoreEq]⟩

theorem mem_nullInferences_iff (represents : model.Represents ln definition)
    {inference : Inference S RuleIndex} :
    inference ∈ model.nullRelaxation.inferences ↔
      ∃ rule left right, model.rules[inference.reason]? = some rule ∧
        rule.children = some (left, right) ∧
        inference = ⟨rule.head, .held left, .held right, rule.score, inference.reason⟩ := by
  simp only [nullRelaxation, List.mem_filterMap, Array.mem_toList_iff, represents.mem_binary_iff,
    nullInference?]
  constructor
  · rintro ⟨place, ⟨rule, ⟨left, right⟩, found, children⟩, inferred⟩
    simp only [found, children, bind, Option.bind_some, Option.some.injEq] at inferred
    subst inferred
    exact ⟨rule, left, right, found, children, rfl⟩
  · rintro ⟨rule, left, right, found, children, inferenceEq⟩
    refine ⟨inference.reason, ⟨rule, (left, right), found, children⟩, ?_⟩
    simp only [found, children, bind, Option.bind_some, ← inferenceEq]

variable {IsScore : S → Prop}

theorem nullRelaxation_lawful (represents : model.Represents ln definition)
    (lnScores : ∀ probability, isRuleProbability probability = true → IsScore (ln probability)) :
    model.nullRelaxation.Lawful IsScore model.symbolCount where
  start := by
    refine Holding.all_offerAll (Holding.all_empty _) fun candidate member => ?_
    obtain ⟨rule, found, _, headEq, scoreEq⟩ := (mem_wordCandidates_iff represents).mp member
    rw [headEq, scoreEq]
    exact ⟨represents.head_lt found, represents.isScore lnScores found⟩
  infer := by
    intro inference member
    obtain ⟨rule, left, right, found, children, inferenceEq⟩ :=
      (mem_nullInferences_iff represents).mp member
    obtain ⟨leftLt, rightLt⟩ := represents.children_lt found children
    rw [inferenceEq]
    exact ⟨represents.head_lt found, represents.isScore lnScores found, leftLt, rightLt⟩

/-- What is held for the empty word was found by a rule for it or by one for two nonterminals. -/
theorem nulls_origin (represents : model.Represents ln definition) {symbol : SymbolId}
    {null : NullDerivation S} (held : model.nulls.at? symbol = some null) :
    ∃ rule, model.rules[null.rule]? = some rule ∧ rule.head = symbol ∧
      (rule.terminal? = some "" ∨ rule.children.isSome) := by
  have origin : (model.nulls.holding).All fun symbol held =>
      ∃ rule, model.rules[held.2]? = some rule ∧ rule.head = symbol ∧
        (rule.terminal? = some "" ∨ rule.children.isSome) := by
    rw [holding_nulls represents, Relaxation.result_eq_after]
    refine Relaxation.all_after ?_ ?_ _
    · refine Holding.all_offerAll (Holding.all_empty _) fun candidate member => ?_
      obtain ⟨rule, found, terminal, headEq, _⟩ := (mem_wordCandidates_iff represents).mp member
      exact ⟨rule, found, headEq.symm, Or.inl terminal⟩
    · intro inference member _ _ _ _ _ _
      obtain ⟨rule, left, right, found, children, inferenceEq⟩ :=
        (mem_nullInferences_iff represents).mp member
      exact ⟨rule, found, by rw [inferenceEq], Or.inr (by simp [children])⟩
  exact origin symbol (null.score, null.rule) (NullTable.holding_eq_some_iff.mpr held)

theorem nullsSettled (represents : model.Represents ln definition) (laws : ScoreLaws S IsScore)
    (lnScores : ∀ probability, isRuleProbability probability = true → IsScore (ln probability)) :
    model.NullsSettled := by
  have settled : model.nullRelaxation.Settled model.symbolCount model.nulls.holding := by
    rw [holding_nulls represents]
    exact Relaxation.result_settled laws (nullRelaxation_lawful represents lnScores)
      (Nat.le_succ _)
  have scoreEq {symbol : SymbolId} {null : NullDerivation S}
      (held : model.nulls.at? symbol = some null) :
      model.nulls.holding.score? symbol = some null.score := by
    rw [NullTable.score?_holding, held, Option.map_some]
  refine ⟨?_, ?_, ?_⟩
  · intro place rule found terminal
    have member : (rule.head, rule.score, place) ∈
        (model.terminalRules "").toList.filterMap model.wordCandidate? :=
      (mem_wordCandidates_iff represents).mpr ⟨rule, found, terminal, rfl, rfl⟩
    obtain ⟨held, heldEq, heldLe⟩ := settled.extends_start _ _
      (Relaxation.atLeast_offerAll_of_mem laws Holding.empty member)
    exact ⟨_, NullTable.holding_eq_some_iff.mp heldEq, heldLe⟩
  · intro place rule left right leftNull rightNull found children leftHeld rightHeld
    have member : ⟨rule.head, .held left, .held right, rule.score, place⟩ ∈
        model.nullRelaxation.inferences :=
      (mem_nullInferences_iff represents).mpr ⟨rule, left, right, found, children, rfl⟩
    obtain ⟨held, heldEq, heldLe⟩ :=
      settled.closed _ member _ _ (scoreEq leftHeld) (scoreEq rightHeld)
    exact ⟨_, NullTable.holding_eq_some_iff.mp heldEq, heldLe⟩
  · obtain ⟨rank, founded⟩ := settled.founded
    refine ⟨rank, fun symbol null held => ?_⟩
    obtain ⟨rankLt, origin⟩ := founded symbol (null.score, null.rule)
      (NullTable.holding_eq_some_iff.mpr held)
    refine ⟨rankLt, ?_⟩
    rcases origin with first | ⟨inference, member, left, right, headEq, reasonEq, totalEq, leftEq,
      rightEq, leftBelow, rightBelow⟩
    · have candidates : model.nullRelaxation.start.All fun symbol held =>
          ∃ rule, model.rules[held.2]? = some rule ∧ rule.terminal? = some "" ∧
            symbol = rule.head ∧ held.1 = rule.score :=
        Holding.all_offerAll (Holding.all_empty _) fun candidate member =>
          (mem_wordCandidates_iff represents).mp member
      obtain ⟨rule, found, terminal, symbolEq, totalEq⟩ := candidates symbol _ first
      exact ⟨rule, found, symbolEq.symm, Or.inl ⟨terminal, totalEq⟩⟩
    · obtain ⟨rule, leftSymbol, rightSymbol, found, children, inferenceEq⟩ :=
        (mem_nullInferences_iff represents).mp member
      rw [reasonEq] at found
      rw [inferenceEq] at headEq totalEq leftEq rightEq leftBelow rightBelow
      obtain ⟨leftNull, leftHeld, rfl⟩ := Option.map_eq_some_iff.mp
        ((NullTable.score?_holding ..).symm.trans leftEq)
      obtain ⟨rightNull, rightHeld, rfl⟩ := Option.map_eq_some_iff.mp
        ((NullTable.score?_holding ..).symm.trans rightEq)
      exact ⟨rule, found, headEq, Or.inr ⟨leftSymbol, rightSymbol, leftNull, rightNull, children,
        leftHeld, rightHeld, totalEq, leftBelow, rightBelow⟩⟩

end GrammarModel

end QuestionSearch.Grammar
