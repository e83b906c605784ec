import QuestionSearch.Proofs.Grammar.ChartFilling

/-!
# Origins of entries

Where the entries of a finished chart come from: which candidates and inferences a range has, and
that each entry refers to a rule for its nonterminal that fits its range (`fits_of_at?`). Nothing
here depends on how scores are added and compared.
-/

namespace QuestionSearch.Grammar

variable {S : Type}

/-- Whether an entry for a nonterminal and a range can be found in some way. -/
def Back.Fits (model : GrammarModel S) (tokens : List String) (start length : Nat)
    (symbol : SymbolId) : Back → Prop
  | terminal place => length = 1 ∧ ∃ rule token, model.rules[place]? = some rule ∧
      rule.head = symbol ∧ rule.terminal? = some token ∧ tokens[start]? = some token
  | split place cut => (0 < cut ∧ cut < length) ∧ ∃ rule, model.rules[place]? = some rule ∧
      rule.head = symbol ∧ rule.children.isSome
  | emptyLeft place | emptyRight place => ∃ rule, model.rules[place]? = some rule ∧
      rule.head = symbol ∧ rule.children.isSome

namespace GrammarModel

variable [Add S] [LT S] [DecidableLT S] {model : GrammarModel S} {ln : Float → S}
  {definition : GrammarDefinition} {tokens : List String} {start length : Nat}

theorem mem_terminalCandidates_iff (represents : model.Represents ln definition) {token : String}
    {candidate : SymbolId × S × Back} :
    candidate ∈ (model.terminalRules token).toList.filterMap model.terminalCandidate? ↔
      ∃ place rule, model.rules[place]? = some rule ∧ rule.terminal? = some token ∧
        candidate = (rule.head, rule.score, .terminal place) := by
  simp only [List.mem_filterMap, Array.mem_toList_iff, represents.mem_terminalRules_iff,
    terminalCandidate?, Option.map_eq_some_iff]
  constructor
  · rintro ⟨place, ⟨rule, found, terminal⟩, other, otherFound, rfl⟩
    obtain rfl := Option.some.inj (found.symm.trans otherFound)
    exact ⟨place, rule, found, terminal, rfl⟩
  · rintro ⟨place, rule, found, terminal, rfl⟩
    exact ⟨place, ⟨rule, found, terminal⟩, rule, found, rfl⟩

theorem mem_splitCandidates_iff (represents : model.Represents ln definition)
    {left right : SymbolId} {cut : Nat} {leftScore rightScore : S}
    {candidate : SymbolId × S × Back} :
    candidate ∈ (model.pairRules left right).toList.filterMap
        (model.splitCandidate? cut leftScore rightScore) ↔
      ∃ place rule, model.rules[place]? = some rule ∧ rule.children = some (left, right) ∧
        candidate = (rule.head, rule.score + leftScore + rightScore, .split place cut) := by
  simp only [List.mem_filterMap, Array.mem_toList_iff, represents.mem_pairRules_iff,
    splitCandidate?, Option.map_eq_some_iff]
  constructor
  · rintro ⟨place, ⟨rule, found, children⟩, other, otherFound, rfl⟩
    obtain rfl := Option.some.inj (found.symm.trans otherFound)
    exact ⟨place, rule, found, children, rfl⟩
  · rintro ⟨place, rule, found, children, rfl⟩
    exact ⟨place, ⟨rule, found, children⟩, rule, found, rfl⟩

/-- The candidates for one cut are those by the rules for what its parts hold. -/
theorem mem_cutCandidates_iff (represents : model.Represents ln definition)
    {ranges : Nat → Nat → Holding S Back} {cut : Nat} {candidate : SymbolId × S × Back} :
    candidate ∈ model.cutCandidates ranges start length cut ↔
      ∃ place rule left right leftScore rightScore, model.rules[place]? = some rule ∧
        rule.children = some (left, right) ∧ (ranges start cut).score? left = some leftScore ∧
        (ranges (start + cut) (length - cut)).score? right = some rightScore ∧
        candidate = (rule.head, rule.score + leftScore + rightScore, .split place cut) := by
  simp only [cutCandidates, List.mem_flatMap, Holding.mem_filled_iff, Prod.exists,
    mem_splitCandidates_iff represents]
  constructor
  · rintro ⟨left, leftScore, ⟨_, leftEq⟩, right, rightScore, ⟨_, rightEq⟩, place, rule, found,
      children, candidateEq⟩
    exact ⟨place, rule, left, right, leftScore, rightScore, found, children, leftEq, rightEq,
      candidateEq⟩
  · rintro ⟨place, rule, left, right, leftScore, rightScore, found, children, leftEq, rightEq,
      candidateEq⟩
    obtain ⟨leftLt, rightLt⟩ := represents.children_lt found children
    exact ⟨left, leftScore, ⟨leftLt, leftEq⟩, right, rightScore, ⟨rightLt, rightEq⟩, place, rule,
      found, children, candidateEq⟩

/-- The candidates for a range are those by the rules for its token or for what its cuts hold. -/
theorem mem_rangeCandidates_iff (represents : model.Represents ln definition)
    {ranges : Nat → Nat → Holding S Back} {candidate : SymbolId × S × Back} :
    candidate ∈ model.rangeCandidates tokens ranges start length ↔
      (length = 1 ∧ ∃ place rule token, tokens[start]? = some token ∧
        model.rules[place]? = some rule ∧ rule.terminal? = some token ∧
        candidate = (rule.head, rule.score, .terminal place)) ∨
      ∃ cut, (0 < cut ∧ cut < length) ∧
        candidate ∈ model.cutCandidates ranges start length cut := by
  rw [rangeCandidates]
  by_cases single : length = 1
  · subst single
    have noCut : ¬ ∃ cut, (0 < cut ∧ cut < 1) ∧
        candidate ∈ model.cutCandidates ranges start 1 cut := by
      rintro ⟨cut, ⟨pos, lt⟩, _⟩
      omega
    simp only [if_true, noCut, or_false, true_and]
    cases found : tokens[start]? with
    | none => simp
    | some token => simp [mem_terminalCandidates_iff represents]
  · simp only [single, if_false, false_and, false_or, List.mem_flatMap, List.mem_range]
    constructor
    · rintro ⟨index, lt, member⟩
      exact ⟨index + 1, ⟨Nat.succ_pos _, by omega⟩, member⟩
    · rintro ⟨cut, ⟨pos, lt⟩, member⟩
      refine ⟨cut - 1, by omega, ?_⟩
      rwa [Nat.sub_add_cancel pos]

/-- The inferences are those by the rules one of whose nonterminals derives the empty word. -/
theorem mem_rangeInferences_iff (represents : model.Represents ln definition)
    {candidates : List (SymbolId × S × Back)} {inference : Inference S Back} :
    inference ∈ (model.rangeRelaxation candidates).inferences ↔
      ∃ place rule left right null, model.rules[place]? = some rule ∧
        rule.children = some (left, right) ∧
        (model.nulls.at? right = some null ∧ inference =
            ⟨rule.head, .held left, .given null.score, rule.score, .emptyRight place⟩ ∨
          model.nulls.at? left = some null ∧ inference =
            ⟨rule.head, .given null.score, .held right, rule.score, .emptyLeft place⟩) := by
  simp only [rangeRelaxation, List.mem_flatMap, Array.mem_toList_iff, represents.mem_binary_iff]
  constructor
  · rintro ⟨place, ⟨rule, ⟨left, right⟩, found, children⟩, member⟩
    simp only [rangeInferences, found, children, List.mem_append, List.mem_map,
      Option.mem_toList] at member
    rcases member with ⟨null, nullFound, rfl⟩ | ⟨null, nullFound, rfl⟩
    · exact ⟨place, rule, left, right, null, found, children, Or.inl ⟨nullFound, rfl⟩⟩
    · exact ⟨place, rule, left, right, null, found, children, Or.inr ⟨nullFound, rfl⟩⟩
  · rintro ⟨place, rule, left, right, null, found, children, side⟩
    refine ⟨place, ⟨rule, (left, right), found, children⟩, ?_⟩
    simp only [rangeInferences, found, children, List.mem_append, List.mem_map, Option.mem_toList]
    rcases side with ⟨nullFound, inferenceEq⟩ | ⟨nullFound, inferenceEq⟩
    · exact Or.inl ⟨null, nullFound, inferenceEq.symm⟩
    · exact Or.inr ⟨null, nullFound, inferenceEq.symm⟩

theorem at?_chart_iff (represents : model.Represents ln definition) {symbol : SymbolId}
    (symbolLt : symbol < model.symbolCount) {entry : Entry S} :
    (model.chart tokens).at? start length symbol = some entry ↔
      (model.chart tokens).range start length symbol = some (entry.score, entry.back) := by
  rw [Chart.range_eq_some_iff, (isFor_chart represents).layout]
  exact (and_iff_right symbolLt).symm

/-- All entries of the finished chart were found in a way that fits their range. -/
theorem fits_of_at? (represents : model.Represents ln definition) (pos : 0 < length)
    (stop : start + length ≤ tokens.length) {symbol : SymbolId}
    (symbolLt : symbol < model.symbolCount) {entry : Entry S}
    (held : (model.chart tokens).at? start length symbol = some entry) :
    entry.back.Fits model tokens start length symbol := by
  have origin : ((model.chart tokens).range start length).All fun symbol held =>
      held.2.Fits model tokens start length symbol := by
    rw [range_chart represents pos stop, Relaxation.result_eq_after]
    refine Relaxation.all_after ?_ ?_ _
    · refine Holding.all_offerAll (Holding.all_empty _) fun candidate member => ?_
      rcases (mem_rangeCandidates_iff represents).mp member with
        ⟨single, place, rule, token, tokenFound, found, terminal, rfl⟩ | ⟨cut, inside, member⟩
      · exact ⟨single, rule, token, found, rfl, terminal, tokenFound⟩
      · obtain ⟨place, rule, left, right, _, _, found, children, _, _, rfl⟩ :=
          (mem_cutCandidates_iff represents).mp member
        exact ⟨inside, rule, found, rfl, by simp [children]⟩
    · intro inference member _ _ _ _ _ _
      obtain ⟨place, rule, left, right, null, found, children, ⟨_, rfl⟩ | ⟨_, rfl⟩⟩ :=
        (mem_rangeInferences_iff represents).mp member
      · exact ⟨rule, found, rfl, by simp [children]⟩
      · exact ⟨rule, found, rfl, by simp [children]⟩
  exact origin symbol (entry.score, entry.back) ((at?_chart_iff represents symbolLt).mp held)

end GrammarModel

end QuestionSearch.Grammar
