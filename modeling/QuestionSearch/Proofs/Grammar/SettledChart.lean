import QuestionSearch.Proofs.Grammar.ChartOrigins

/-!
# Settled charts

With lawful scores every range of a finished chart is settled (`rangeSettled`): no rule for its
token, for the parts of one of its cuts, or for a part and the empty word makes anything better, and
what is held is exactly the sum of what it refers to, which never runs in a circle.
-/

namespace QuestionSearch.Grammar

variable {S : Type} [Add S] [LT S] [DecidableLT S]

/-- Whether an entry for a range and a nonterminal has the score of what it refers to, which ranks
lower if it is over the same range. -/
def Back.Founded (model : GrammarModel S) (tokens : List String) (rank : SymbolId → Nat)
    (start length : Nat) (symbol : SymbolId) (score : S) : Back → Prop
  | terminal place => length = 1 ∧ ∃ rule token, model.rules[place]? = some rule ∧
      rule.head = symbol ∧ rule.terminal? = some token ∧ tokens[start]? = some token ∧
      score = rule.score
  | split place cut => (0 < cut ∧ cut < length) ∧ ∃ rule left right leftEntry rightEntry,
      model.rules[place]? = some rule ∧ rule.head = symbol ∧ rule.children = some (left, right) ∧
      (model.chart tokens).at? start cut left = some leftEntry ∧
      (model.chart tokens).at? (start + cut) (length - cut) right = some rightEntry ∧
      score = rule.score + leftEntry.score + rightEntry.score
  | emptyLeft place => ∃ rule left right null entry,
      model.rules[place]? = some rule ∧ rule.head = symbol ∧ rule.children = some (left, right) ∧
      model.nulls.at? left = some null ∧
      (model.chart tokens).at? start length right = some entry ∧ rank right < rank symbol ∧
      score = rule.score + null.score + entry.score
  | emptyRight place => ∃ rule left right entry null,
      model.rules[place]? = some rule ∧ rule.head = symbol ∧ rule.children = some (left, right) ∧
      (model.chart tokens).at? start length left = some entry ∧ rank left < rank symbol ∧
      model.nulls.at? right = some null ∧
      score = rule.score + entry.score + null.score

namespace GrammarModel

/-- Whether the finished chart holds a nonterminal for a range with at least some score. -/
def ChartAtLeast (model : GrammarModel S) (tokens : List String) (start length : Nat)
    (symbol : SymbolId) (score : S) : Prop :=
  ∃ entry, (model.chart tokens).at? start length symbol = some entry ∧ ¬ entry.score < score

/-- Whether all that the finished chart holds for a range has the score of what it refers to. -/
def RangeFounded (model : GrammarModel S) (tokens : List String) (start length : Nat)
    (rank : SymbolId → Nat) : Prop :=
  ∀ symbol < model.symbolCount, ∀ entry,
    (model.chart tokens).at? start length symbol = some entry →
      rank symbol < model.symbolCount ∧
        entry.back.Founded model tokens rank start length symbol entry.score

/-- The finished chart holds the best score of every nonterminal for a range. -/
structure RangeSettled (model : GrammarModel S) (tokens : List String) (start length : Nat) :
    Prop where
  /-- No rule for the token is better. -/
  token : ∀ (place : RuleIndex) (rule : WeightedRule S) (token : String), length = 1 →
    tokens[start]? = some token → model.rules[place]? = some rule → rule.terminal? = some token →
      model.ChartAtLeast tokens start length rule.head rule.score
  /-- No rule for the parts of a cut is better. -/
  cut : ∀ (place : RuleIndex) (rule : WeightedRule S) (left right : SymbolId) (cut : Nat)
    (leftEntry rightEntry : Entry S), 0 < cut → cut < length →
    model.rules[place]? = some rule → rule.children = some (left, right) →
    (model.chart tokens).at? start cut left = some leftEntry →
    (model.chart tokens).at? (start + cut) (length - cut) right = some rightEntry →
      model.ChartAtLeast tokens start length rule.head
        (rule.score + leftEntry.score + rightEntry.score)
  /-- No rule the left of whose nonterminals derives the empty word is better. -/
  emptyLeft : ∀ (place : RuleIndex) (rule : WeightedRule S) (left right : SymbolId)
    (null : NullDerivation S) (entry : Entry S),
    model.rules[place]? = some rule → rule.children = some (left, right) →
    model.nulls.at? left = some null → (model.chart tokens).at? start length right = some entry →
      model.ChartAtLeast tokens start length rule.head (rule.score + null.score + entry.score)
  /-- No rule the right of whose nonterminals derives the empty word is better. -/
  emptyRight : ∀ (place : RuleIndex) (rule : WeightedRule S) (left right : SymbolId)
    (entry : Entry S) (null : NullDerivation S),
    model.rules[place]? = some rule → rule.children = some (left, right) →
    (model.chart tokens).at? start length left = some entry → model.nulls.at? right = some null →
      model.ChartAtLeast tokens start length rule.head (rule.score + entry.score + null.score)
  /-- All that is held has the score of what it refers to. -/
  founded : ∃ rank, model.RangeFounded tokens start length rank

variable {model : GrammarModel S} {ln : Float → S} {definition : GrammarDefinition}
  {tokens : List String} {start length : Nat} {IsScore : S → Prop}

theorem score?_range_chart (represents : model.Represents ln definition) {symbol : SymbolId}
    (symbolLt : symbol < model.symbolCount) :
    ((model.chart tokens).range start length).score? symbol =
      ((model.chart tokens).at? start length symbol).map Entry.score :=
  Chart.score?_range (by rw [(isFor_chart represents).layout]; exact symbolLt)

theorem isScore_nulls (represents : model.Represents ln definition) (order : ScoreOrder S IsScore)
    (lnScores : ∀ probability, isRuleProbability probability = true → IsScore (ln probability))
    {symbol : SymbolId} {null : NullDerivation S} (held : model.nulls.at? symbol = some null) :
    IsScore null.score := by
  have scores := Relaxation.scores_after order (nullRelaxation_lawful represents lnScores)
    (model.symbolCount + 1)
  rw [← Relaxation.result_eq_after, ← holding_nulls represents] at scores
  exact (scores symbol (null.score, null.rule) (NullTable.holding_eq_some_iff.mpr held)).2

theorem rangeInferences_lawful (represents : model.Represents ln definition)
    (order : ScoreOrder S IsScore)
    (lnScores : ∀ probability, isRuleProbability probability = true → IsScore (ln probability))
    (candidates : List (SymbolId × S × Back)) :
    ∀ inference ∈ (model.rangeRelaxation candidates).inferences,
      inference.Lawful IsScore model.symbolCount := by
  intro inference member
  obtain ⟨place, rule, left, right, null, found, children, side⟩ :=
    (mem_rangeInferences_iff represents).mp member
  obtain ⟨leftLt, rightLt⟩ := represents.children_lt found children
  have weightScore := represents.isScore lnScores found
  rcases side with ⟨nullHeld, rfl⟩ | ⟨nullHeld, rfl⟩
  · exact ⟨represents.head_lt found, weightScore, leftLt,
      isScore_nulls represents order lnScores nullHeld⟩
  · exact ⟨represents.head_lt found, weightScore,
      isScore_nulls represents order lnScores nullHeld, rightLt⟩

/-- The relaxation of a range has lawful scores if the shorter ranges have. -/
theorem rangeRelaxation_lawful (represents : model.Represents ln definition)
    (order : ScoreOrder S IsScore)
    (lnScores : ∀ probability, isRuleProbability probability = true → IsScore (ln probability))
    (words : List String) {ranges : Nat → Nat → Holding S Back}
    (shorter : ∀ otherStart otherLength, 0 < otherLength → otherLength < length →
      otherStart + otherLength ≤ start + length →
        (ranges otherStart otherLength).All fun _ held => IsScore held.1) :
    (model.rangeRelaxation (model.rangeCandidates words ranges start length)).Lawful IsScore
      model.symbolCount where
  start := by
    refine Holding.all_offerAll (Holding.all_empty _) fun candidate member => ?_
    rcases (mem_rangeCandidates_iff represents).mp member with
      ⟨_, place, rule, token, _, found, _, rfl⟩ | ⟨cut, ⟨cutPos, cutLt⟩, member⟩
    · exact ⟨represents.head_lt found, represents.isScore lnScores found⟩
    · obtain ⟨place, rule, left, right, leftScore, rightScore, found, _, leftEq, rightEq, rfl⟩ :=
        (mem_cutCandidates_iff represents).mp member
      obtain ⟨leftReason, leftHeld⟩ := Holding.score?_eq_some_iff.mp leftEq
      obtain ⟨rightReason, rightHeld⟩ := Holding.score?_eq_some_iff.mp rightEq
      exact ⟨represents.head_lt found, order.isScore_total (represents.isScore lnScores found)
        (shorter _ _ cutPos cutLt (by omega) _ _ leftHeld)
        (shorter _ _ (by omega) (by omega) (by omega) _ _ rightHeld)⟩
  infer := rangeInferences_lawful represents order lnScores _

theorem all_isScore_range (represents : model.Represents ln definition)
    (order : ScoreOrder S IsScore)
    (lnScores : ∀ probability, isRuleProbability probability = true → IsScore (ln probability))
    (pos : 0 < length) (stop : start + length ≤ tokens.length) :
    ((model.chart tokens).range start length).All fun _ held => IsScore held.1 := by
  induction length using Nat.strong_induction_on generalizing start with
  | h length ih =>
      have shorter (otherStart otherLength : Nat) (otherPos : 0 < otherLength)
          (otherLt : otherLength < length) (otherStop : otherStart + otherLength ≤ start + length) :
          ((model.chart tokens).range otherStart otherLength).All fun _ held => IsScore held.1 :=
        ih otherLength otherLt otherPos (otherStop.trans stop)
      have scores := Relaxation.scores_after order
        (rangeRelaxation_lawful represents order lnScores tokens shorter) (model.symbolCount + 1)
      rw [← Relaxation.result_eq_after, ← range_chart represents pos stop] at scores
      exact fun symbol held heldEq => (scores symbol held heldEq).2

theorem isScore_at? (represents : model.Represents ln definition) (order : ScoreOrder S IsScore)
    (lnScores : ∀ probability, isRuleProbability probability = true → IsScore (ln probability))
    (pos : 0 < length) (stop : start + length ≤ tokens.length) {symbol : SymbolId}
    (symbolLt : symbol < model.symbolCount) {entry : Entry S}
    (held : (model.chart tokens).at? start length symbol = some entry) : IsScore entry.score :=
  all_isScore_range represents order lnScores pos stop symbol (entry.score, entry.back)
    ((at?_chart_iff represents symbolLt).mp held)

theorem exists_entry_of_score? (represents : model.Represents ln definition) {symbol : SymbolId}
    (symbolLt : symbol < model.symbolCount) {score : S}
    (scoreEq : ((model.chart tokens).range start length).score? symbol = some score) :
    ∃ entry, (model.chart tokens).at? start length symbol = some entry ∧ entry.score = score :=
  Option.map_eq_some_iff.mp ((score?_range_chart represents symbolLt).symm.trans scoreEq)

theorem score?_range_of_at? (represents : model.Represents ln definition) {symbol : SymbolId}
    (symbolLt : symbol < model.symbolCount) {entry : Entry S}
    (held : (model.chart tokens).at? start length symbol = some entry) :
    ((model.chart tokens).range start length).score? symbol = some entry.score := by
  rw [score?_range_chart represents symbolLt, held, Option.map_some]

theorem chartAtLeast_of_atLeast (represents : model.Represents ln definition) {symbol : SymbolId}
    (symbolLt : symbol < model.symbolCount) {score : S}
    (atLeast : ((model.chart tokens).range start length).AtLeast symbol score) :
    model.ChartAtLeast tokens start length symbol score := by
  obtain ⟨held, heldEq, heldLe⟩ := atLeast
  exact ⟨⟨held.1, held.2⟩, (at?_chart_iff represents symbolLt).mpr heldEq, heldLe⟩

theorem founded_of_candidate (represents : model.Represents ln definition)
    (rank : SymbolId → Nat) {candidate : SymbolId × S × Back}
    (member : candidate ∈ model.rangeCandidates tokens (model.chart tokens).range start length) :
    candidate.2.2.Founded model tokens rank start length candidate.1 candidate.2.1 := by
  rcases (mem_rangeCandidates_iff represents).mp member with
    ⟨single, place, rule, token, tokenFound, found, terminal, rfl⟩ | ⟨cut, inside, member⟩
  · exact ⟨single, rule, token, found, rfl, terminal, tokenFound, rfl⟩
  · obtain ⟨place, rule, left, right, _, _, found, children, leftEq, rightEq, rfl⟩ :=
      (mem_cutCandidates_iff represents).mp member
    obtain ⟨leftLt, rightLt⟩ := represents.children_lt found children
    obtain ⟨leftEntry, leftHeld, rfl⟩ := exists_entry_of_score? represents leftLt leftEq
    obtain ⟨rightEntry, rightHeld, rfl⟩ := exists_entry_of_score? represents rightLt rightEq
    exact ⟨inside, rule, left, right, leftEntry, rightEntry, found, rfl, children, leftHeld,
      rightHeld, rfl⟩

theorem founded_of_inference (represents : model.Represents ln definition)
    {rank : SymbolId → Nat} {candidates : List (SymbolId × S × Back)} {inference : Inference S Back}
    (member : inference ∈ (model.rangeRelaxation candidates).inferences) {leftScore rightScore : S}
    (leftEq : inference.left.score? ((model.chart tokens).range start length) = some leftScore)
    (rightEq : inference.right.score? ((model.chart tokens).range start length) = some rightScore)
    (leftBelow : inference.left.RanksBelow rank (rank inference.head))
    (rightBelow : inference.right.RanksBelow rank (rank inference.head)) :
    inference.reason.Founded model tokens rank start length inference.head
      (inference.weight + leftScore + rightScore) := by
  obtain ⟨place, rule, left, right, null, found, children, ⟨nullHeld, rfl⟩ | ⟨nullHeld, rfl⟩⟩ :=
    (mem_rangeInferences_iff represents).mp member
  · obtain ⟨entry, held, rfl⟩ :=
      exists_entry_of_score? represents (represents.children_lt found children).1 leftEq
    obtain rfl := Option.some.inj rightEq
    exact ⟨rule, left, right, entry, null, found, rfl, children, held, leftBelow, nullHeld, rfl⟩
  · obtain ⟨entry, held, rfl⟩ :=
      exists_entry_of_score? represents (represents.children_lt found children).2 rightEq
    obtain rfl := Option.some.inj leftEq
    exact ⟨rule, left, right, null, entry, found, rfl, children, nullHeld, held, rightBelow, rfl⟩

/-- With lawful scores every range of the finished chart is settled. -/
theorem rangeSettled (represents : model.Represents ln definition) (laws : ScoreLaws S IsScore)
    (lnScores : ∀ probability, isRuleProbability probability = true → IsScore (ln probability))
    (pos : 0 < length) (stop : start + length ≤ tokens.length) :
    model.RangeSettled tokens start length := by
  have lawful : (model.rangeRelaxation
      (model.rangeCandidates tokens (model.chart tokens).range start length)).Lawful IsScore
        model.symbolCount :=
    rangeRelaxation_lawful represents laws.order lnScores tokens
      fun otherStart otherLength otherPos _ otherStop =>
        all_isScore_range represents laws.order lnScores otherPos (otherStop.trans stop)
  have settled := Relaxation.result_settled laws lawful (Nat.le_succ _)
  rw [← range_chart represents pos stop] at settled
  have candidateAtLeast {candidate : SymbolId × S × Back}
      (member : candidate ∈
        model.rangeCandidates tokens (model.chart tokens).range start length) :
      ((model.chart tokens).range start length).AtLeast candidate.1 candidate.2.1 :=
    settled.extends_start _ _ (Relaxation.atLeast_offerAll_of_mem laws Holding.empty member)
  refine ⟨?_, ?_, ?_, ?_, ?_⟩
  · intro place rule token single tokenFound found terminal
    exact chartAtLeast_of_atLeast represents (represents.head_lt found) <| candidateAtLeast <|
      (mem_rangeCandidates_iff represents).mpr <|
        Or.inl ⟨single, place, rule, token, tokenFound, found, terminal, rfl⟩
  · intro place rule left right cut leftEntry rightEntry cutPos cutLt found children leftHeld
      rightHeld
    obtain ⟨leftLt, rightLt⟩ := represents.children_lt found children
    exact chartAtLeast_of_atLeast represents (represents.head_lt found) <| candidateAtLeast <|
      (mem_rangeCandidates_iff represents).mpr <| Or.inr ⟨cut, ⟨cutPos, cutLt⟩,
        (mem_cutCandidates_iff represents).mpr ⟨place, rule, left, right, _, _, found, children,
          score?_range_of_at? represents leftLt leftHeld,
          score?_range_of_at? represents rightLt rightHeld, rfl⟩⟩
  · intro place rule left right null entry found children nullHeld held
    exact chartAtLeast_of_atLeast represents (represents.head_lt found) <| settled.closed _
      ((mem_rangeInferences_iff represents).mpr
        ⟨place, rule, left, right, null, found, children, Or.inr ⟨nullHeld, rfl⟩⟩) _ _ rfl
      (score?_range_of_at? represents (represents.children_lt found children).2 held)
  · intro place rule left right entry null found children held nullHeld
    exact chartAtLeast_of_atLeast represents (represents.head_lt found) <| settled.closed _
      ((mem_rangeInferences_iff represents).mpr
        ⟨place, rule, left, right, null, found, children, Or.inl ⟨nullHeld, rfl⟩⟩) _ _
      (score?_range_of_at? represents (represents.children_lt found children).1 held) rfl
  · obtain ⟨rank, founded⟩ := settled.founded
    refine ⟨rank, fun symbol symbolLt entry held => ?_⟩
    obtain ⟨rankLt, origin⟩ := founded symbol (entry.score, entry.back)
      ((at?_chart_iff represents symbolLt).mp held)
    rcases origin with first | ⟨inference, member, leftScore, rightScore, rfl, reasonEq, totalEq,
      leftEq, rightEq, leftBelow, rightBelow⟩
    · have candidates : (model.rangeRelaxation
          (model.rangeCandidates tokens (model.chart tokens).range start length)).start.All
            fun symbol held => held.2.Founded model tokens rank start length symbol held.1 :=
        Holding.all_offerAll (Holding.all_empty _)
          fun candidate member => founded_of_candidate represents rank member
      exact ⟨rankLt, candidates symbol _ first⟩
    · simp only at reasonEq totalEq
      rw [← reasonEq, totalEq]
      exact ⟨rankLt, founded_of_inference represents member leftEq rightEq leftBelow rightBelow⟩

end GrammarModel

end QuestionSearch.Grammar
