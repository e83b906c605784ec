import QuestionSearch.Grammar.Parser
import QuestionSearch.Proofs.Grammar.ChartSlots
import QuestionSearch.Proofs.Grammar.NullDerivations

/-!
# Ranges of charts

How one range of a chart is filled. It begins with candidates, by the rules for its token or by the
rules for the parts of its cuts, and goes on with the rules one of whose nonterminals derives the
empty word. Each step changes the range as the same step changes a table by itself, and leaves all
other ranges as they are; so in the end the range holds what a relaxation gives
(`range_closeRange`).
-/

namespace QuestionSearch.Grammar

variable {S : Type}

namespace GrammarModel

/-- The candidate by a rule for a token. -/
def terminalCandidate? (model : GrammarModel S) (place : RuleIndex) :
    Option (SymbolId × S × Back) :=
  model.rules[place]?.map fun rule => (rule.head, rule.score, .terminal place)

variable [Add S]

/-- The candidate by a rule for the parts of a cut. -/
def splitCandidate? (model : GrammarModel S) (cut : Nat) (left right : S) (place : RuleIndex) :
    Option (SymbolId × S × Back) :=
  model.rules[place]?.map fun rule => (rule.head, rule.score + left + right, .split place cut)

/-- The candidates for one cut of a range. -/
def cutCandidates (model : GrammarModel S) (ranges : Nat → Nat → Holding S Back)
    (start length cut : Nat) : List (SymbolId × S × Back) :=
  ((ranges start cut).filled model.symbolCount).flatMap fun left =>
    ((ranges (start + cut) (length - cut)).filled model.symbolCount).flatMap fun right =>
      (model.pairRules left.1 right.1).toList.filterMap
        (model.splitCandidate? cut left.2 right.2)

/-- The candidates for a range before empty words are considered. -/
def rangeCandidates (model : GrammarModel S) (tokens : List String)
    (ranges : Nat → Nat → Holding S Back) (start length : Nat) : List (SymbolId × S × Back) :=
  if length = 1 then
    match tokens[start]? with
    | none => []
    | some token => (model.terminalRules token).toList.filterMap model.terminalCandidate?
  else
    (List.range (length - 1)).flatMap fun index =>
      model.cutCandidates ranges start length (index + 1)

omit [Add S] in
/-- The inferences by a rule one of whose nonterminals derives the empty word. -/
def rangeInferences (model : GrammarModel S) (place : RuleIndex) : List (Inference S Back) :=
  match model.rules[place]? with
  | none => []
  | some rule =>
    match rule.children with
    | none => []
    | some (left, right) =>
      ((model.nulls.at? right).toList.map fun null =>
        ⟨rule.head, .held left, .given null.score, rule.score, .emptyRight place⟩) ++
      ((model.nulls.at? left).toList.map fun null =>
        ⟨rule.head, .given null.score, .held right, rule.score, .emptyLeft place⟩)

variable [LT S] [DecidableLT S]

/-- How the entries of a range follow from its candidates. -/
def rangeRelaxation (model : GrammarModel S) (candidates : List (SymbolId × S × Back)) :
    Relaxation S Back where
  start := Holding.empty.offerAll candidates
  inferences := model.tables.binary.toList.flatMap model.rangeInferences

end GrammarModel

/-- Whether a chart has the slots for so many tokens and the nonterminals of a model. -/
structure Chart.IsFor (chart : Chart S) (model : GrammarModel S) (tokens : Nat) : Prop where
  /-- The slots. -/
  layout : chart.layout = ⟨tokens, model.symbolCount⟩
  /-- There are that many. -/
  full : chart.Full

namespace Chart.IsFor

variable {model : GrammarModel S} {tokens start length : Nat}

theorem of_sameElsewhere {before after : Chart S} (isFor : before.IsFor model tokens)
    (same : SameElsewhere start length before after) : after.IsFor model tokens :=
  ⟨same.layout.trans isFor.layout, same.full⟩

theorem isSlot {chart : Chart S} (isFor : chart.IsFor model tokens) (pos : 0 < length)
    (stop : start + length ≤ tokens) {symbol : SymbolId} (symbolLt : symbol < model.symbolCount) :
    chart.layout.IsSlot start length symbol := by
  rw [isFor.layout]
  exact ⟨pos, stop, symbolLt⟩

theorem filled_eq {chart : Chart S} (isFor : chart.IsFor model tokens) (start length : Nat) :
    chart.filled start length = (chart.range start length).filled model.symbolCount := by
  rw [filled, Holding.filled, isFor.layout]
  refine List.filterMap_congr fun symbol member => ?_
  have lt : symbol < chart.layout.symbols := by
    rw [isFor.layout]
    exact List.mem_range.mp member
  rw [score?_range lt, Option.map_map]
  rfl

end Chart.IsFor

namespace GrammarModel

open Chart

section Candidates

variable [Add S] {model : GrammarModel S} {tokens start length : Nat}

theorem cutCandidates_congr {ranges others : Nat → Nat → Holding S Back} {cut : Nat}
    (left : ranges start cut = others start cut)
    (right : ranges (start + cut) (length - cut) = others (start + cut) (length - cut)) :
    model.cutCandidates ranges start length cut = model.cutCandidates others start length cut := by
  rw [cutCandidates, cutCandidates, left, right]

/-- The candidates for a range depend on shorter ranges only. -/
theorem rangeCandidates_congr {ranges others : Nat → Nat → Holding S Back} {words : List String}
    (pos : 0 < length) (stop : start + length ≤ tokens)
    (same : ∀ otherStart otherLength, 0 < otherLength → otherLength < length →
      otherStart + otherLength ≤ tokens →
        ranges otherStart otherLength = others otherStart otherLength) :
    model.rangeCandidates words ranges start length =
      model.rangeCandidates words others start length := by
  rw [rangeCandidates, rangeCandidates]
  split
  · rfl
  · refine List.flatMap_congr fun index member => ?_
    have indexLt : index < length - 1 := List.mem_range.mp member
    exact cutCandidates_congr (same _ _ (by omega) (by omega) (by omega))
      (same _ _ (by omega) (by omega) (by omega))

end Candidates

variable [Add S] [LT S] [DecidableLT S] {model : GrammarModel S} {ln : Float → S}
  {definition : GrammarDefinition} {tokens start length : Nat}

/-- Offering an entry by the rule at some place. -/
theorem range_offerRule (represents : model.Represents ln definition) {chart : Chart S}
    (isFor : chart.IsFor model tokens) (pos : 0 < length) (stop : start + length ≤ tokens)
    (entry : WeightedRule S → Entry S) (place : RuleIndex) :
    let offered :=
      match model.rules[place]? with
      | none => chart
      | some rule => (chart.offer start length rule.head (entry rule)).1
    SameElsewhere start length chart offered ∧
      offered.range start length =
        (chart.range start length).offerAll
          (model.rules[place]?.map fun rule =>
            (rule.head, (entry rule).score, (entry rule).back)).toList := by
  cases found : model.rules[place]? with
  | none => exact ⟨.refl isFor.full, rfl⟩
  | some rule =>
      have slot := isFor.isSlot pos stop (represents.head_lt found)
      obtain ⟨same, offerEq⟩ := range_offer isFor.full slot (entry rule)
      refine ⟨same, ?_⟩
      simp only [Option.map_some, Option.toList_some, Holding.offerAll, List.foldl_cons,
        List.foldl_nil, offerEq]

theorem range_offerPair (represents : model.Represents ln definition) {chart : Chart S}
    (isFor : chart.IsFor model tokens) (pos : 0 < length) (stop : start + length ≤ tokens)
    (cut : Nat) (left right : SymbolId × S) :
    SameElsewhere start length chart (model.offerPair start length cut chart left right) ∧
      (model.offerPair start length cut chart left right).range start length =
        (chart.range start length).offerAll
          ((model.pairRules left.1 right.1).toList.filterMap
            (model.splitCandidate? cut left.2 right.2)) := by
  rw [offerPair, ← Array.foldl_toList, Holding.offerAll_filterMap]
  refine range_foldl (fun other same place _ => ?_) (.refl isFor.full)
  exact range_offerRule represents (isFor.of_sameElsewhere same) pos stop
    (fun rule => ⟨rule.score + left.2 + right.2, .split place cut⟩) place

theorem range_offerCut (represents : model.Represents ln definition) {chart : Chart S}
    (isFor : chart.IsFor model tokens) (pos : 0 < length) (stop : start + length ≤ tokens)
    (cut : Nat) :
    SameElsewhere start length chart (model.offerCut start length chart cut) ∧
      (model.offerCut start length chart cut).range start length =
        (chart.range start length).offerAll
          (model.cutCandidates chart.range start length cut) := by
  rw [offerCut, isFor.filled_eq, isFor.filled_eq, cutCandidates, Holding.offerAll_flatMap]
  refine range_foldl (fun other same left _ => ?_) (.refl isFor.full)
  rw [Holding.offerAll_flatMap]
  refine range_foldl (fun another sameInner right _ => ?_) (.refl same.full)
  exact range_offerPair represents ((isFor.of_sameElsewhere same).of_sameElsewhere sameInner) pos
    stop cut left right

theorem range_offerCuts (represents : model.Represents ln definition) {chart : Chart S}
    (isFor : chart.IsFor model tokens) (pos : 0 < length) (stop : start + length ≤ tokens) :
    let offered := (List.range (length - 1)).foldl
      (fun chart index => model.offerCut start length chart (index + 1)) chart
    SameElsewhere start length chart offered ∧
      offered.range start length =
        (chart.range start length).offerAll ((List.range (length - 1)).flatMap fun index =>
          model.cutCandidates chart.range start length (index + 1)) := by
  simp only [Holding.offerAll_flatMap]
  refine range_foldl (fun other same index member => ?_) (.refl isFor.full)
  have indexLt : index < length - 1 := List.mem_range.mp member
  obtain ⟨sameNext, rangeNext⟩ := range_offerCut represents (isFor.of_sameElsewhere same) pos stop
    (index + 1)
  refine ⟨sameNext, rangeNext.trans (congrArg _ ?_)⟩
  have shorter (otherStart otherLength : Nat) (otherPos : 0 < otherLength)
      (otherLt : otherLength < length) (otherStop : otherStart + otherLength ≤ tokens) :
      other.range otherStart otherLength = chart.range otherStart otherLength :=
    same.range otherStart otherLength otherPos (by rw [isFor.layout]; exact otherStop)
      (Or.inr (Nat.ne_of_lt otherLt))
  exact cutCandidates_congr (shorter _ _ (by omega) (by omega) (by omega))
    (shorter _ _ (by omega) (by omega) (by omega))

/-- Applying an inference whose premises are read off the range offers an entry to the range. -/
theorem range_apply {state : Chart S × Bool} (isFor : state.1.IsFor model tokens)
    (pos : 0 < length) (stop : start + length ≤ tokens) {inference : Inference S Back}
    (headLt : inference.head < model.symbolCount) {left right : S}
    (leftEq : inference.left.score? (state.1.range start length) = some left)
    (rightEq : inference.right.score? (state.1.range start length) = some right) :
    let offered := state.1.offer start length inference.head
      ⟨inference.weight + left + right, inference.reason⟩
    SameElsewhere start length state.1 offered.1 ∧
      inference.apply (state.1.range start length, state.2) =
        (offered.1.range start length, offered.2 || state.2) := by
  obtain ⟨same, offerEq⟩ := range_offer isFor.full (isFor.isSlot pos stop headLt)
    ⟨inference.weight + left + right, inference.reason⟩
  exact ⟨same, by simp only [Inference.apply, leftEq, rightEq, offerEq]⟩

theorem range_relaxRight {state : Chart S × Bool} (isFor : state.1.IsFor model tokens)
    (pos : 0 < length) (stop : start + length ≤ tokens) {rule : WeightedRule S}
    (headLt : rule.head < model.symbolCount) {left : SymbolId}
    (leftLt : left < model.symbolCount) (right : SymbolId) (place : RuleIndex) :
    let next :=
      match state.1.at? start length left, model.nulls.at? right with
      | some entry, some null =>
        let (chart, improved) := state.1.offer start length rule.head
          ⟨rule.score + entry.score + null.score, .emptyRight place⟩
        (chart, improved || state.2)
      | _, _ => state
    SameElsewhere start length state.1 next.1 ∧
      ((model.nulls.at? right).toList.map fun null =>
        ⟨rule.head, .held left, .given null.score, rule.score, .emptyRight place⟩).foldl
          Inference.apply (state.1.range start length, state.2) =
        (next.1.range start length, next.2) := by
  have leftScore : (state.1.range start length).score? left =
      (state.1.at? start length left).map Entry.score :=
    score?_range (by rw [isFor.layout]; exact leftLt)
  cases nullFound : model.nulls.at? right with
  | none => cases state.1.at? start length left <;> exact ⟨.refl isFor.full, rfl⟩
  | some null =>
      cases entryFound : state.1.at? start length left with
      | none =>
          rw [entryFound] at leftScore
          exact ⟨.refl isFor.full, by simp [Inference.apply, Premise.score?, leftScore]⟩
      | some entry =>
          rw [entryFound] at leftScore
          let inference : Inference S Back :=
            ⟨rule.head, .held left, .given null.score, rule.score, .emptyRight place⟩
          have inferenceHeadLt : inference.head < model.symbolCount := headLt
          exact range_apply isFor pos stop inferenceHeadLt leftScore rfl

theorem range_relaxLeft {state : Chart S × Bool} (isFor : state.1.IsFor model tokens)
    (pos : 0 < length) (stop : start + length ≤ tokens) {rule : WeightedRule S}
    (headLt : rule.head < model.symbolCount) (left : SymbolId) {right : SymbolId}
    (rightLt : right < model.symbolCount) (place : RuleIndex) :
    let next :=
      match model.nulls.at? left, state.1.at? start length right with
      | some null, some entry =>
        let (chart, improved) := state.1.offer start length rule.head
          ⟨rule.score + null.score + entry.score, .emptyLeft place⟩
        (chart, improved || state.2)
      | _, _ => state
    SameElsewhere start length state.1 next.1 ∧
      ((model.nulls.at? left).toList.map fun null =>
        ⟨rule.head, .given null.score, .held right, rule.score, .emptyLeft place⟩).foldl
          Inference.apply (state.1.range start length, state.2) =
        (next.1.range start length, next.2) := by
  have rightScore : (state.1.range start length).score? right =
      (state.1.at? start length right).map Entry.score :=
    score?_range (by rw [isFor.layout]; exact rightLt)
  cases nullFound : model.nulls.at? left with
  | none => exact ⟨.refl isFor.full, rfl⟩
  | some null =>
      cases entryFound : state.1.at? start length right with
      | none =>
          rw [entryFound] at rightScore
          exact ⟨.refl isFor.full, by simp [Inference.apply, Premise.score?, rightScore]⟩
      | some entry =>
          rw [entryFound] at rightScore
          let inference : Inference S Back :=
            ⟨rule.head, .given null.score, .held right, rule.score, .emptyLeft place⟩
          have inferenceHeadLt : inference.head < model.symbolCount := headLt
          exact range_apply isFor pos stop inferenceHeadLt rfl rightScore

/-- One rule with an empty side does what its inferences do. -/
theorem range_relaxRule (represents : model.Represents ln definition) {state : Chart S × Bool}
    (isFor : state.1.IsFor model tokens) (pos : 0 < length) (stop : start + length ≤ tokens)
    (place : RuleIndex) :
    SameElsewhere start length state.1 (model.relaxRule start length state place).1 ∧
      (model.rangeInferences place).foldl Inference.apply (state.1.range start length, state.2) =
        ((model.relaxRule start length state place).1.range start length,
          (model.relaxRule start length state place).2) := by
  rw [relaxRule, rangeInferences]
  cases found : model.rules[place]? with
  | none => exact ⟨.refl isFor.full, rfl⟩
  | some rule =>
      cases children : rule.children with
      | none => simp [children, SameElsewhere.refl isFor.full]
      | some pair =>
          obtain ⟨left, right⟩ := pair
          have headLt := represents.head_lt found
          obtain ⟨leftLt, rightLt⟩ := represents.children_lt found children
          simp only [children, List.foldl_append]
          obtain ⟨sameFirst, first⟩ := range_relaxRight isFor pos stop headLt leftLt right place
          obtain ⟨sameSecond, second⟩ := range_relaxLeft (isFor.of_sameElsewhere sameFirst) pos stop
            headLt left rightLt place
          rw [first]
          exact ⟨sameFirst.trans sameSecond, second⟩

theorem range_foldl_relaxRule (represents : model.Represents ln definition)
    (places : List RuleIndex) {state : Chart S × Bool} (isFor : state.1.IsFor model tokens)
    (pos : 0 < length) (stop : start + length ≤ tokens) :
    SameElsewhere start length state.1
        (places.foldl (model.relaxRule start length) state).1 ∧
      (places.flatMap model.rangeInferences).foldl Inference.apply
          (state.1.range start length, state.2) =
        ((places.foldl (model.relaxRule start length) state).1.range start length,
          (places.foldl (model.relaxRule start length) state).2) := by
  induction places generalizing state with
  | nil => exact ⟨.refl isFor.full, rfl⟩
  | cons place rest ih =>
      obtain ⟨sameNext, rangeNext⟩ := range_relaxRule represents isFor pos stop place
      obtain ⟨sameRest, rangeRest⟩ := ih (isFor.of_sameElsewhere sameNext)
      refine ⟨sameNext.trans sameRest, ?_⟩
      rw [List.flatMap_cons, List.foldl_append, rangeNext]
      exact rangeRest

/-- Closing a range is settling what it holds. -/
theorem range_closeRange (represents : model.Represents ln definition) {chart : Chart S}
    (isFor : chart.IsFor model tokens) (pos : 0 < length) (stop : start + length ≤ tokens)
    {candidates : List (SymbolId × S × Back)}
    (first : chart.range start length = Holding.empty.offerAll candidates) :
    SameElsewhere start length chart (model.closeRange start length chart) ∧
      (model.closeRange start length chart).range start length =
        (model.rangeRelaxation candidates).result (model.symbolCount + 1) := by
  rw [closeRange, Relaxation.result]
  simp only [← Array.foldl_toList]
  have agree : ∀ current : Chart S, SameElsewhere start length chart current →
      SameElsewhere start length chart
          (model.tables.binary.toList.foldl (model.relaxRule start length) (current, false)).1 ∧
        (model.rangeRelaxation candidates).pass (current.range start length) =
          ((model.tables.binary.toList.foldl (model.relaxRule start length)
              (current, false)).1.range start length,
            (model.tables.binary.toList.foldl (model.relaxRule start length)
              (current, false)).2) := by
    intro current same
    have currentIsFor : (current, false).1.IsFor model tokens := isFor.of_sameElsewhere same
    obtain ⟨sameNext, rangeNext⟩ := range_foldl_relaxRule represents model.tables.binary.toList
      currentIsFor pos stop
    exact ⟨same.trans sameNext, rangeNext⟩
  obtain ⟨same, settled⟩ := settle_view (fun current : Chart S => current.range start length)
    agree (model.symbolCount + 1) (.refl isFor.full)
  refine ⟨same, settled.trans ?_⟩
  rw [first]
  rfl

end GrammarModel

end QuestionSearch.Grammar
