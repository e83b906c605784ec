import QuestionSearch.Proofs.Grammar.ChartRanges

/-!
# Filling charts

Ranges are filled from short to long and from left to right, each once. What is put into one depends
on shorter ranges only, and those stay as they are. So every range of the finished chart holds what
follows from the shorter ranges of the same chart (`range_chart`).
-/

namespace QuestionSearch.Grammar

variable {S : Type}

/-- A fold keeps what each step takes from one place to the next. -/
theorem foldl_places {α κ : Type} {step : α → κ → α} {holds : Nat → α → Prop} {items : List κ}
    {first : α}
    (each : ∀ place item state, items[place]? = some item → holds place state →
      holds (place + 1) (step state item))
    (start : holds 0 first) : holds items.length (items.foldl step first) := by
  induction items generalizing holds first with
  | nil => exact start
  | cons item rest ih =>
      have shifted : ∀ place later state, rest[place]? = some later → holds (place + 1) state →
          holds (place + 1 + 1) (step state later) :=
        fun place later state found => each (place + 1) later state (by simpa using found)
      exact ih shifted (each 0 item first rfl start)

namespace GrammarModel

open Chart

variable [Add S] [LT S] [DecidableLT S]

/-- Whether a range of a chart holds what follows from the shorter ranges. -/
def RangeFilled (model : GrammarModel S) (tokens : List String) (chart : Chart S)
    (start length : Nat) : Prop :=
  chart.range start length =
    (model.rangeRelaxation (model.rangeCandidates tokens chart.range start length)).result
      (model.symbolCount + 1)

/-- Whether a chart is filled up to a range: all shorter ranges and those of its length that start
before it are filled, and the others are empty. -/
structure FilledTo (model : GrammarModel S) (tokens : List String) (length start : Nat)
    (chart : Chart S) : Prop where
  /-- The slots are those for the tokens. -/
  isFor : chart.IsFor model tokens.length
  /-- The ranges before are filled. -/
  before : ∀ otherStart otherLength, 0 < otherLength →
    otherStart + otherLength ≤ tokens.length →
      otherLength < length ∨ otherLength = length ∧ otherStart < start →
        model.RangeFilled tokens chart otherStart otherLength
  /-- The other ranges are empty. -/
  after : ∀ otherStart otherLength, 0 < otherLength →
    otherStart + otherLength ≤ tokens.length →
      length < otherLength ∨ otherLength = length ∧ start ≤ otherStart →
        chart.range otherStart otherLength = Holding.empty

variable {model : GrammarModel S} {ln : Float → S} {definition : GrammarDefinition}
  {tokens : List String} {start length : Nat}

theorem filledTo_empty :
    model.FilledTo tokens 1 0 (.empty ⟨tokens.length, model.symbolCount⟩) where
  isFor := ⟨rfl, full_empty _⟩
  before := by
    intro otherStart otherLength otherPos _ earlier
    omega
  after := fun _ _ _ _ _ => range_empty ..

/-- After the last range of a length the next length begins. -/
theorem FilledTo.next_length {chart : Chart S}
    (filled : model.FilledTo tokens length (tokens.length + 1 - length) chart) :
    model.FilledTo tokens (length + 1) 0 chart where
  isFor := filled.isFor
  before := by
    intro otherStart otherLength otherPos otherStop earlier
    exact filled.before otherStart otherLength otherPos otherStop (by omega)
  after := by
    intro otherStart otherLength otherPos otherStop later
    exact filled.after otherStart otherLength otherPos otherStop (by omega)

/-- Filling a range from shorter ranges leads to the range after it. -/
theorem FilledTo.next_start {chart next : Chart S}
    (filled : model.FilledTo tokens length start chart) (pos : 0 < length)
    (stop : start + length ≤ tokens.length) (same : SameElsewhere start length chart next)
    (rangeEq : next.range start length =
      (model.rangeRelaxation (model.rangeCandidates tokens chart.range start length)).result
        (model.symbolCount + 1)) :
    model.FilledTo tokens length (start + 1) next := by
  have unchanged (otherStart otherLength : Nat) (otherPos : 0 < otherLength)
      (otherStop : otherStart + otherLength ≤ tokens.length)
      (other : otherStart ≠ start ∨ otherLength ≠ length) :
      next.range otherStart otherLength = chart.range otherStart otherLength := by
    refine same.range otherStart otherLength otherPos ?_ other
    rw [filled.isFor.layout]
    exact otherStop
  -- Up to this length the ranges that a range follows from are shorter than the one filled now.
  have candidatesEq (otherStart otherLength : Nat) (otherPos : 0 < otherLength)
      (otherStop : otherStart + otherLength ≤ tokens.length) (le : otherLength ≤ length) :
      model.rangeCandidates tokens next.range otherStart otherLength =
        model.rangeCandidates tokens chart.range otherStart otherLength := by
    refine rangeCandidates_congr otherPos otherStop ?_
    intro partStart partLength partPos partLt partStop
    exact unchanged partStart partLength partPos partStop (Or.inr (by omega))
  refine ⟨filled.isFor.of_sameElsewhere same, ?_, ?_⟩
  · intro otherStart otherLength otherPos otherStop earlier
    rw [RangeFilled, candidatesEq otherStart otherLength otherPos otherStop (by omega)]
    by_cases this : otherStart = start ∧ otherLength = length
    · obtain ⟨rfl, rfl⟩ := this
      exact rangeEq
    · rw [unchanged otherStart otherLength otherPos otherStop (by omega)]
      exact filled.before otherStart otherLength otherPos otherStop (by omega)
  · intro otherStart otherLength otherPos otherStop later
    rw [unchanged otherStart otherLength otherPos otherStop (by omega)]
    exact filled.after otherStart otherLength otherPos otherStop (by omega)

theorem range_offerTerminals (represents : model.Represents ln definition) {chart : Chart S}
    {count : Nat} (isFor : chart.IsFor model count) (stop : start + 1 ≤ count) (word : String) :
    let offered := (model.terminalRules word).foldl (model.offerTerminal start) chart
    SameElsewhere start 1 chart offered ∧
      offered.range start 1 =
        (chart.range start 1).offerAll
          ((model.terminalRules word).toList.filterMap model.terminalCandidate?) := by
  simp only [← Array.foldl_toList, Holding.offerAll_filterMap]
  refine range_foldl (fun other same place _ => ?_) (.refl isFor.full)
  exact range_offerRule represents (isFor.of_sameElsewhere same) Nat.one_pos stop
    (fun rule => ⟨rule.score, .terminal place⟩) place

theorem filledTo_fillToken (represents : model.Represents ln definition) {chart : Chart S}
    (filled : model.FilledTo tokens 1 start chart) {token : String}
    (found : tokens[start]? = some token) :
    model.FilledTo tokens 1 (start + 1) (model.fillToken chart (token, start)) := by
  obtain ⟨startLt, _⟩ := List.getElem?_eq_some_iff.mp found
  obtain ⟨sameFirst, first⟩ := range_offerTerminals represents filled.isFor startLt token
  rw [filled.after start 1 Nat.one_pos startLt (by omega)] at first
  obtain ⟨same, closed⟩ := range_closeRange represents
    (filled.isFor.of_sameElsewhere sameFirst) Nat.one_pos startLt first
  refine filled.next_start Nat.one_pos startLt (sameFirst.trans same) (closed.trans ?_)
  rw [rangeCandidates, if_pos rfl, found]

theorem filledTo_fillRange (represents : model.Represents ln definition) {chart : Chart S}
    (filled : model.FilledTo tokens length start chart) (long : 1 < length)
    (stop : start + length ≤ tokens.length) :
    model.FilledTo tokens length (start + 1) (model.fillRange length chart start) := by
  have pos : 0 < length := Nat.zero_lt_of_lt long
  obtain ⟨sameFirst, first⟩ := range_offerCuts represents filled.isFor pos stop
  rw [filled.after start length pos stop (by omega)] at first
  obtain ⟨same, closed⟩ := range_closeRange represents
    (filled.isFor.of_sameElsewhere sameFirst) pos stop first
  refine filled.next_start pos stop (sameFirst.trans same) (closed.trans ?_)
  rw [rangeCandidates, if_neg (Nat.ne_of_gt long)]

theorem filledTo_fillLength (represents : model.Represents ln definition) {chart : Chart S}
    (filled : model.FilledTo tokens length 0 chart) (long : 1 < length) :
    model.FilledTo tokens (length + 1) 0 (model.fillLength tokens.length chart length) := by
  have row : model.FilledTo tokens length (List.range (tokens.length + 1 - length)).length
      (model.fillLength tokens.length chart length) := by
    refine foldl_places (fun place item state found placeFilled => ?_) filled
    obtain ⟨placeLt, rfl⟩ := List.getElem?_eq_some_iff.mp found
    simp only [List.length_range] at placeLt
    rw [List.getElem_range]
    exact filledTo_fillRange represents placeFilled long (by omega)
  rw [List.length_range] at row
  exact row.next_length

/-- The finished chart is filled beyond the longest range. -/
theorem filledTo_chart (represents : model.Represents ln definition) :
    model.FilledTo tokens (tokens.length - 1 + 2) 0 (model.chart tokens) := by
  have singles : model.FilledTo tokens 1 tokens.zipIdx.length
      (tokens.zipIdx.foldl model.fillToken (.empty ⟨tokens.length, model.symbolCount⟩)) := by
    refine foldl_places (fun place item state found filled => ?_) filledTo_empty
    obtain ⟨token, index⟩ := item
    rw [List.getElem?_zipIdx, Option.map_eq_some_iff] at found
    obtain ⟨other, otherFound, pairEq⟩ := found
    simp only [Nat.zero_add, Prod.mk.injEq] at pairEq
    obtain ⟨rfl, rfl⟩ := pairEq
    exact filledTo_fillToken represents filled otherFound
  have rows : model.FilledTo tokens ((List.range (tokens.length - 1)).length + 2) 0
      (model.chart tokens) := by
    rw [List.length_zipIdx] at singles
    refine @foldl_places _ _ _ (fun place => model.FilledTo tokens (place + 2) 0) _ _ ?_
      singles.next_length
    intro place item state found filled
    obtain ⟨_, rfl⟩ := List.getElem?_eq_some_iff.mp found
    rw [List.getElem_range]
    exact filledTo_fillLength represents filled (by omega)
  rwa [List.length_range] at rows

theorem isFor_chart (represents : model.Represents ln definition) :
    (model.chart tokens).IsFor model tokens.length :=
  (filledTo_chart represents).isFor

/-- Every range of the finished chart holds what follows from the shorter ranges. -/
theorem range_chart (represents : model.Represents ln definition) (pos : 0 < length)
    (stop : start + length ≤ tokens.length) :
    model.RangeFilled tokens (model.chart tokens) start length :=
  (filledTo_chart represents).before start length pos stop (by omega)

end GrammarModel

end QuestionSearch.Grammar
