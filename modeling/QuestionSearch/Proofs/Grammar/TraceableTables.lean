import QuestionSearch.Proofs.Grammar.BackReferences
import QuestionSearch.Proofs.Grammar.Moments
import QuestionSearch.Proofs.Grammar.SettledChart

/-!
# Traceable tables

At every moment while the derivations of the empty word are found, and while a chart is filled, all
that is held refers to what is held, and no references run in a circle within a range
(`nullsTraceable_of_met`, `chartTraceable_of_met`). Each offer keeps this, whatever was offered
before.
-/

namespace QuestionSearch.Grammar

variable {S : Type}

namespace GrammarModel

/-- The nonterminals on the right of the rule at some place. -/
def children? (model : GrammarModel S) (place : RuleIndex) : Option (SymbolId × SymbolId) :=
  model.rules[place]?.bind WeightedRule.children

/-- What a derivation of the empty word by some rule refers to. -/
def nullSources (model : GrammarModel S) (place : RuleIndex) : List SymbolId :=
  (model.children? place).toList.flatMap fun pair => [pair.1, pair.2]

/-- What an entry refers to over its own range. -/
def backSources (model : GrammarModel S) : Back → List SymbolId
  | .terminal _ | .split _ _ => []
  | .emptyLeft place => (model.children? place).toList.map Prod.snd
  | .emptyRight place => (model.children? place).toList.map Prod.fst

theorem children?_eq {model : GrammarModel S} {place : RuleIndex} {rule : WeightedRule S}
    (found : model.rules[place]? = some rule) : model.children? place = rule.children := by
  rw [children?, found, Option.bind_some]

end GrammarModel

/-- Whether all that an entry refers to outside its own range is held. -/
def Back.Supported (model : GrammarModel S) (chart : Chart S) (start length : Nat) : Back → Prop
  | terminal place => ∃ rule word, model.rules[place]? = some rule ∧ rule.terminal? = some word
  | split place cut => (0 < cut ∧ cut < length) ∧ ∃ left right,
      model.children? place = some (left, right) ∧ (chart.at? start cut left).isSome ∧
      (chart.at? (start + cut) (length - cut) right).isSome
  | emptyLeft place => ∃ left right, model.children? place = some (left, right) ∧
      (model.nulls.at? left).isSome
  | emptyRight place => ∃ left right, model.children? place = some (left, right) ∧
      (model.nulls.at? right).isSome

/-- Whether the slots that are filled in a chart are filled in another one. -/
def Chart.FilledIn (before after : Chart S) : Prop :=
  ∀ start length symbol, (before.at? start length symbol).isSome →
    (after.at? start length symbol).isSome

theorem Chart.FilledIn.trans {first second third : Chart S} (filledIn : first.FilledIn second)
    (next : second.FilledIn third) : first.FilledIn third :=
  fun start length symbol filled => next start length symbol (filledIn start length symbol filled)

theorem Chart.filledIn_offer [LT S] [DecidableLT S] (chart : Chart S) (start length : Nat)
    (symbol : SymbolId) (entry : Entry S) :
    chart.FilledIn (chart.offer start length symbol entry).1 := by
  intro otherStart otherLength other filled
  rw [offer]
  split
  · simp only [at?, put, Array.getElem?_setIfInBounds] at filled ⊢
    split
    · split
      · rfl
      · rename_i same outside
        simp [same ▸ Array.getElem?_eq_none (Nat.le_of_not_lt outside)] at filled
    · exact filled
  · exact filled

theorem Back.Supported.mono {model : GrammarModel S} {before after : Chart S} {start length : Nat}
    {back : Back} (supported : back.Supported model before start length)
    (filledIn : before.FilledIn after) : back.Supported model after start length := by
  cases back with
  | terminal | emptyLeft | emptyRight => exact supported
  | split place cut =>
      obtain ⟨inside, left, right, children, leftFilled, rightFilled⟩ := supported
      exact ⟨inside, left, right, children, filledIn _ _ _ leftFilled, filledIn _ _ _ rightFilled⟩

namespace GrammarModel

variable [Add S] [LT S] [DecidableLT S] {model : GrammarModel S} {ln : Float → S}
  {definition : GrammarDefinition} {IsScore : S → Prop}

/-! ## The empty word -/

/-- Whether the references in a table of derivations lead to what is held and never run in a
circle. -/
structure NullsTraceable (model : GrammarModel S) (IsScore : S → Prop) (table : NullTable S) :
    Prop where
  /-- There is a slot for every nonterminal. -/
  size : table.size = model.symbolCount
  /-- The sources are ahead. -/
  holding : table.holding.Traceable model.nullSources IsScore model.symbolCount
  /-- Each derivation begins with a rule for the empty word or for two nonterminals. -/
  rule : table.holding.All fun _ held => ∃ rule, model.rules[held.2]? = some rule ∧
    (rule.terminal? = some "" ∨ rule.children.isSome)

section Nulls

variable (represents : model.Represents ln definition) (laws : ScoreLaws S IsScore)
  (lnScores : ∀ probability, isRuleProbability probability = true → IsScore (ln probability))
  {table : NullTable S}

include represents laws

theorem NullsTraceable.offer (traceable : model.NullsTraceable IsScore table) {place : RuleIndex}
    {rule : WeightedRule S} (found : model.rules[place]? = some rule)
    (fits : rule.terminal? = some "" ∨ rule.children.isSome) {score : S} (isScore : IsScore score)
    (sources : ∀ source ∈ model.nullSources place, table.holding.AtLeast source score) :
    model.NullsTraceable IsScore (table.offer rule.head ⟨score, place⟩).1 := by
  have headLt := represents.head_lt found
  have holdingEq : (table.offer rule.head ⟨score, place⟩).1.holding =
      (table.holding.offer rule.head (score, place)).1 := by
    rw [NullTable.holding_offer (traceable.size ▸ headLt) ⟨score, place⟩]
  refine ⟨(NullTable.size_offer ..).trans traceable.size, ?_, ?_⟩
  · rw [holdingEq]
    exact traceable.holding.offer laws headLt isScore sources
  · rw [holdingEq]
    exact Holding.all_offer traceable.rule ⟨rule, found, fits⟩

include lnScores

theorem NullsTraceable.offerWord (traceable : model.NullsTraceable IsScore table)
    {place : RuleIndex} (member : place ∈ model.terminalRules "") :
    model.NullsTraceable IsScore (table.offerWord model.rules place) := by
  obtain ⟨rule, found, terminal⟩ := represents.mem_terminalRules_iff.mp member
  have noChildren : model.children? place = none := by
    rw [children?_eq found]
    have word := (represents.terminal?_eq_none_iff found).not
    simpa [terminal] using word
  simp only [NullTable.offerWord, found]
  refine traceable.offer represents laws found (Or.inl terminal) (represents.isScore lnScores found)
    ?_
  simp [nullSources, noChildren]

theorem NullsTraceable.relax {state : NullTable S × Bool}
    (traceable : model.NullsTraceable IsScore state.1) (place : RuleIndex) :
    model.NullsTraceable IsScore (NullTable.relax model.rules state place).1 := by
  rcases NullTable.relax_cases model.rules state place with
    ⟨rule, left, right, leftNull, rightNull, found, children, leftFound, rightFound, relaxed⟩ | same
  case inr => exact same.symm ▸ traceable
  have leftHeld : state.1.holding left = some (leftNull.score, leftNull.rule) :=
    NullTable.holding_eq_some_iff.mpr leftFound
  have rightHeld : state.1.holding right = some (rightNull.score, rightNull.rule) :=
    NullTable.holding_eq_some_iff.mpr rightFound
  have weightScore := represents.isScore lnScores found
  have leftScore := (traceable.holding.scores _ _ leftHeld).2
  have rightScore := (traceable.holding.scores _ _ rightHeld).2
  rw [relaxed]
  refine traceable.offer represents laws found (Or.inr (by simp [children]))
    (laws.isScore_total weightScore leftScore rightScore) ?_
  intro source member
  have sides : source = left ∨ source = right := by
    simpa [nullSources, children?_eq found, children] using member
  rcases sides with rfl | rfl
  · exact ⟨_, leftHeld, laws.total_le_left weightScore leftScore rightScore⟩
  · exact ⟨_, rightHeld, laws.total_le_right weightScore leftScore rightScore⟩

/-- At every moment while the derivations of the empty word are found, the table is traceable. -/
theorem nullsTraceable_of_met
    (isMet : NullTable.MetInBuild model.symbolCount model.rules model.tables table) :
    model.NullsTraceable IsScore table := by
  have first : model.NullsTraceable IsScore (Array.replicate model.symbolCount none) := by
    refine ⟨Array.size_replicate, ?_, ?_⟩ <;> rw [NullTable.holding_replicate_none]
    · exact Holding.traceable_empty
    · exact Holding.all_empty _
  have words {table : NullTable S}
      (isMet : MetBetween (NullTable.offerWord model.rules) (model.terminalRules "").toList
        (Array.replicate model.symbolCount none) table) : model.NullsTraceable IsScore table :=
    isMet.keeps_between (model.NullsTraceable IsScore) (fun before traceable place member =>
      traceable.offerWord represents laws lnScores (Array.mem_toList_iff.mp member)) first
  rcases isMet with inWords | inPasses
  · exact words inWords
  · refine inPasses.keeps _ (NullTable.metInPass_last _ _) ?_ ?_
    · rintro before traceable state ⟨changed, inPass⟩
      exact inPass.keeps_between (fun state => model.NullsTraceable IsScore state.1)
        (fun state kept place _ => kept.relax represents laws lnScores place) traceable
    · rw [← Array.foldl_toList]
      exact words metInFold_last

end Nulls

/-! ## Charts -/

/-- Whether the references in a chart lead to what is held and never run in a circle within a
range. -/
structure ChartTraceable (model : GrammarModel S) (IsScore : S → Prop) (tokens : Nat)
    (chart : Chart S) : Prop where
  /-- The slots are those for the tokens. -/
  isFor : chart.IsFor model tokens
  /-- The sources within a range are ahead. -/
  ranges : ∀ start length, 0 < length → start + length ≤ tokens →
    (chart.range start length).Traceable model.backSources IsScore model.symbolCount
  /-- What is outside is held. -/
  supported : ∀ start length, 0 < length → start + length ≤ tokens →
    (chart.range start length).All fun _ held => held.2.Supported model chart start length

section Charts

variable (represents : model.Represents ln definition) (laws : ScoreLaws S IsScore)
  (lnScores : ∀ probability, isRuleProbability probability = true → IsScore (ln probability))
  {tokens start length : Nat} {chart : Chart S}

omit [Add S] [DecidableLT S] in
theorem chartTraceable_empty :
    model.ChartTraceable IsScore tokens (.empty ⟨tokens, model.symbolCount⟩) where
  isFor := ⟨rfl, Chart.full_empty _⟩
  ranges := by
    intro start length _ _
    rw [Chart.range_empty]
    exact Holding.traceable_empty
  supported := by
    intro start length _ _
    rw [Chart.range_empty]
    exact Holding.all_empty _

omit [Add S] [DecidableLT S] in
theorem ChartTraceable.range_eq_some (traceable : model.ChartTraceable IsScore tokens chart)
    {symbol : SymbolId} (symbolLt : symbol < model.symbolCount) {entry : Entry S}
    (held : chart.at? start length symbol = some entry) :
    chart.range start length symbol = some (entry.score, entry.back) :=
  Chart.range_eq_some_iff.mpr ⟨by rwa [traceable.isFor.layout], held⟩

omit [Add S] [DecidableLT S] in
theorem ChartTraceable.isScore (traceable : model.ChartTraceable IsScore tokens chart)
    (pos : 0 < length) (stop : start + length ≤ tokens) {symbol : SymbolId}
    (symbolLt : symbol < model.symbolCount) {entry : Entry S}
    (held : chart.at? start length symbol = some entry) : IsScore entry.score :=
  ((traceable.ranges _ _ pos stop).scores _ _ (traceable.range_eq_some symbolLt held)).2

include laws

theorem ChartTraceable.offer (traceable : model.ChartTraceable IsScore tokens chart)
    (pos : 0 < length) (stop : start + length ≤ tokens) {symbol : SymbolId}
    (symbolLt : symbol < model.symbolCount) {entry : Entry S} (isScore : IsScore entry.score)
    (supported : entry.back.Supported model chart start length)
    (sources : ∀ source ∈ model.backSources entry.back,
      (chart.range start length).AtLeast source entry.score) :
    model.ChartTraceable IsScore tokens (chart.offer start length symbol entry).1 := by
  obtain ⟨same, offerEq⟩ := Chart.range_offer traceable.isFor.full
    (traceable.isFor.isSlot pos stop symbolLt) entry
  have ownRange : (chart.offer start length symbol entry).1.range start length =
      ((chart.range start length).offer symbol (entry.score, entry.back)).1 := by rw [offerEq]
  have filledIn := chart.filledIn_offer start length symbol entry
  have otherRange (otherStart otherLength : Nat) (otherPos : 0 < otherLength)
      (otherStop : otherStart + otherLength ≤ tokens)
      (other : ¬ (otherStart = start ∧ otherLength = length)) :
      (chart.offer start length symbol entry).1.range otherStart otherLength =
        chart.range otherStart otherLength :=
    same.range otherStart otherLength otherPos (by rw [traceable.isFor.layout]; exact otherStop)
      (by omega)
  refine ⟨traceable.isFor.of_sameElsewhere same, ?_, ?_⟩
  · intro otherStart otherLength otherPos otherStop
    by_cases this : otherStart = start ∧ otherLength = length
    · obtain ⟨rfl, rfl⟩ := this
      rw [ownRange]
      exact (traceable.ranges _ _ pos stop).offer laws symbolLt isScore sources
    · rw [otherRange otherStart otherLength otherPos otherStop this]
      exact traceable.ranges _ _ otherPos otherStop
  · intro otherStart otherLength otherPos otherStop
    have before := traceable.supported otherStart otherLength otherPos otherStop
    by_cases this : otherStart = start ∧ otherLength = length
    · obtain ⟨rfl, rfl⟩ := this
      rw [ownRange]
      exact Holding.all_offer (fun query held heldEq => (before query held heldEq).mono filledIn)
        (supported.mono filledIn)
    · rw [otherRange otherStart otherLength otherPos otherStop this]
      exact fun query held heldEq => (before query held heldEq).mono filledIn

include represents

/-- Offering an entry that refers to another one of the same range and to the empty word. -/
theorem ChartTraceable.offerBeside (traceable : model.ChartTraceable IsScore tokens chart)
    (pos : 0 < length) (stop : start + length ≤ tokens) {place : RuleIndex} {rule : WeightedRule S}
    (found : model.rules[place]? = some rule) {source : SymbolId}
    (sourceLt : source < model.symbolCount) {held : Entry S}
    (sourceHeld : chart.at? start length source = some held) {entry : Entry S}
    (isScore : IsScore entry.score) (le : ¬ held.score < entry.score)
    (sources : model.backSources entry.back = [source])
    (supported : entry.back.Supported model chart start length) :
    model.ChartTraceable IsScore tokens (chart.offer start length rule.head entry).1 := by
  refine traceable.offer laws pos stop (represents.head_lt found) isScore supported ?_
  intro other member
  obtain rfl : other = source := by simpa [sources] using member
  exact ⟨_, traceable.range_eq_some sourceLt sourceHeld, le⟩

include lnScores

theorem ChartTraceable.offerTerminal (traceable : model.ChartTraceable IsScore tokens chart)
    (stop : start + 1 ≤ tokens) {token : String} {place : RuleIndex}
    (member : place ∈ model.terminalRules token) :
    model.ChartTraceable IsScore tokens (model.offerTerminal start chart place) := by
  obtain ⟨rule, found, terminal⟩ := represents.mem_terminalRules_iff.mp member
  simp only [GrammarModel.offerTerminal, found]
  exact traceable.offer laws Nat.one_pos stop (represents.head_lt found)
    (represents.isScore lnScores found) ⟨rule, token, found, terminal⟩ (by simp [backSources])

theorem ChartTraceable.relaxRight {state : Chart S × Bool}
    (traceable : model.ChartTraceable IsScore tokens state.1) (pos : 0 < length)
    (stop : start + length ≤ tokens) (place : RuleIndex) :
    model.ChartTraceable IsScore tokens (model.relaxRight start length state place).1 := by
  rcases model.relaxRight_cases start length state place with
    ⟨rule, left, right, entry, null, found, children, entryHeld, nullHeld, relaxed⟩ | same
  case inr => exact same.symm ▸ traceable
  have childrenEq := (children?_eq found).trans children
  have leftLt := (represents.children_lt found children).1
  have weightScore := represents.isScore lnScores found
  have entryScore := traceable.isScore pos stop leftLt entryHeld
  have nullScore := isScore_nulls represents laws.order lnScores nullHeld
  rw [relaxed]
  exact traceable.offerBeside represents laws pos stop found leftLt entryHeld
    (laws.isScore_total weightScore entryScore nullScore)
    (laws.total_le_left weightScore entryScore nullScore) (by simp [backSources, childrenEq])
    ⟨left, right, childrenEq, by simp [nullHeld]⟩

theorem ChartTraceable.relaxLeft {state : Chart S × Bool}
    (traceable : model.ChartTraceable IsScore tokens state.1) (pos : 0 < length)
    (stop : start + length ≤ tokens) (place : RuleIndex) :
    model.ChartTraceable IsScore tokens (model.relaxLeft start length state place).1 := by
  rcases model.relaxLeft_cases start length state place with
    ⟨rule, left, right, null, entry, found, children, nullHeld, entryHeld, relaxed⟩ | same
  case inr => exact same.symm ▸ traceable
  have childrenEq := (children?_eq found).trans children
  have rightLt := (represents.children_lt found children).2
  have weightScore := represents.isScore lnScores found
  have entryScore := traceable.isScore pos stop rightLt entryHeld
  have nullScore := isScore_nulls represents laws.order lnScores nullHeld
  rw [relaxed]
  exact traceable.offerBeside represents laws pos stop found rightLt entryHeld
    (laws.isScore_total weightScore nullScore entryScore)
    (laws.total_le_right weightScore nullScore entryScore) (by simp [backSources, childrenEq])
    ⟨left, right, childrenEq, by simp [nullHeld]⟩

theorem ChartTraceable.of_metInClosing {first : Chart S}
    (traceable : model.ChartTraceable IsScore tokens first) (pos : 0 < length)
    (stop : start + length ≤ tokens) (isMet : model.MetInClosing start length first chart) :
    model.ChartTraceable IsScore tokens chart := by
  refine isMet.keeps (model.ChartTraceable IsScore tokens) (model.metInPass_last start length) ?_
    traceable
  rintro before kept state ⟨changed, inPass⟩
  refine inPass.keeps (fun state => model.ChartTraceable IsScore tokens state.1) ?_ kept
  intro before kept place _
  have half := kept.relaxRight represents laws lnScores pos stop place
  refine ⟨?_, ?_⟩
  · rw [relaxRule_eq]
    exact half.relaxLeft represents laws lnScores pos stop place
  · rintro state (rfl | rfl)
    · exact kept
    · exact half

theorem ChartTraceable.of_metInToken {first : Chart S}
    (traceable : model.ChartTraceable IsScore tokens first) {token : String × Nat}
    (stop : token.2 + 1 ≤ tokens) (isMet : model.MetInToken first token chart) :
    model.ChartTraceable IsScore tokens chart := by
  have offers {chart : Chart S}
      (isMet : MetBetween (model.offerTerminal token.2) (model.terminalRules token.1).toList first
        chart) : model.ChartTraceable IsScore tokens chart :=
    isMet.keeps_between (model.ChartTraceable IsScore tokens) (fun before kept place member =>
      kept.offerTerminal represents laws lnScores stop (Array.mem_toList_iff.mp member)) traceable
  rcases isMet with inOffers | inClosing
  · exact offers inOffers
  · refine ChartTraceable.of_metInClosing represents laws lnScores ?_ Nat.one_pos stop inClosing
    rw [← Array.foldl_toList]
    exact offers metInFold_last

omit [Add S] [DecidableLT S] represents laws lnScores in
theorem ChartTraceable.of_mem_filled (traceable : model.ChartTraceable IsScore tokens chart)
    (pos : 0 < length) (stop : start + length ≤ tokens) {held : SymbolId × S}
    (member : held ∈ chart.filled start length) :
    IsScore held.2 ∧ (chart.at? start length held.1).isSome := by
  rw [traceable.isFor.filled_eq] at member
  obtain ⟨symbolLt, scoreEq⟩ := Holding.mem_filled_iff.mp member
  obtain ⟨reason, heldEq⟩ := Holding.score?_eq_some_iff.mp scoreEq
  exact ⟨((traceable.ranges _ _ pos stop).scores _ _ heldEq).2,
    by rw [(Chart.range_eq_some_iff.mp heldEq).2]; rfl⟩

/-- The parts of a cut were filled when its first entry was offered, and they stay so. -/
theorem ChartTraceable.offerSplit {first : Chart S}
    (traceable : model.ChartTraceable IsScore tokens first) {cut : Nat} (cutPos : 0 < cut)
    (cutLt : cut < length) (stop : start + length ≤ tokens) {left right : SymbolId × S}
    (leftMem : left ∈ first.filled start cut)
    (rightMem : right ∈ first.filled (start + cut) (length - cut)) {place : RuleIndex}
    (member : place ∈ model.pairRules left.1 right.1)
    (kept : model.ChartTraceable IsScore tokens chart ∧ first.FilledIn chart) :
    model.ChartTraceable IsScore tokens
        (model.offerSplit start length cut left.2 right.2 chart place) ∧
      first.FilledIn (model.offerSplit start length cut left.2 right.2 chart place) := by
  obtain ⟨rule, found, children⟩ := represents.mem_pairRules_iff.mp member
  obtain ⟨leftScore, leftFilled⟩ := traceable.of_mem_filled cutPos (by omega) leftMem
  obtain ⟨rightScore, rightFilled⟩ :=
    traceable.of_mem_filled (by omega) (by omega : start + cut + (length - cut) ≤ tokens) rightMem
  simp only [GrammarModel.offerSplit, found]
  refine ⟨kept.1.offer laws (by omega) stop (represents.head_lt found)
    (laws.isScore_total (represents.isScore lnScores found) leftScore rightScore) ?_
    (by simp [backSources]), kept.2.trans (chart.filledIn_offer _ _ _ _)⟩
  exact ⟨⟨cutPos, cutLt⟩, left.1, right.1, (children?_eq found).trans children,
    kept.2 _ _ _ leftFilled, kept.2 _ _ _ rightFilled⟩

theorem ChartTraceable.of_metInCut {first : Chart S}
    (traceable : model.ChartTraceable IsScore tokens first) {cut : Nat} (cutPos : 0 < cut)
    (cutLt : cut < length) (stop : start + length ≤ tokens)
    (isMet : model.MetInCut start length cut first chart) :
    model.ChartTraceable IsScore tokens chart := by
  -- The parts are read off the chart as it was before the first offer, so that what is filled there
  -- has to stay filled.
  let holds : Chart S → Prop := fun chart =>
    model.ChartTraceable IsScore tokens chart ∧ first.FilledIn chart
  suffices holds chart from this.1
  refine isMet.keeps_within holds (fun _ _ => metInFold_last) ?_
    ⟨traceable, fun _ _ _ filled => filled⟩
  intro before kept left leftMem state inLeft
  refine inLeft.keeps_within holds (fun chart right => ?_) ?_ kept
  · rw [offerPair_eq]
    exact metInFold_last
  · intro before kept right rightMem state inRight
    exact inRight.keeps_between holds (fun before kept place member =>
      traceable.offerSplit represents laws lnScores cutPos cutLt stop leftMem rightMem
        (Array.mem_toList_iff.mp member) kept) kept

theorem ChartTraceable.of_metInRange {first : Chart S}
    (traceable : model.ChartTraceable IsScore tokens first) (pos : 0 < length)
    (stop : start + length ≤ tokens) (isMet : model.MetInRange length first start chart) :
    model.ChartTraceable IsScore tokens chart := by
  have cuts {chart : Chart S}
      (isMet : MetInFold (fun chart index => model.offerCut start length chart (index + 1))
        (fun first index => model.MetInCut start length (index + 1) first)
        (List.range (length - 1)) first chart) : model.ChartTraceable IsScore tokens chart := by
    refine isMet.keeps_within _ (fun _ _ => metInFold_last) ?_ traceable
    intro before kept index member state inCut
    have indexLt : index < length - 1 := List.mem_range.mp member
    exact kept.of_metInCut represents laws lnScores (Nat.succ_pos _) (by omega) stop inCut
  rcases isMet with inCuts | inClosing
  · exact cuts inCuts
  · exact (cuts metInFold_last).of_metInClosing represents laws lnScores pos stop inClosing

/-- At every moment while a chart is filled it is traceable. -/
theorem chartTraceable_of_met {words : List String} (isMet : model.MetInChart words chart) :
    model.ChartTraceable IsScore words.length chart := by
  have singles {chart : Chart S}
      (isMet : MetInFold model.fillToken model.MetInToken words.zipIdx
        (.empty ⟨words.length, model.symbolCount⟩) chart) :
      model.ChartTraceable IsScore words.length chart := by
    refine isMet.keeps_within _ model.metInToken_last ?_ chartTraceable_empty
    rintro before kept ⟨token, place⟩ member state inToken
    have placeLt : place < words.length := by simpa using (List.mem_zipIdx member).2.1
    have stop : (token, place).2 + 1 ≤ words.length := placeLt
    exact kept.of_metInToken represents laws lnScores stop inToken
  rcases isMet with inSingles | inRows
  · exact singles inSingles
  · refine inRows.keeps_within _
      (fun first index => model.metInLength_last words.length first (index + 2)) ?_
      (singles metInFold_last)
    intro before kept index _ state inLength
    refine inLength.keeps_within _ (model.metInRange_last (index + 2)) ?_ kept
    intro before kept start member state inRange
    have startLt : start < words.length + 1 - (index + 2) := List.mem_range.mp member
    exact kept.of_metInRange represents laws lnScores (Nat.succ_pos _) (by omega) inRange

end Charts

end GrammarModel

end QuestionSearch.Grammar
