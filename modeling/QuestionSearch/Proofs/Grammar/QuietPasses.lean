import QuestionSearch.Proofs.Grammar.Parsing
import QuestionSearch.Proofs.Grammar.TraceableTables

/-!
# Quiet passes

Derivations of the empty word and entries of a range are improved in passes over the rules, until a
pass changes nothing or a limit is reached. With lawful scores the limit is never what ends them
(`passes_come_to_rest`): as many passes as there are nonterminals find the best of everything,
however often one pass improves it, so that at the latest the pass after them is quiet.
-/

namespace QuestionSearch.Grammar

section Loops

variable {α β : Type}

/-- Repeats a pass until it reports no change. Gives nothing if none of so many passes does. -/
def settle? (pass : α → α × Bool) : Nat → α → Option α
  | 0, _ => none
  | passes + 1, state =>
    let (next, changed) := pass state
    if changed then settle? pass passes next else some next

/-- Whether one of so many passes changes nothing, and what is left then. -/
structure ComesToRest (pass : α → α × Bool) (limit : Nat) (first last : α) : Prop where
  /-- This is what the repeated pass gives. -/
  result : settle pass limit first = last
  /-- The limit is not what ends it. -/
  reached : settle? pass limit first = some last
  /-- Another pass changes nothing. -/
  quiet : pass last = (last, false)

variable {pass : α → α × Bool} {limit : Nat} {first last : α}

theorem settle_of_settle? (reached : settle? pass limit first = some last) :
    settle pass limit first = last := by
  induction limit generalizing first with
  | zero => simp [settle?] at reached
  | succ limit ih =>
      simp only [settle?, settle] at reached ⊢
      cases changed : (pass first).2 with
      | true =>
          simp only [changed, if_true] at reached
          exact ih reached
      | false => simpa [changed] using reached

theorem quiet_of_settle? (quiet : ∀ state, (pass state).2 = false → (pass state).1 = state)
    (reached : settle? pass limit first = some last) : pass last = (last, false) := by
  induction limit generalizing first with
  | zero => simp [settle?] at reached
  | succ limit ih =>
      simp only [settle?] at reached
      cases changed : (pass first).2 with
      | true =>
          simp only [changed, if_true] at reached
          exact ih reached
      | false =>
          have same := quiet first changed
          obtain rfl : first = last := by simpa [changed, same] using reached
          exact Prod.ext same changed

/-- If so many passes lead to where a pass reports no change, one more is enough to notice. An
earlier pass without a change leads there as well, since all later ones would repeat it. -/
theorem settle?_succ (quiet : ∀ state, (pass state).2 = false → (pass state).1 = state)
    {passes : Nat} (rest : (pass ((fun state => (pass state).1)^[passes] first)).2 = false) :
    settle? pass (passes + 1) first = some ((fun state => (pass state).1)^[passes] first) := by
  induction passes generalizing first with
  | zero =>
      rw [Function.iterate_zero_apply] at rest ⊢
      simp [settle?, rest, quiet first rest]
  | succ passes ih =>
      rw [settle?]
      cases changed : (pass first).2 with
      | true =>
          rw [Function.iterate_succ_apply] at rest ⊢
          simpa [changed] using ih rest
      | false =>
          have same := quiet first changed
          rw [Function.iterate_fixed (f := fun state => (pass state).1) same]
          simp [changed, same]

/-- Passes come to rest if the same passes do under some view of the states. -/
theorem comesToRest_of_view (view : α → β) {keeps : α → Prop} {viewPass : β → β × Bool}
    (quiet : ∀ state, (pass state).2 = false → (pass state).1 = state)
    (agree : ∀ state, keeps state → keeps (pass state).1 ∧
      viewPass (view state) = (view (pass state).1, (pass state).2))
    (kept : keeps first) {viewLast : β}
    (viewed : settle? viewPass limit (view first) = some viewLast) :
    ComesToRest pass limit first (settle pass limit first) := by
  suffices reached : ∃ last, settle? pass limit first = some last by
    obtain ⟨last, reached⟩ := reached
    rw [settle_of_settle? reached]
    exact ⟨settle_of_settle? reached, reached, quiet_of_settle? quiet reached⟩
  induction limit generalizing first with
  | zero => simp [settle?] at viewed
  | succ limit ih =>
      obtain ⟨keptNext, viewNext⟩ := agree first kept
      simp only [settle?, viewNext] at viewed ⊢
      cases changed : (pass first).2 with
      | true =>
          simp only [changed, if_true] at viewed ⊢
          exact ih keptNext viewed
      | false => exact ⟨(pass first).1, by simp⟩

end Loops

variable {S : Type} [Add S] [LT S] [DecidableLT S]

/-! ## Relaxations -/

namespace Relaxation

variable {ι : Type} {relaxation : Relaxation S ι} {bound : Nat} {IsScore : S → Prop}

/-- A pass over a settled table changes nothing. -/
theorem Settled.pass_eq {table : Holding S ι} (settled : relaxation.Settled bound table) :
    relaxation.pass table = (table, false) := by
  refine foldl_fixed fun inference member => ?_
  rcases inference.apply_cases (table, false) with
    ⟨left, right, leftEq, rightEq, applied⟩ | ⟨_, applied⟩
  · obtain ⟨held, heldEq, heldLe⟩ := settled.closed inference member left right leftEq rightEq
    rcases table.offer_cases inference.head (inference.weight + left + right, inference.reason) with
      ⟨_, better⟩ | ⟨refused, _⟩
    · exact absurd (better held heldEq) heldLe
    · rw [applied, refused, Bool.false_or]
  · exact applied

/-- One pass more than there are nonterminals is quiet. -/
theorem settle?_pass (laws : ScoreLaws S IsScore) (lawful : relaxation.Lawful IsScore bound) :
    settle? relaxation.pass (bound + 1) relaxation.start = some (relaxation.result bound) := by
  have settled := result_settled laws lawful (Nat.le_refl bound)
  rw [result_eq_after] at settled ⊢
  exact settle?_succ (fun _ => pass_quiet) (congrArg Prod.snd settled.pass_eq)

end Relaxation

/-! ## The empty word -/

namespace NullTable

/-- The derivations by the rules for the empty word. -/
def words (symbols : Nat) (rules : Array (WeightedRule S)) (tables : RuleTables) : NullTable S :=
  (tables.byTerminal.getD "" #[]).foldl (offerWord rules) (Array.replicate symbols none)

/-- Offers the derivations by all rules for two nonterminals; says whether one is better. -/
def pass (rules : Array (WeightedRule S)) (tables : RuleTables) (table : NullTable S) :
    NullTable S × Bool :=
  tables.binary.foldl (relax rules) (table, false)

omit [Add S] in
theorem offer_quiet {table : NullTable S} {symbol : SymbolId} {candidate : NullDerivation S}
    (quiet : (table.offer symbol candidate).2 = false) :
    table.offer symbol candidate = (table, false) := by
  rw [offer] at quiet ⊢
  split at quiet
  · cases quiet
  · rename_i refused
    rw [if_neg refused]

theorem relax_quiet {rules : Array (WeightedRule S)} {state : NullTable S × Bool}
    {place : RuleIndex} (quiet : (relax rules state place).2 = false) :
    relax rules state place = state := by
  rcases relax_cases rules state place with ⟨_, _, _, _, _, _, _, _, _, relaxed⟩ | same
  · rw [relaxed, Bool.or_eq_false_iff] at quiet
    rw [relaxed, offer_quiet quiet.2, Bool.or_false]
  · exact same

theorem pass_quiet {rules : Array (WeightedRule S)} {tables : RuleTables} {table : NullTable S}
    (quiet : (pass rules tables table).2 = false) :
    ∀ place ∈ tables.binary, relax rules (table, false) place = (table, false) := by
  rw [pass, ← Array.foldl_toList] at quiet
  intro place member
  exact fixed_of_foldl_quiet (fun _ _ => relax_quiet) quiet place (Array.mem_toList_iff.mpr member)

theorem pass_eq_of_quiet {rules : Array (WeightedRule S)} {tables : RuleTables}
    {table : NullTable S} (quiet : (pass rules tables table).2 = false) :
    (pass rules tables table).1 = table := by
  rw [pass, ← Array.foldl_toList, foldl_fixed fun place member =>
    pass_quiet quiet place (Array.mem_toList_iff.mp member)]

end NullTable

namespace GrammarModel

/-- Whether no rule both of whose nonterminals derive the empty word makes a derivation of the empty
word better. -/
def NullsClosed (model : GrammarModel S) : Prop :=
  ∀ (place : RuleIndex) (rule : WeightedRule S) (left right : SymbolId)
    (leftNull rightNull : NullDerivation S), model.rules[place]? = some rule →
    rule.children = some (left, right) → model.nulls.at? left = some leftNull →
    model.nulls.at? right = some rightNull →
      model.nulls.offer rule.head ⟨rule.score + leftNull.score + rightNull.score, place⟩ =
        (model.nulls, false)

variable {model : GrammarModel S} {ln : Float → S} {definition : GrammarDefinition}
  {IsScore : S → Prop}

theorem nullsClosed_of_quiet (represents : model.Represents ln definition)
    (quiet : NullTable.pass model.rules model.tables model.nulls = (model.nulls, false)) :
    model.NullsClosed := by
  intro place rule left right leftNull rightNull found children leftHeld rightHeld
  have member : place ∈ model.tables.binary :=
    represents.mem_binary_iff.mpr ⟨rule, (left, right), found, children⟩
  have fixed := NullTable.pass_quiet (congrArg Prod.snd quiet) place member
  simp only [NullTable.relax, found, children, leftHeld, rightHeld, Bool.false_or] at fixed
  exact NullTable.offer_quiet (congrArg Prod.snd fixed)

/-- The derivations of the empty word come to rest. -/
theorem comesToRest_nulls (represents : model.Represents ln definition) (laws : ScoreLaws S IsScore)
    (lnScores : ∀ probability, isRuleProbability probability = true → IsScore (ln probability)) :
    ComesToRest (NullTable.pass model.rules model.tables) (model.symbolCount + 1)
      (NullTable.words model.symbolCount model.rules model.tables) model.nulls := by
  have emptySize : (Array.replicate model.symbolCount none : NullTable S).size =
      model.symbolCount := Array.size_replicate
  have started := holding_offerWord represents emptySize (model.terminalRules "").toList
  rw [NullTable.holding_replicate_none, Array.foldl_toList] at started
  have startEq : (NullTable.words model.symbolCount model.rules model.tables).holding =
      model.nullRelaxation.start := started.2
  have agree (table : NullTable S) (tableSize : table.size = model.symbolCount) :
      (NullTable.pass model.rules model.tables table).1.size = model.symbolCount ∧
        model.nullRelaxation.pass table.holding =
          ((NullTable.pass model.rules model.tables table).1.holding,
            (NullTable.pass model.rules model.tables table).2) := by
    rw [NullTable.pass, ← Array.foldl_toList]
    exact holding_foldl_relax represents model.tables.binary.toList tableSize
  have viewed := Relaxation.settle?_pass laws (nullRelaxation_lawful represents lnScores)
  rw [← startEq] at viewed
  rw [represents.nulls]
  exact comesToRest_of_view NullTable.holding (fun _ => NullTable.pass_eq_of_quiet) agree started.1
    viewed

end GrammarModel

/-! ## Ranges -/

omit [Add S] in
theorem Chart.offer_quiet {chart : Chart S} {start length : Nat} {symbol : SymbolId}
    {entry : Entry S} (quiet : (chart.offer start length symbol entry).2 = false) :
    chart.offer start length symbol entry = (chart, false) := by
  rw [offer] at quiet ⊢
  split at quiet
  · cases quiet
  · rename_i refused
    rw [if_neg refused]

namespace GrammarModel

/-- Offers the entries by all rules one of whose nonterminals derives the empty word; says whether
one is better. -/
def closingPass (model : GrammarModel S) (start length : Nat) (chart : Chart S) : Chart S × Bool :=
  model.tables.binary.foldl (model.relaxRule start length) (chart, false)

/-- Whether no rule one of whose nonterminals derives the empty word makes an entry for a range
better. -/
structure RangeClosed (model : GrammarModel S) (chart : Chart S) (start length : Nat) : Prop where
  /-- None the right of whose nonterminals does. -/
  emptyRight : ∀ (place : RuleIndex) (rule : WeightedRule S) (left right : SymbolId)
    (entry : Entry S) (null : NullDerivation S), model.rules[place]? = some rule →
    rule.children = some (left, right) → chart.at? start length left = some entry →
    model.nulls.at? right = some null →
      chart.offer start length rule.head
        ⟨rule.score + entry.score + null.score, .emptyRight place⟩ = (chart, false)
  /-- None the left of whose nonterminals does. -/
  emptyLeft : ∀ (place : RuleIndex) (rule : WeightedRule S) (left right : SymbolId)
    (null : NullDerivation S) (entry : Entry S), model.rules[place]? = some rule →
    rule.children = some (left, right) → model.nulls.at? left = some null →
    chart.at? start length right = some entry →
      chart.offer start length rule.head
        ⟨rule.score + null.score + entry.score, .emptyLeft place⟩ = (chart, false)

variable {model : GrammarModel S} {ln : Float → S} {definition : GrammarDefinition}
  {IsScore : S → Prop} {start length : Nat} {chart : Chart S} {state : Chart S × Bool}
  {place : RuleIndex}

theorem relaxRight_quiet (quiet : (model.relaxRight start length state place).2 = false) :
    model.relaxRight start length state place = state := by
  rcases model.relaxRight_cases start length state place with
    ⟨_, _, _, _, _, _, _, _, _, relaxed⟩ | same
  · rw [relaxed, Bool.or_eq_false_iff] at quiet
    rw [relaxed, Chart.offer_quiet quiet.1, Bool.false_or]
  · exact same

theorem relaxLeft_quiet (quiet : (model.relaxLeft start length state place).2 = false) :
    model.relaxLeft start length state place = state := by
  rcases model.relaxLeft_cases start length state place with
    ⟨_, _, _, _, _, _, _, _, _, relaxed⟩ | same
  · rw [relaxed, Bool.or_eq_false_iff] at quiet
    rw [relaxed, Chart.offer_quiet quiet.1, Bool.false_or]
  · exact same

theorem relaxRule_quiet (quiet : (model.relaxRule start length state place).2 = false) :
    model.relaxRight start length state place = state ∧
      model.relaxLeft start length state place = state := by
  rw [relaxRule_eq] at quiet
  have second := relaxLeft_quiet quiet
  rw [second] at quiet
  have first := relaxRight_quiet quiet
  rw [first] at second
  exact ⟨first, second⟩

theorem closingPass_quiet (quiet : (model.closingPass start length chart).2 = false) :
    ∀ place ∈ model.tables.binary,
      model.relaxRule start length (chart, false) place = (chart, false) := by
  rw [closingPass, ← Array.foldl_toList] at quiet
  intro place member
  refine fixed_of_foldl_quiet (fun state place quiet => ?_) quiet place
    (Array.mem_toList_iff.mpr member)
  obtain ⟨first, second⟩ := relaxRule_quiet quiet
  rw [relaxRule_eq, first, second]

theorem closingPass_eq_of_quiet (quiet : (model.closingPass start length chart).2 = false) :
    (model.closingPass start length chart).1 = chart := by
  rw [closingPass, ← Array.foldl_toList, foldl_fixed fun place member =>
    closingPass_quiet quiet place (Array.mem_toList_iff.mp member)]

theorem rangeClosed_of_quiet (represents : model.Represents ln definition)
    (quiet : model.closingPass start length chart = (chart, false)) :
    model.RangeClosed chart start length := by
  have fixed {place : RuleIndex} {rule : WeightedRule S} {pair : SymbolId × SymbolId}
      (found : model.rules[place]? = some rule) (children : rule.children = some pair) :
      model.relaxRight start length (chart, false) place = (chart, false) ∧
        model.relaxLeft start length (chart, false) place = (chart, false) :=
    relaxRule_quiet <| congrArg Prod.snd <| closingPass_quiet (congrArg Prod.snd quiet) place <|
      represents.mem_binary_iff.mpr ⟨rule, pair, found, children⟩
  refine ⟨?_, ?_⟩
  · intro place rule left right entry null found children held nullHeld
    have same := (fixed found children).1
    simp only [relaxRight, found, children, held, nullHeld, Bool.or_false] at same
    exact Chart.offer_quiet (congrArg Prod.snd same)
  · intro place rule left right null entry found children nullHeld held
    have same := (fixed found children).2
    simp only [relaxLeft, found, children, nullHeld, held, Bool.or_false] at same
    exact Chart.offer_quiet (congrArg Prod.snd same)

/-- Closing a range comes to rest if only scores are held for it. -/
theorem comesToRest_closeRange (represents : model.Represents ln definition)
    (laws : ScoreLaws S IsScore)
    (lnScores : ∀ probability, isRuleProbability probability = true → IsScore (ln probability))
    {tokens : Nat} (isFor : chart.IsFor model tokens) (pos : 0 < length)
    (stop : start + length ≤ tokens)
    (scores : (chart.range start length).All fun symbol held =>
      symbol < model.symbolCount ∧ IsScore held.1) :
    ComesToRest (model.closingPass start length) (model.symbolCount + 1) chart
      (model.closeRange start length chart) := by
  -- The relaxation begins with all that is held when the range is closed. Its inferences are the
  -- same for any candidates.
  let relaxation : Relaxation S Back :=
    ⟨chart.range start length, (model.rangeRelaxation []).inferences⟩
  have lawful : relaxation.Lawful IsScore model.symbolCount :=
    ⟨scores, rangeInferences_lawful represents laws.order lnScores []⟩
  have agree (current : Chart S) (currentIsFor : current.IsFor model tokens) :
      (model.closingPass start length current).1.IsFor model tokens ∧
        relaxation.pass (current.range start length) =
          ((model.closingPass start length current).1.range start length,
            (model.closingPass start length current).2) := by
    rw [closingPass, ← Array.foldl_toList]
    have stateIsFor : (current, false).1.IsFor model tokens := currentIsFor
    obtain ⟨same, rangeEq⟩ := range_foldl_relaxRule represents model.tables.binary.toList
      stateIsFor pos stop
    exact ⟨currentIsFor.of_sameElsewhere same, rangeEq⟩
  exact comesToRest_of_view (fun current : Chart S => current.range start length)
    (fun _ => closingPass_eq_of_quiet) agree isFor (Relaxation.settle?_pass laws lawful)

/-! ## The order of filling -/

/-- The ranges of some tokens in the order in which they are filled. -/
def chartRanges (tokens : List String) : List (Nat × Nat) :=
  (tokens.zipIdx.map fun token => (token.2, 1)) ++
    (List.range (tokens.length - 1)).flatMap fun index =>
      (List.range (tokens.length + 1 - (index + 2))).map fun start => (start, index + 2)

/-- Offers the entries for a range before empty words are considered. -/
def openRange (model : GrammarModel S) (tokens : List String) (chart : Chart S)
    (range : Nat × Nat) : Chart S :=
  if range.2 = 1 then
    match tokens[range.1]? with
    | none => chart
    | some token => (model.terminalRules token).foldl (model.offerTerminal range.1) chart
  else
    (List.range (range.2 - 1)).foldl
      (fun chart index => model.offerCut range.1 range.2 chart (index + 1)) chart

/-- Fills a range. -/
def fillNext (model : GrammarModel S) (tokens : List String) (chart : Chart S)
    (range : Nat × Nat) : Chart S :=
  model.closeRange range.1 range.2 (model.openRange tokens chart range)

theorem mem_chartRanges_iff {tokens : List String} :
    (start, length) ∈ chartRanges tokens ↔ 0 < length ∧ start + length ≤ tokens.length := by
  simp only [chartRanges, List.mem_append, List.mem_map, List.mem_flatMap, List.mem_range,
    Prod.mk.injEq]
  constructor
  · rintro (⟨token, member, rfl, rfl⟩ | ⟨index, indexLt, place, placeLt, rfl, rfl⟩)
    · exact ⟨Nat.one_pos, List.snd_lt_of_mem_zipIdx member⟩
    · omega
  · rintro ⟨pos, stop⟩
    rcases Nat.lt_or_ge 1 length with long | single
    · exact Or.inr ⟨length - 2, by omega, start, by omega, rfl, by omega⟩
    · obtain rfl : length = 1 := by omega
      have found := List.getElem?_eq_getElem (show start < tokens.length from stop)
      exact Or.inl ⟨(tokens[start], start), List.mk_mem_zipIdx_iff_getElem?.mpr found, rfl, rfl⟩

/-- The chart is filled range by range. -/
theorem chart_eq_foldl (tokens : List String) :
    model.chart tokens = (chartRanges tokens).foldl (model.fillNext tokens)
      (.empty ⟨tokens.length, model.symbolCount⟩) := by
  rw [chart, chartRanges, List.foldl_append, List.foldl_map, List.foldl_flatMap]
  have singles : tokens.zipIdx.foldl model.fillToken (.empty ⟨tokens.length, model.symbolCount⟩) =
      tokens.zipIdx.foldl (fun chart token => model.fillNext tokens chart (token.2, 1))
        (.empty ⟨tokens.length, model.symbolCount⟩) := by
    refine List.foldl_ext _ _ _ fun chart token member => ?_
    rw [fillToken, fillNext, openRange, if_pos rfl, List.mem_zipIdx_iff_getElem?.mp member]
  rw [singles]
  refine List.foldl_ext _ _ _ fun chart index _ => ?_
  rw [fillLength, List.foldl_map]
  refine List.foldl_ext _ _ _ fun chart start _ => ?_
  rw [fillRange, fillNext, openRange, if_neg (by omega)]

section Lawful

variable (represents : model.Represents ln definition) (laws : ScoreLaws S IsScore)
  (lnScores : ∀ probability, isRuleProbability probability = true → IsScore (ln probability))
  {tokens : List String}

include represents laws lnScores

theorem ChartTraceable.openRange (traceable : model.ChartTraceable IsScore tokens.length chart)
    (pos : 0 < length) (stop : start + length ≤ tokens.length) :
    model.ChartTraceable IsScore tokens.length (model.openRange tokens chart (start, length)) := by
  rw [GrammarModel.openRange]
  split
  · split
    · exact traceable
    · rename_i single _ token _
      obtain rfl : length = 1 := single
      have inside : (token, start).2 + 1 ≤ tokens.length := stop
      rw [← Array.foldl_toList]
      exact traceable.of_metInToken represents laws lnScores inside (Or.inl metInFold_last)
  · exact traceable.of_metInRange represents laws lnScores pos stop (Or.inl metInFold_last)

theorem chartTraceable_foldl {ranges : List (Nat × Nat)}
    (inside : ∀ range ∈ ranges, 0 < range.2 ∧ range.1 + range.2 ≤ tokens.length)
    (traceable : model.ChartTraceable IsScore tokens.length chart) :
    model.ChartTraceable IsScore tokens.length (ranges.foldl (model.fillNext tokens) chart) := by
  induction ranges generalizing chart with
  | nil => exact traceable
  | cons range rest ih =>
      obtain ⟨pos, stop⟩ := inside range List.mem_cons_self
      refine ih (fun later member => inside later (List.mem_cons_of_mem _ member)) ?_
      exact (traceable.openRange represents laws lnScores pos stop).of_metInClosing represents laws
        lnScores pos stop (model.metInClosing_last _ _ _)

/-- No rule makes an entry of the finished chart better. -/
theorem rangeClosed_chart (pos : 0 < length) (stop : start + length ≤ tokens.length) :
    model.RangeClosed (model.chart tokens) start length := by
  have settled := rangeSettled represents laws lnScores pos stop
  have refused {symbol : SymbolId} {entry : Entry S}
      (atLeast : model.ChartAtLeast tokens start length symbol entry.score) :
      (model.chart tokens).offer start length symbol entry = (model.chart tokens, false) := by
    obtain ⟨held, heldEq, heldLe⟩ := atLeast
    simp [Chart.offer, heldEq, improves, heldLe]
  refine ⟨?_, ?_⟩
  · intro place rule left right entry null found children held nullHeld
    exact refused (settled.emptyRight place rule left right entry null found children held nullHeld)
  · intro place rule left right null entry found children nullHeld held
    exact refused (settled.emptyLeft place rule left right null entry found children nullHeld held)

end Lawful

/-- The limits of the passes never end them. One pass more than there are declared nonterminals is
enough for the derivations of the empty word, and for each range of any tokens when it is closed:
one of these passes changes nothing, and then no rule makes anything better. -/
theorem passes_come_to_rest (laws : ScoreLaws S IsScore)
    (lnScores : ∀ probability, isRuleProbability probability = true → IsScore (ln probability))
    (built : ofDefinition ln definition = .ok model) :
    ComesToRest (NullTable.pass model.rules model.tables) (definition.nonterminals.length + 1)
        (NullTable.words definition.nonterminals.length model.rules model.tables) model.nulls ∧
      model.NullsClosed ∧
    ∀ tokens,
      let empty : Chart S := .empty ⟨tokens.length, definition.nonterminals.length⟩
      model.chart tokens = (chartRanges tokens).foldl (model.fillNext tokens) empty ∧
      (∀ start length, (start, length) ∈ chartRanges tokens ↔
        0 < length ∧ start + length ≤ tokens.length) ∧
      ∀ before start length after, chartRanges tokens = before ++ (start, length) :: after →
        let opened := model.openRange tokens (before.foldl (model.fillNext tokens) empty)
          (start, length)
        let closed := model.closeRange start length opened
        ComesToRest (model.closingPass start length) (definition.nonterminals.length + 1) opened
            closed ∧
          model.RangeClosed closed start length ∧
          model.RangeClosed (model.chart tokens) start length := by
  have represents := represents_of_ofDefinition built
  have countEq : definition.nonterminals.length = model.symbolCount := by
    rw [symbolCount, represents.nonterminals, List.size_toArray]
  rw [countEq]
  have nullsRest := comesToRest_nulls represents laws lnScores
  refine ⟨nullsRest, nullsClosed_of_quiet represents nullsRest.quiet, fun tokens => ?_⟩
  refine ⟨chart_eq_foldl tokens, fun _ _ => mem_chartRanges_iff, ?_⟩
  intro before start length after order opened closed
  have inside : ∀ range ∈ chartRanges tokens, 0 < range.2 ∧ range.1 + range.2 ≤ tokens.length :=
    fun _ => mem_chartRanges_iff.mp
  rw [order] at inside
  obtain ⟨earlier, later⟩ := List.forall_mem_append.mp inside
  obtain ⟨⟨pos, stop⟩, _⟩ := List.forall_mem_cons.mp later
  have traceable : model.ChartTraceable IsScore tokens.length opened :=
    (chartTraceable_foldl represents laws lnScores earlier chartTraceable_empty).openRange
      represents laws lnScores pos stop
  have rest := comesToRest_closeRange represents laws lnScores traceable.isFor pos stop
    (traceable.ranges _ _ pos stop).scores
  exact ⟨rest, rangeClosed_of_quiet represents rest.quiet,
    rangeClosed_chart represents laws lnScores pos stop⟩

theorem passes_come_to_rest_what : ∃ model : GrammarModel ℝ,
    ofDefinition halvingLog trailingGrammar = .ok model ∧ model.NullsClosed ∧
      settle? (NullTable.pass model.rules model.tables) 3
        (NullTable.words 2 model.rules model.tables) = some model.nulls ∧
      settle? (model.closingPass 0 1) 3 (model.openRange ["what"] (.empty ⟨1, 2⟩) (0, 1)) =
        some (model.chart ["what"]) := by
  obtain ⟨model, built⟩ := exists_trailingModel
  obtain ⟨nullsRest, nullsClosed, charts⟩ :=
    passes_come_to_rest scoreLaws_real halvingLog_nonpos built
  obtain ⟨chartEq, _, ranges⟩ := charts ["what"]
  have rangeRest := (ranges [] 0 1 [] rfl).1
  exact ⟨model, built, nullsClosed, nullsRest.reached,
    rangeRest.reached.trans (congrArg some chartEq.symm)⟩

end GrammarModel

end QuestionSearch.Grammar
