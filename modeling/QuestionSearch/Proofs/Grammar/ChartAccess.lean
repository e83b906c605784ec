import QuestionSearch.Proofs.Grammar.Moments
import QuestionSearch.Proofs.Grammar.Parsing

/-!
# Access to charts

The parser once more, with the chart out of its reach: it looks at slots, lists what is held for a
range and offers entries by a record of functions in some monad, and has no other way to a chart.
So it shows each of its accesses. They are all to slots that exist: through any access that does for
slots what a chart does, whatever it does elsewhere, the parser finds what it finds on a chart
(`parse?_eq_pure`). One that fails everywhere else never fails (`slots_exact_and_respected`).
-/

namespace QuestionSearch.Grammar

/-- The ways in which a parser looks at charts and changes them. -/
structure ChartAccess (m : Type → Type) (S C : Type) where
  /-- A chart without entries. -/
  empty : ChartLayout → C
  /-- Looks at the entry for a range and a nonterminal. -/
  entry : C → Nat → Nat → SymbolId → m (Option (Entry S))
  /-- Lists the nonterminals that derive a range, in order, with their scores. -/
  filled : C → Nat → Nat → m (List (SymbolId × S))
  /-- Keeps an entry if it is better than the one held; says whether it is. -/
  offer : C → Nat → Nat → SymbolId → Entry S → m (C × Bool)

section Loops

variable {m : Type → Type} [Monad m] {α κ : Type}

/-- Repeats a pass until it reports no change, at most so many times. -/
def settleM (pass : α → m (α × Bool)) : Nat → α → m α
  | 0, state => pure state
  | passes + 1, state => do
    let (next, changed) ← pass state
    if changed then settleM pass passes next else pure next

variable [LawfulMonad m] (holds : α → Prop)

/-- Steps that have no effects in the states they are taken in have none one after the other. -/
theorem foldlM_eq_pure {stepM : α → κ → m α} {step : α → κ → α} {items : List κ}
    (each : ∀ state, holds state → ∀ item ∈ items,
      stepM state item = pure (step state item) ∧ holds (step state item))
    {first : α} (start : holds first) :
    items.foldlM stepM first = pure (items.foldl step first) ∧ holds (items.foldl step first) := by
  induction items generalizing first with
  | nil => exact ⟨rfl, start⟩
  | cons item rest ih =>
      obtain ⟨now, next⟩ := each first start item List.mem_cons_self
      rw [List.foldlM_cons, now, pure_bind, List.foldl_cons]
      exact ih (fun state kept other member =>
        each state kept other (List.mem_cons_of_mem _ member)) next

theorem settleM_eq_pure {passM : α → m (α × Bool)} {pass : α → α × Bool}
    (each : ∀ state, holds state → passM state = pure (pass state) ∧ holds (pass state).1)
    (passes : Nat) {first : α} (start : holds first) :
    settleM passM passes first = pure (settle pass passes first) ∧
      holds (settle pass passes first) := by
  induction passes generalizing first with
  | zero => exact ⟨rfl, start⟩
  | succ passes ih =>
      obtain ⟨now, next⟩ := each first start
      simp only [settleM, settle, now, pure_bind]
      cases (pass first).2 with
      | true => exact ih next
      | false => exact ⟨rfl, next⟩

/-- What follows a step without effects has none if it has none after the result of that step. -/
theorem mk_pure_bind {β : Type} {found? : Option α} {next : α → OptionT m β} {result : α → Option β}
    (agree : ∀ found, found? = some found → next found = OptionT.mk (pure (result found))) :
    (OptionT.mk (pure found?) >>= next) = OptionT.mk (pure (found? >>= result)) := by
  apply OptionT.ext
  cases found? with
  | none => simp
  | some found => simp [agree found rfl]

end Loops

/-! ## The parser -/

namespace ChartAccess

variable {m : Type → Type} [Monad m] {S C : Type} [Add S] (access : ChartAccess m S C)
  (model : GrammarModel S)

/-- Offers the entry by a rule for the token at a place. -/
def offerTerminal (place : Nat) (chart : C) (index : RuleIndex) : m C :=
  match model.rules[index]? with
  | none => pure chart
  | some rule => Prod.fst <$> access.offer chart place 1 rule.head ⟨rule.score, .terminal index⟩

/-- Offers the entry by a rule the right of whose nonterminals derives the empty word. -/
def relaxRight (start length : Nat) (state : C × Bool) (index : RuleIndex) : m (C × Bool) :=
  match model.rules[index]? with
  | none => pure state
  | some rule =>
    match rule.children with
    | none => pure state
    | some (left, right) => do
      let entry? ← access.entry state.1 start length left
      match entry?, model.nulls.at? right with
      | some entry, some null =>
        let (chart, improved) ← access.offer state.1 start length rule.head
          ⟨rule.score + entry.score + null.score, .emptyRight index⟩
        pure (chart, improved || state.2)
      | _, _ => pure state

/-- Offers the entry by a rule the left of whose nonterminals derives the empty word. -/
def relaxLeft (start length : Nat) (state : C × Bool) (index : RuleIndex) : m (C × Bool) :=
  match model.rules[index]? with
  | none => pure state
  | some rule =>
    match rule.children with
    | none => pure state
    | some (left, right) => do
      let entry? ← access.entry state.1 start length right
      match model.nulls.at? left, entry? with
      | some null, some entry =>
        let (chart, improved) ← access.offer state.1 start length rule.head
          ⟨rule.score + null.score + entry.score, .emptyLeft index⟩
        pure (chart, improved || state.2)
      | _, _ => pure state

/-- Offers the two entries by a rule one of whose nonterminals derives the empty word. -/
def relaxRule (start length : Nat) (state : C × Bool) (index : RuleIndex) : m (C × Bool) := do
  let state ← access.relaxRight model start length state index
  access.relaxLeft model start length state index

/-- Applies the rules one of whose nonterminals derives the empty word until a range is settled. -/
def closeRange (start length : Nat) (chart : C) : m C :=
  settleM (fun chart =>
      model.tables.binary.foldlM (access.relaxRule model start length) (chart, false))
    (model.symbolCount + 1) chart

/-- Fills the range of one token. -/
def fillToken (chart : C) (token : String × Nat) : m C := do
  let chart ← (model.terminalRules token.1).foldlM (access.offerTerminal model token.2) chart
  access.closeRange model token.2 1 chart

/-- Offers the entry by a rule for the two parts of a cut. -/
def offerSplit (start length cut : Nat) (left right : S) (chart : C) (index : RuleIndex) : m C :=
  match model.rules[index]? with
  | none => pure chart
  | some rule =>
    Prod.fst <$> access.offer chart start length rule.head
      ⟨rule.score + left + right, .split index cut⟩

/-- Offers the entries for one cut of a range. -/
def offerCut (start length : Nat) (chart : C) (cut : Nat) : m C := do
  let lefts ← access.filled chart start cut
  let rights ← access.filled chart (start + cut) (length - cut)
  lefts.foldlM
    (fun chart left =>
      rights.foldlM
        (fun chart right => (model.pairRules left.1 right.1).foldlM
          (access.offerSplit model start length cut left.2 right.2) chart)
        chart)
    chart

/-- Fills a range of more than one token. -/
def fillRange (length : Nat) (chart : C) (start : Nat) : m C := do
  let chart ← (List.range (length - 1)).foldlM
    (fun chart index => access.offerCut model start length chart (index + 1)) chart
  access.closeRange model start length chart

/-- Fills the ranges of a length. -/
def fillLength (tokens : Nat) (chart : C) (length : Nat) : m C :=
  (List.range (tokens + 1 - length)).foldlM (access.fillRange model length) chart

/-- The chart of some tokens. -/
def chart (tokens : List String) : m C := do
  let singles ← tokens.zipIdx.foldlM (access.fillToken model)
    (access.empty ⟨tokens.length, model.symbolCount⟩)
  (List.range (tokens.length - 1)).foldlM
    (fun chart index => access.fillLength model tokens.length chart (index + 2)) singles

/-- The tree that the entries of a chart describe, of at most so many levels above empty words. -/
def treeWithin? (chart : C) : Nat → Nat → Nat → SymbolId → OptionT m (ParseTree S)
  | 0, _, _, _ => OptionT.mk (pure none)
  | levels + 1, start, length, symbol => do
    let entry ← OptionT.mk (access.entry chart start length symbol)
    let label := model.symbolName symbol
    match entry.back with
    | .terminal index =>
      let rule ← OptionT.mk (pure model.rules[index]?)
      let word ← OptionT.mk (pure rule.terminal?)
      OptionT.mk (pure (some (.leaf label word ⟨start, start + length⟩ entry.score)))
    | .split index cut =>
      let rule ← OptionT.mk (pure model.rules[index]?)
      let (left, right) ← OptionT.mk (pure rule.children)
      let leftTree ← treeWithin? chart levels start cut left
      let rightTree ← treeWithin? chart levels (start + cut) (length - cut) right
      OptionT.mk (pure (some (.branch label leftTree rightTree entry.score)))
    | .emptyRight index =>
      let rule ← OptionT.mk (pure model.rules[index]?)
      let (left, right) ← OptionT.mk (pure rule.children)
      let leftTree ← treeWithin? chart levels start length left
      let rightTree ← OptionT.mk (pure (model.nullTree? right (start + length)))
      OptionT.mk (pure (some (.branch label leftTree rightTree entry.score)))
    | .emptyLeft index =>
      let rule ← OptionT.mk (pure model.rules[index]?)
      let (left, right) ← OptionT.mk (pure rule.children)
      let leftTree ← OptionT.mk (pure (model.nullTree? left start))
      let rightTree ← treeWithin? chart levels start length right
      OptionT.mk (pure (some (.branch label leftTree rightTree entry.score)))

/-- The best tree of some tokens from the start symbol, with the score of every part. -/
def parse? (tokens : List String) : m (Option (ParseTree S)) :=
  if tokens.isEmpty then pure (model.nullTree? model.start 0)
  else if tokens.any fun token => (model.terminalRules token).isEmpty then pure none
  else do
    let chart ← access.chart model tokens
    (access.treeWithin? model chart (tokens.length * model.symbolCount + 1) 0 tokens.length
      model.start).run

/-! ## Faithful access -/

variable [LT S] [DecidableLT S]

/-- Whether access to charts does for ranges and nonterminals that have a slot what a chart does.
What it does for others is left open. -/
structure Faithful (access : ChartAccess m S (Chart S)) : Prop where
  /-- It begins with the same chart. -/
  empty : ∀ layout, access.empty layout = .empty layout
  /-- It finds the same entries. -/
  entry : ∀ {chart : Chart S} {start length : Nat} {symbol : SymbolId}, chart.Full →
    chart.layout.IsSlot start length symbol →
      access.entry chart start length symbol = pure (chart.at? start length symbol)
  /-- It lists the same nonterminals. -/
  filled : ∀ {chart : Chart S} {start length : Nat}, chart.Full → 0 < length →
    start + length ≤ chart.layout.tokens →
      access.filled chart start length = pure (chart.filled start length)
  /-- It keeps the same entries. -/
  offer : ∀ {chart : Chart S} {start length : Nat} {symbol : SymbolId}, chart.Full →
    chart.layout.IsSlot start length symbol → ∀ entry,
      access.offer chart start length symbol entry = pure (chart.offer start length symbol entry)

namespace Faithful

variable {access : ChartAccess m S (Chart S)} {model : GrammarModel S} {ln : Float → S}
  {definition : GrammarDefinition} {tokens start length : Nat} {chart : Chart S}
  {state : Chart S × Bool}

omit [Add S] in
theorem offer_eq (faithful : access.Faithful) (isFor : chart.IsFor model tokens)
    (pos : 0 < length) (stop : start + length ≤ tokens) {symbol : SymbolId}
    (symbolLt : symbol < model.symbolCount) (entry : Entry S) :
    access.offer chart start length symbol entry =
        pure (chart.offer start length symbol entry) ∧
      (chart.offer start length symbol entry).1.IsFor model tokens := by
  have slot := isFor.isSlot pos stop symbolLt
  exact ⟨faithful.offer isFor.full slot entry,
    isFor.of_sameElsewhere (Chart.range_offer isFor.full slot entry).1⟩

omit [Add S] in
theorem entry_eq (faithful : access.Faithful) (isFor : chart.IsFor model tokens)
    (pos : 0 < length) (stop : start + length ≤ tokens) {symbol : SymbolId}
    (symbolLt : symbol < model.symbolCount) :
    access.entry chart start length symbol = pure (chart.at? start length symbol) :=
  faithful.entry isFor.full (isFor.isSlot pos stop symbolLt)

omit [Add S] in
theorem filled_eq (faithful : access.Faithful) (isFor : chart.IsFor model tokens)
    (pos : 0 < length) (stop : start + length ≤ tokens) :
    access.filled chart start length = pure (chart.filled start length) :=
  faithful.filled isFor.full pos (by rw [isFor.layout]; exact stop)

variable [LawfulMonad m]

theorem offerTerminal_eq (faithful : access.Faithful) (represents : model.Represents ln definition)
    (isFor : chart.IsFor model tokens) (stop : start + 1 ≤ tokens) (place : RuleIndex) :
    access.offerTerminal model start chart place = pure (model.offerTerminal start chart place) ∧
      (model.offerTerminal start chart place).IsFor model tokens := by
  cases found : model.rules[place]? with
  | none => simp [offerTerminal, GrammarModel.offerTerminal, found, isFor]
  | some rule =>
      obtain ⟨offered, kept⟩ := faithful.offer_eq isFor Nat.one_pos stop
        (represents.head_lt found) ⟨rule.score, .terminal place⟩
      simp [offerTerminal, GrammarModel.offerTerminal, found, offered, kept]

theorem offerSplit_eq (faithful : access.Faithful) (represents : model.Represents ln definition)
    (isFor : chart.IsFor model tokens) (pos : 0 < length) (stop : start + length ≤ tokens)
    (cut : Nat) (left right : S) (place : RuleIndex) :
    access.offerSplit model start length cut left right chart place =
        pure (model.offerSplit start length cut left right chart place) ∧
      (model.offerSplit start length cut left right chart place).IsFor model tokens := by
  cases found : model.rules[place]? with
  | none => simp [offerSplit, GrammarModel.offerSplit, found, isFor]
  | some rule =>
      obtain ⟨offered, kept⟩ := faithful.offer_eq isFor pos stop (represents.head_lt found)
        ⟨rule.score + left + right, .split place cut⟩
      simp [offerSplit, GrammarModel.offerSplit, found, offered, kept]

theorem relaxRight_eq (faithful : access.Faithful) (represents : model.Represents ln definition)
    (isFor : state.1.IsFor model tokens) (pos : 0 < length) (stop : start + length ≤ tokens)
    (place : RuleIndex) :
    access.relaxRight model start length state place =
        pure (model.relaxRight start length state place) ∧
      (model.relaxRight start length state place).1.IsFor model tokens := by
  cases found : model.rules[place]? with
  | none => simp [relaxRight, GrammarModel.relaxRight, found, isFor]
  | some rule =>
      cases children : rule.children with
      | none => simp [relaxRight, GrammarModel.relaxRight, found, children, isFor]
      | some pair =>
          obtain ⟨left, right⟩ := pair
          have looked := faithful.entry_eq isFor pos stop (represents.children_lt found children).1
          simp only [relaxRight, GrammarModel.relaxRight, found, children, looked, pure_bind]
          cases state.1.at? start length left with
          | none => exact ⟨rfl, isFor⟩
          | some entry =>
              cases model.nulls.at? right with
              | none => exact ⟨rfl, isFor⟩
              | some null =>
                  obtain ⟨offered, kept⟩ := faithful.offer_eq isFor pos stop
                    (represents.head_lt found)
                    ⟨rule.score + entry.score + null.score, .emptyRight place⟩
                  simp [offered, kept]

theorem relaxLeft_eq (faithful : access.Faithful) (represents : model.Represents ln definition)
    (isFor : state.1.IsFor model tokens) (pos : 0 < length) (stop : start + length ≤ tokens)
    (place : RuleIndex) :
    access.relaxLeft model start length state place =
        pure (model.relaxLeft start length state place) ∧
      (model.relaxLeft start length state place).1.IsFor model tokens := by
  cases found : model.rules[place]? with
  | none => simp [relaxLeft, GrammarModel.relaxLeft, found, isFor]
  | some rule =>
      cases children : rule.children with
      | none => simp [relaxLeft, GrammarModel.relaxLeft, found, children, isFor]
      | some pair =>
          obtain ⟨left, right⟩ := pair
          have looked := faithful.entry_eq isFor pos stop (represents.children_lt found children).2
          simp only [relaxLeft, GrammarModel.relaxLeft, found, children, looked, pure_bind]
          cases model.nulls.at? left with
          | none => exact ⟨rfl, isFor⟩
          | some null =>
              cases state.1.at? start length right with
              | none => exact ⟨rfl, isFor⟩
              | some entry =>
                  obtain ⟨offered, kept⟩ := faithful.offer_eq isFor pos stop
                    (represents.head_lt found)
                    ⟨rule.score + null.score + entry.score, .emptyLeft place⟩
                  simp [offered, kept]

theorem relaxRule_eq (faithful : access.Faithful) (represents : model.Represents ln definition)
    (isFor : state.1.IsFor model tokens) (pos : 0 < length) (stop : start + length ≤ tokens)
    (place : RuleIndex) :
    access.relaxRule model start length state place =
        pure (model.relaxRule start length state place) ∧
      (model.relaxRule start length state place).1.IsFor model tokens := by
  obtain ⟨first, between⟩ := faithful.relaxRight_eq represents isFor pos stop place
  rw [relaxRule, first, pure_bind, model.relaxRule_eq]
  exact faithful.relaxLeft_eq represents between pos stop place

theorem closeRange_eq (faithful : access.Faithful) (represents : model.Represents ln definition)
    (isFor : chart.IsFor model tokens) (pos : 0 < length) (stop : start + length ≤ tokens) :
    access.closeRange model start length chart = pure (model.closeRange start length chart) ∧
      (model.closeRange start length chart).IsFor model tokens := by
  rw [closeRange, GrammarModel.closeRange]
  refine settleM_eq_pure (Chart.IsFor · model tokens) (fun _ kept => ?_) _ isFor
  rw [← Array.foldlM_toList, ← Array.foldl_toList]
  refine foldlM_eq_pure (fun state : Chart S × Bool => state.1.IsFor model tokens)
    (fun _ kept place _ => ?_) kept
  exact faithful.relaxRule_eq represents kept pos stop place

theorem fillToken_eq (faithful : access.Faithful) (represents : model.Represents ln definition)
    (isFor : chart.IsFor model tokens) {token : String × Nat} (lt : token.2 < tokens) :
    access.fillToken model chart token = pure (model.fillToken chart token) ∧
      (model.fillToken chart token).IsFor model tokens := by
  have words (other : Chart S) (kept : other.IsFor model tokens) (place : RuleIndex)
      (_ : place ∈ (model.terminalRules token.1).toList) :=
    faithful.offerTerminal_eq represents kept lt place
  obtain ⟨offered, kept⟩ := foldlM_eq_pure _ words isFor
  rw [fillToken, GrammarModel.fillToken, ← Array.foldlM_toList, ← Array.foldl_toList, offered,
    pure_bind]
  exact faithful.closeRange_eq represents kept Nat.one_pos lt

theorem offerCut_eq (faithful : access.Faithful) (represents : model.Represents ln definition)
    (isFor : chart.IsFor model tokens) (stop : start + length ≤ tokens) {cut : Nat}
    (cutPos : 0 < cut) (cutLt : cut < length) :
    access.offerCut model start length chart cut = pure (model.offerCut start length chart cut) ∧
      (model.offerCut start length chart cut).IsFor model tokens := by
  rw [offerCut, GrammarModel.offerCut, faithful.filled_eq isFor cutPos (by omega), pure_bind,
    faithful.filled_eq isFor (by omega) (by omega), pure_bind]
  refine foldlM_eq_pure (Chart.IsFor · model tokens) (fun _ keptLeft left _ => ?_) isFor
  refine foldlM_eq_pure (Chart.IsFor · model tokens) (fun _ keptRight right _ => ?_) keptLeft
  rw [model.offerPair_eq, ← Array.foldlM_toList]
  refine foldlM_eq_pure (Chart.IsFor · model tokens) (fun _ kept place _ => ?_) keptRight
  exact faithful.offerSplit_eq represents kept (by omega) stop cut left.2 right.2 place

theorem fillRange_eq (faithful : access.Faithful) (represents : model.Represents ln definition)
    (isFor : chart.IsFor model tokens) (pos : 0 < length) (stop : start + length ≤ tokens) :
    access.fillRange model length chart start = pure (model.fillRange length chart start) ∧
      (model.fillRange length chart start).IsFor model tokens := by
  have cuts (other : Chart S) (kept : other.IsFor model tokens) (index : Nat)
      (member : index ∈ List.range (length - 1)) :=
    faithful.offerCut_eq represents kept stop (Nat.succ_pos index)
      (Nat.add_lt_of_lt_sub (List.mem_range.mp member))
  obtain ⟨offered, kept⟩ := foldlM_eq_pure _ cuts isFor
  rw [fillRange, GrammarModel.fillRange, offered, pure_bind]
  exact faithful.closeRange_eq represents kept pos stop

theorem fillLength_eq (faithful : access.Faithful) (represents : model.Represents ln definition)
    (isFor : chart.IsFor model tokens) (pos : 0 < length) :
    access.fillLength model tokens chart length = pure (model.fillLength tokens chart length) ∧
      (model.fillLength tokens chart length).IsFor model tokens := by
  rw [fillLength, GrammarModel.fillLength]
  refine foldlM_eq_pure (Chart.IsFor · model tokens) (fun _ kept start member => ?_) isFor
  have startLt : start < tokens + 1 - length := List.mem_range.mp member
  exact faithful.fillRange_eq represents kept pos (by omega)

theorem chart_eq (faithful : access.Faithful) (represents : model.Represents ln definition)
    (tokens : List String) : access.chart model tokens = pure (model.chart tokens) := by
  have singles (other : Chart S) (kept : other.IsFor model tokens.length) (token : String × Nat)
      (member : token ∈ tokens.zipIdx) :=
    faithful.fillToken_eq represents kept (List.snd_lt_of_mem_zipIdx member)
  obtain ⟨filled, kept⟩ := foldlM_eq_pure _ singles
    (⟨rfl, Chart.full_empty _⟩ : (Chart.empty ⟨tokens.length, model.symbolCount⟩).IsFor model _)
  rw [ChartAccess.chart, GrammarModel.chart, faithful.empty, filled, pure_bind]
  refine (foldlM_eq_pure (Chart.IsFor · model tokens.length) (fun _ kept index _ => ?_) kept).1
  exact faithful.fillLength_eq represents kept (Nat.succ_pos _)

/-- Reading a tree off the finished chart looks at slots only: an entry refers to parts of its
range, and the whole range has a slot. -/
theorem treeWithin?_eq (faithful : access.Faithful) (represents : model.Represents ln definition)
    {tokens : List String} (levels : Nat) (pos : 0 < length)
    (stop : start + length ≤ tokens.length) {symbol : SymbolId}
    (symbolLt : symbol < model.symbolCount) :
    access.treeWithin? model (model.chart tokens) levels start length symbol =
      OptionT.mk (pure (model.treeWithin? (model.chart tokens) levels start length symbol)) := by
  induction levels generalizing start length symbol with
  | zero => rfl
  | succ levels ih =>
      rw [treeWithin?, GrammarModel.treeWithin?,
        faithful.entry_eq (GrammarModel.isFor_chart represents) pos stop symbolLt]
      refine mk_pure_bind fun entry held => ?_
      -- Only a cut leads to other ranges. The entry was found at a cut inside its range.
      have fits := GrammarModel.fits_of_at? represents pos stop symbolLt held
      cases back : entry.back with
      | terminal place =>
          exact mk_pure_bind fun rule _ => mk_pure_bind fun word _ => rfl
      | split place cut =>
          rw [back] at fits
          obtain ⟨⟨cutPos, cutLt⟩, _⟩ := fits
          refine mk_pure_bind fun rule found => mk_pure_bind fun pair children => ?_
          obtain ⟨left, right⟩ := pair
          obtain ⟨leftLt, rightLt⟩ := represents.children_lt found children
          dsimp only
          rw [ih cutPos (by omega) leftLt, ih (by omega) (by omega) rightLt]
          exact mk_pure_bind fun leftTree _ => mk_pure_bind fun rightTree _ => rfl
      | emptyRight place =>
          refine mk_pure_bind fun rule found => mk_pure_bind fun pair children => ?_
          obtain ⟨left, right⟩ := pair
          dsimp only
          rw [ih pos stop (represents.children_lt found children).1]
          exact mk_pure_bind fun leftTree _ => mk_pure_bind fun rightTree _ => rfl
      | emptyLeft place =>
          refine mk_pure_bind fun rule found => mk_pure_bind fun pair children => ?_
          obtain ⟨left, right⟩ := pair
          dsimp only
          rw [ih pos stop (represents.children_lt found children).2]
          exact mk_pure_bind fun leftTree _ => mk_pure_bind fun rightTree _ => rfl

/-- The parser looks at slots only. -/
theorem parse?_eq_pure (faithful : access.Faithful) (represents : model.Represents ln definition)
    (tokens : List String) : access.parse? model tokens = pure (model.parse? tokens) := by
  rw [parse?, GrammarModel.parse?]
  split
  · rfl
  split
  · rfl
  · next nonempty _ =>
      have pos : 0 < tokens.length := List.length_pos_iff.mpr (by simpa using nonempty)
      rw [faithful.chart_eq represents, pure_bind, faithful.treeWithin?_eq represents _ pos
        (Nat.zero_add _).le (represents.id_lt represents.start)]
      rfl

end Faithful

/-! ## Two ways of access -/

section Ways

omit [Add S]

variable (S)

/-- Access to charts as they are. -/
def plain : ChartAccess Id S (Chart S) where
  empty := .empty
  entry chart start length symbol := pure (chart.at? start length symbol)
  filled chart start length := pure (chart.filled start length)
  offer chart start length symbol entry := pure (chart.offer start length symbol entry)

theorem faithful_plain : (plain S).Faithful :=
  ⟨fun _ => rfl, fun _ _ => rfl, fun _ _ _ => rfl, fun _ _ _ => rfl⟩

variable {S}

/-- Whether a range and a nonterminal have a slot and it lies in the array of a chart. -/
def InArray (chart : Chart S) (start length : Nat) (symbol : SymbolId) : Prop :=
  chart.layout.IsSlot start length symbol ∧
    chart.layout.offset start length symbol < chart.slots.size

instance (chart : Chart S) (start length : Nat) (symbol : SymbolId) :
    Decidable (InArray chart start length symbol) :=
  inferInstanceAs (Decidable (_ ∧ _))

omit [LT S] [DecidableLT S] in
theorem inArray_of_isSlot {chart : Chart S} {start length : Nat} {symbol : SymbolId}
    (full : chart.Full) (slot : chart.layout.IsSlot start length symbol) :
    InArray chart start length symbol :=
  ⟨slot, full.symm ▸ ChartLayout.offset_lt_size slot⟩

variable (S)

/-- Access to charts that fails at everything that has no slot in the array. -/
def guarded : ChartAccess Option S (Chart S) where
  empty := .empty
  entry chart start length symbol :=
    if InArray chart start length symbol then some (chart.at? start length symbol) else none
  filled chart start length :=
    if (0 < length ∧ start + length ≤ chart.layout.tokens) ∧
        ∀ symbol < chart.layout.symbols, InArray chart start length symbol then
      some (chart.filled start length)
    else none
  offer chart start length symbol entry :=
    if InArray chart start length symbol then some (chart.offer start length symbol entry)
    else none

theorem faithful_guarded : (guarded S).Faithful where
  empty _ := rfl
  entry full slot := if_pos (inArray_of_isSlot full slot)
  filled full pos stop :=
    if_pos ⟨⟨pos, stop⟩, fun _ symbolLt => inArray_of_isSlot full ⟨pos, stop, symbolLt⟩⟩
  offer full slot _ := if_pos (inArray_of_isSlot full slot)

end Ways

/-- Ranges and nonterminals fill the array of a chart, one in each place, and the numbers that a
place is computed from are exact; the parser looks at charts and changes them at such ranges and
nonterminals only: it is itself with a way to charts that fails everywhere else. -/
theorem slots_exact_and_respected {ln : Float → S} {definition : GrammarDefinition}
    {model : GrammarModel S} (built : GrammarModel.ofDefinition ln definition = .ok model) :
    (∀ layout : ChartLayout,
      Set.BijOn (fun slot : Nat × Nat × SymbolId => layout.offset slot.1 slot.2.1 slot.2.2)
        {slot | (1 ≤ slot.2.1 ∧ slot.2.1 ≤ layout.tokens) ∧ slot.1 + slot.2.1 ≤ layout.tokens ∧
          slot.2.2 < layout.symbols}
        (Set.Iio (layout.tokens * (layout.tokens + 1) / 2 * layout.symbols)) ∧
      2 ∣ layout.tokens * (layout.tokens + 1) ∧
      ∀ start length symbol, layout.IsSlot start length symbol →
        1 ≤ length ∧ 2 ∣ (length - 1) * length ∧
          (length - 1) * length / 2 ≤ (length - 1) * (layout.tokens + 1)) ∧
    ∀ tokens, (plain S).parse? model tokens = model.parse? tokens ∧
      (guarded S).parse? model tokens = some (model.parse? tokens) := by
  have represents := represents_of_ofDefinition built
  refine ⟨fun layout => ⟨?_, (Nat.even_mul_succ_self _).two_dvd,
    fun _ _ _ slot => ChartLayout.shorterRanges_exact slot⟩, fun tokens => ⟨?_, ?_⟩⟩
  · have slots : {slot : Nat × Nat × SymbolId | (1 ≤ slot.2.1 ∧ slot.2.1 ≤ layout.tokens) ∧
        slot.1 + slot.2.1 ≤ layout.tokens ∧ slot.2.2 < layout.symbols} =
        {slot | layout.IsSlot slot.1 slot.2.1 slot.2.2} := by
      ext slot
      constructor
      · rintro ⟨⟨pos, _⟩, stop, symbolLt⟩
        exact ⟨pos, stop, symbolLt⟩
      · rintro ⟨pos, stop, symbolLt⟩
        exact ⟨⟨pos, by omega⟩, stop, symbolLt⟩
    rw [slots]
    exact layout.bijOn_offset
  · exact (faithful_plain S).parse?_eq_pure represents tokens
  · exact (faithful_guarded S).parse?_eq_pure represents tokens

theorem slots_exact_and_respected_what : ∃ (model : GrammarModel ℝ) (tree : ParseTree ℝ),
    GrammarModel.ofDefinition halvingLog trailingGrammar = .ok model ∧
      (guarded ℝ).parse? model ["what"] = some (some tree) ∧
      ∃ start length symbol, ChartLayout.IsSlot ⟨3, 2⟩ start length symbol ∧
        ChartLayout.offset ⟨3, 2⟩ start length symbol = 11 := by
  obtain ⟨model, built⟩ := exists_trailingModel
  obtain ⟨layouts, accesses⟩ := slots_exact_and_respected built
  have represents := represents_of_ofDefinition built
  obtain ⟨tree, parsed⟩ := GrammarModel.exists_parse?_of_derivation represents scoreLaws_real
    halvingLog_nonpos isDerivation_what rfl rfl
  obtain ⟨⟨start, length, symbol⟩, ⟨⟨pos, _⟩, stop, symbolLt⟩, place⟩ :=
    (layouts ⟨3, 2⟩).1.surjOn (show 11 ∈ Set.Iio (3 * (3 + 1) / 2 * 2) by decide)
  exact ⟨model, tree, built, (accesses ["what"]).2.trans (congrArg some parsed), start, length,
    symbol, ⟨pos, stop, symbolLt⟩, place⟩

end ChartAccess

end QuestionSearch.Grammar
