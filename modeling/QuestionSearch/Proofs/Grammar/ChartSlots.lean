import Mathlib.Algebra.Ring.Parity
import Mathlib.Data.Set.Function
import Mathlib.Order.Interval.Set.Defs
import Mathlib.Tactic.Ring
import QuestionSearch.Grammar.Chart
import QuestionSearch.Proofs.Grammar.Relaxation

/-!
# Slots of charts

Different ranges and nonterminals have different slots, all of them lie in the array, and they fill
it without gaps (`bijOn_offset`). So offering an entry to a slot changes what is held for its range
and leaves all other ranges as they are.
-/

namespace QuestionSearch.Grammar

variable {S : Type}

namespace ChartLayout

/-- Whether a range of tokens and a nonterminal have a slot. -/
structure IsSlot (layout : ChartLayout) (start length : Nat) (symbol : SymbolId) : Prop where
  /-- The range is not empty. -/
  length_pos : 0 < length
  /-- The range ends with the tokens at the latest. -/
  stop_le : start + length ≤ layout.tokens
  /-- The nonterminal has a number. -/
  symbol_lt : symbol < layout.symbols

instance (layout : ChartLayout) (start length : Nat) (symbol : SymbolId) :
    Decidable (layout.IsSlot start length symbol) :=
  decidable_of_iff (0 < length ∧ start + length ≤ layout.tokens ∧ symbol < layout.symbols)
    ⟨fun ⟨pos, stop, symbolLt⟩ => ⟨pos, stop, symbolLt⟩,
      fun slot => ⟨slot.length_pos, slot.stop_le, slot.symbol_lt⟩⟩

variable {layout : ChartLayout} {start length otherStart otherLength : Nat}
  {symbol otherSymbol : SymbolId}

private theorem triangle_succ (count : Nat) :
    (count + 1) * (count + 2) / 2 = count * (count + 1) / 2 + (count + 1) := by
  have expanded : (count + 1) * (count + 2) = count * (count + 1) + (count + 1) * 2 := by ring
  rw [expanded, Nat.add_mul_div_right _ _ (by decide)]

/-- Each length has one range fewer than the length before. -/
theorem shorterRanges_succ (pos : 0 < length) (le : length ≤ layout.tokens) :
    layout.shorterRanges (length + 1) =
      layout.shorterRanges length + (layout.tokens + 1 - length) := by
  obtain ⟨shorter, rfl⟩ := Nat.exists_eq_succ_of_ne_zero (Nat.ne_of_gt pos)
  simp only [shorterRanges, Nat.succ_eq_add_one, Nat.add_sub_cancel]
  have triangleLe : shorter * (shorter + 1) / 2 ≤ shorter * (layout.tokens + 1) :=
    (Nat.div_le_self _ 2).trans (Nat.mul_le_mul_left _ (by omega))
  have product : (shorter + 1) * (layout.tokens + 1) =
      shorter * (layout.tokens + 1) + (layout.tokens + 1) := by ring
  rw [triangle_succ shorter, product]
  omega

theorem shorterRanges_mono (pos : 0 < length) (le : length ≤ otherLength)
    (inside : otherLength ≤ layout.tokens + 1) :
    layout.shorterRanges length ≤ layout.shorterRanges otherLength := by
  induction le with
  | refl => exact Nat.le_refl _
  | @step other le ih =>
      have lengthLe : length ≤ other := le
      rw [Nat.succ_eq_add_one, shorterRanges_succ (by omega) (by omega)]
      exact (ih (by omega)).trans (Nat.le_add_right _ _)

theorem shorterRanges_all :
    layout.shorterRanges (layout.tokens + 1) = layout.tokens * (layout.tokens + 1) / 2 := by
  obtain ⟨half, even⟩ := (Nat.even_mul_succ_self layout.tokens)
  simp only [shorterRanges, Nat.add_sub_cancel]
  omega

/-- The ranges of a length come after the shorter ones and before the longer ones. -/
theorem range_lt_succ (pos : 0 < length) (stop : start + length ≤ layout.tokens) :
    layout.shorterRanges length + start < layout.shorterRanges (length + 1) := by
  rw [shorterRanges_succ pos (by omega)]
  omega

theorem offset_lt_size (slot : layout.IsSlot start length symbol) :
    layout.offset start length symbol < layout.size := by
  have before := range_lt_succ slot.length_pos slot.stop_le
  have stop := slot.stop_le
  have inside : layout.shorterRanges (length + 1) ≤ layout.shorterRanges (layout.tokens + 1) :=
    shorterRanges_mono (Nat.succ_pos _) (by omega) (Nat.le_refl _)
  rw [shorterRanges_all] at inside
  have rangeLt := Nat.lt_of_lt_of_le before inside
  calc
    layout.offset start length symbol <
        (layout.shorterRanges length + start) * layout.symbols + layout.symbols :=
      Nat.add_lt_add_left slot.symbol_lt _
    _ = (layout.shorterRanges length + start + 1) * layout.symbols := by ring
    _ ≤ layout.size := Nat.mul_le_mul_right _ rangeLt

private theorem range_inj (pos : 0 < length) (stop : start + length ≤ layout.tokens)
    (otherPos : 0 < otherLength) (otherStop : otherStart + otherLength ≤ layout.tokens)
    (same : layout.shorterRanges length + start = layout.shorterRanges otherLength + otherStart) :
    start = otherStart ∧ length = otherLength := by
  have before := range_lt_succ pos stop
  have otherBefore := range_lt_succ otherPos otherStop
  rcases Nat.lt_trichotomy length otherLength with lt | rfl | gt
  · have mono : layout.shorterRanges (length + 1) ≤ layout.shorterRanges otherLength :=
      shorterRanges_mono (Nat.succ_pos length) lt (by omega)
    omega
  · exact ⟨by omega, rfl⟩
  · have mono : layout.shorterRanges (otherLength + 1) ≤ layout.shorterRanges length :=
      shorterRanges_mono (Nat.succ_pos otherLength) gt (by omega)
    omega

/-- Different slots have different places. -/
theorem offset_inj (slot : layout.IsSlot start length symbol)
    (otherSlot : layout.IsSlot otherStart otherLength otherSymbol)
    (same : layout.offset start length symbol = layout.offset otherStart otherLength otherSymbol) :
    start = otherStart ∧ length = otherLength ∧ symbol = otherSymbol := by
  have symbolEq : symbol = otherSymbol := by
    have remainders := congrArg (· % layout.symbols) same
    simpa [offset, Nat.mod_eq_of_lt slot.symbol_lt, Nat.mod_eq_of_lt otherSlot.symbol_lt] using
      remainders
  subst symbolEq
  have positive : 0 < layout.symbols := Nat.zero_lt_of_lt slot.symbol_lt
  have rangeEq := Nat.eq_of_mul_eq_mul_right positive (Nat.add_right_cancel same)
  obtain ⟨startEq, lengthEq⟩ := range_inj slot.length_pos slot.stop_le otherSlot.length_pos
    otherSlot.stop_le rangeEq
  exact ⟨startEq, lengthEq, rfl⟩

private theorem exists_range_of_lt {longest place : Nat} (le : longest ≤ layout.tokens)
    (lt : place < layout.shorterRanges (longest + 1)) :
    ∃ start length, (0 < length ∧ start + length ≤ layout.tokens) ∧
      layout.shorterRanges length + start = place := by
  induction longest with
  | zero => simp [shorterRanges] at lt
  | succ longest ih =>
      rcases Nat.lt_or_ge place (layout.shorterRanges (longest + 1)) with shorter | among
      · exact ih (Nat.le_of_succ_le le) shorter
      · have next : layout.shorterRanges (longest + 1 + 1) =
            layout.shorterRanges (longest + 1) + (layout.tokens + 1 - (longest + 1)) :=
          shorterRanges_succ (Nat.succ_pos longest) le
        exact ⟨place - layout.shorterRanges (longest + 1), longest + 1, by omega, by omega⟩

/-- Every place in the array is that of a slot. -/
theorem exists_slot_of_lt {place : Nat} (lt : place < layout.size) :
    ∃ start length symbol, layout.IsSlot start length symbol ∧
      layout.offset start length symbol = place := by
  have symbolsPos : 0 < layout.symbols := by
    rw [Nat.pos_iff_ne_zero]
    intro none
    simp [size, none] at lt
  have rangeLt : place / layout.symbols < layout.shorterRanges (layout.tokens + 1) := by
    rw [shorterRanges_all]
    exact Nat.div_lt_of_lt_mul (Nat.mul_comm .. ▸ lt)
  obtain ⟨start, length, ⟨pos, stop⟩, rangeEq⟩ := exists_range_of_lt (Nat.le_refl _) rangeLt
  refine ⟨start, length, place % layout.symbols, ⟨pos, stop, Nat.mod_lt _ symbolsPos⟩, ?_⟩
  rw [offset, rangeEq, Nat.mul_comm, Nat.div_add_mod]

/-- The slots fill the array: each place in it is that of exactly one range and nonterminal. -/
theorem bijOn_offset (layout : ChartLayout) :
    Set.BijOn (fun slot : Nat × Nat × SymbolId => layout.offset slot.1 slot.2.1 slot.2.2)
      {slot | layout.IsSlot slot.1 slot.2.1 slot.2.2} (Set.Iio layout.size) := by
  refine ⟨fun slot isSlot => offset_lt_size isSlot, ?_, ?_⟩
  · rintro ⟨start, length, symbol⟩ isSlot ⟨otherStart, otherLength, other⟩ otherIsSlot same
    obtain ⟨rfl, rfl, rfl⟩ := offset_inj isSlot otherIsSlot same
    rfl
  · intro place lt
    obtain ⟨start, length, symbol, isSlot, offsetEq⟩ := exists_slot_of_lt lt
    exact ⟨(start, length, symbol), isSlot, offsetEq⟩

/-- Every halving in the place of a slot is exact, and every difference takes a smaller number from
a greater one. -/
theorem shorterRanges_exact (slot : layout.IsSlot start length symbol) :
    1 ≤ length ∧ 2 ∣ (length - 1) * length ∧
      (length - 1) * length / 2 ≤ (length - 1) * (layout.tokens + 1) := by
  have pos := slot.length_pos
  have stop := slot.stop_le
  have even : Even ((length - 1) * length) := Nat.mul_comm .. ▸ Nat.even_mul_pred_self length
  refine ⟨pos, even.two_dvd, (Nat.div_le_self _ 2).trans ?_⟩
  exact Nat.mul_le_mul_left _ (by omega)

end ChartLayout

namespace Chart

/-- What a chart holds for a range. -/
def range (chart : Chart S) (start length : Nat) : Holding S Back :=
  fun symbol =>
    if symbol < chart.layout.symbols then
      (chart.at? start length symbol).map fun entry => (entry.score, entry.back)
    else none

/-- Whether a chart has a slot for every range and nonterminal. -/
def Full (chart : Chart S) : Prop := chart.slots.size = chart.layout.size

/-- Whether a chart is like another one for all ranges but one. -/
structure SameElsewhere (start length : Nat) (before after : Chart S) : Prop where
  /-- The slots lie where they lay. -/
  layout : after.layout = before.layout
  /-- There are as many slots. -/
  full : after.Full
  /-- All other ranges hold what they held. -/
  range : ∀ otherStart otherLength, 0 < otherLength →
    otherStart + otherLength ≤ before.layout.tokens → otherStart ≠ start ∨ otherLength ≠ length →
      after.range otherStart otherLength = before.range otherStart otherLength

variable {start length : Nat}

theorem SameElsewhere.refl {chart : Chart S} (full : chart.Full) :
    SameElsewhere start length chart chart :=
  ⟨rfl, full, fun _ _ _ _ _ => rfl⟩

theorem SameElsewhere.trans {first second third : Chart S}
    (same : SameElsewhere start length first second)
    (next : SameElsewhere start length second third) : SameElsewhere start length first third := by
  refine ⟨next.layout.trans same.layout, next.full, ?_⟩
  intro otherStart otherLength pos stop other
  rw [next.range otherStart otherLength pos (same.layout ▸ stop) other,
    same.range otherStart otherLength pos stop other]

theorem range_eq_some_iff {chart : Chart S} {symbol : SymbolId} {held : S × Back} :
    chart.range start length symbol = some held ↔
      symbol < chart.layout.symbols ∧ chart.at? start length symbol = some ⟨held.1, held.2⟩ := by
  rw [range]
  by_cases lt : symbol < chart.layout.symbols
  · simp only [lt, if_true, true_and]
    constructor
    · intro found
      obtain ⟨entry, entryEq, rfl⟩ := Option.map_eq_some_iff.mp found
      exact entryEq
    · intro found
      rw [found, Option.map_some]
  · simp [lt]

theorem score?_range {chart : Chart S} {symbol : SymbolId} (lt : symbol < chart.layout.symbols) :
    (chart.range start length).score? symbol =
      (chart.at? start length symbol).map Entry.score := by
  simp [Holding.score?, range, lt, Option.map_map, Function.comp_def]

theorem range_empty (layout : ChartLayout) (start length : Nat) :
    (empty layout : Chart S).range start length = Holding.empty := by
  funext symbol
  by_cases lt : layout.offset start length symbol < layout.size <;>
    simp [range, at?, empty, Holding.empty, lt]

theorem full_empty (layout : ChartLayout) : (empty layout : Chart S).Full := by
  simp [Full, empty]

theorem sameElsewhere_put {chart : Chart S} (full : chart.Full) {symbol : SymbolId}
    (slot : chart.layout.IsSlot start length symbol) (entry : Entry S) :
    SameElsewhere start length chart (chart.put start length symbol entry) := by
  refine ⟨rfl, by simpa [Full, put] using full, ?_⟩
  intro otherStart otherLength pos stop other
  funext query
  by_cases lt : query < chart.layout.symbols
  · have otherSlot : chart.layout.IsSlot otherStart otherLength query := ⟨pos, stop, lt⟩
    have different : chart.layout.offset start length symbol ≠
        chart.layout.offset otherStart otherLength query := by
      intro same
      obtain ⟨rfl, rfl, _⟩ := ChartLayout.offset_inj slot otherSlot same
      simp at other
    simp [range, at?, put, lt, different]
  · simp [range, put, lt]

theorem range_put {chart : Chart S} (full : chart.Full) {symbol : SymbolId}
    (slot : chart.layout.IsSlot start length symbol) (entry : Entry S) :
    (chart.put start length symbol entry).range start length =
      Function.update (chart.range start length) symbol (some (entry.score, entry.back)) := by
  have inside : chart.layout.offset start length symbol < chart.slots.size :=
    full.symm ▸ ChartLayout.offset_lt_size slot
  funext query
  by_cases same : query = symbol
  · subst same
    simp [range, at?, put, slot.symbol_lt, inside]
  · have different : chart.layout.offset start length symbol ≠
        chart.layout.offset start length query :=
      fun equal => same (Nat.add_left_cancel equal).symm
    simp [range, at?, put, same, different]

/-- Offering an entry changes its range as the offer says, and no other range. -/
theorem range_offer [LT S] [DecidableLT S] {chart : Chart S} (full : chart.Full)
    {symbol : SymbolId} (slot : chart.layout.IsSlot start length symbol) (entry : Entry S) :
    SameElsewhere start length chart (chart.offer start length symbol entry).1 ∧
      (chart.range start length).offer symbol (entry.score, entry.back) =
        ((chart.offer start length symbol entry).1.range start length,
          (chart.offer start length symbol entry).2) := by
  rw [Holding.offer, offer, score?_range slot.symbol_lt]
  split
  · exact ⟨sameElsewhere_put full slot entry, Prod.ext (range_put full slot entry).symm rfl⟩
  · exact ⟨.refl full, rfl⟩

/-- Steps that change one range only change it one after the other. -/
theorem range_foldl {κ : Type} {original : Chart S} {step : Chart S → κ → Chart S}
    {rangeStep : Holding S Back → κ → Holding S Back} {items : List κ}
    (agree : ∀ chart, SameElsewhere start length original chart → ∀ item ∈ items,
      SameElsewhere start length chart (step chart item) ∧
        (step chart item).range start length = rangeStep (chart.range start length) item)
    {chart : Chart S} (same : SameElsewhere start length original chart) :
    SameElsewhere start length original (items.foldl step chart) ∧
      (items.foldl step chart).range start length =
        items.foldl rangeStep (chart.range start length) := by
  induction items generalizing chart with
  | nil => exact ⟨same, rfl⟩
  | cons item rest ih =>
      obtain ⟨sameNext, rangeNext⟩ := agree chart same item List.mem_cons_self
      rw [List.foldl_cons, List.foldl_cons, ← rangeNext]
      exact ih (fun chart same later member => agree chart same later
        (List.mem_cons_of_mem _ member)) (same.trans sameNext)

end Chart

end QuestionSearch.Grammar
