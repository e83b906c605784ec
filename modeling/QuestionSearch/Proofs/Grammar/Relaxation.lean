import Mathlib.Data.Finset.Card
import Mathlib.Logic.Function.Iterate
import QuestionSearch.Proofs.Grammar.ScoreLaws

/-!
# Relaxation

Both the derivations of the empty word and the entries of one range of a chart are found by the same
procedure: a table holds the best score of every nonterminal, and inferences, which combine what is
held for their premises, are applied in order and again and again. Here the procedure stands by
itself, without grammar and chart. What it holds in the end is said by `Settled`.
-/

namespace QuestionSearch.Grammar

variable {S ι : Type}

/-- The best score found for each nonterminal, with how it was found. -/
abbrev Holding (S ι : Type) := SymbolId → Option (S × ι)

namespace Holding

/-- The score held for a nonterminal. -/
def score? (table : Holding S ι) (symbol : SymbolId) : Option S :=
  (table symbol).map Prod.fst

/-- The table that holds nothing. -/
def empty : Holding S ι := fun _ => none

/-- Keeps a candidate if it is better than what is held; says whether it is. -/
def offer [LT S] [DecidableLT S] (table : Holding S ι) (symbol : SymbolId) (candidate : S × ι) :
    Holding S ι × Bool :=
  if improves candidate.1 (table.score? symbol) then
    (Function.update table symbol (some candidate), true)
  else (table, false)

/-- Offers candidates in order. -/
def offerAll [LT S] [DecidableLT S] (table : Holding S ι)
    (candidates : List (SymbolId × S × ι)) : Holding S ι :=
  candidates.foldl (fun table candidate => (table.offer candidate.1 candidate.2).1) table

/-- Whether a nonterminal is held with at least some score. -/
def AtLeast [LT S] (table : Holding S ι) (symbol : SymbolId) (score : S) : Prop :=
  ∃ held, table symbol = some held ∧ ¬ held.1 < score

/-- Whether all that is held has a property. -/
def All (holds : SymbolId → S × ι → Prop) (table : Holding S ι) : Prop :=
  ∀ symbol held, table symbol = some held → holds symbol held

theorem score?_eq_some_iff {table : Holding S ι} {symbol : SymbolId} {score : S} :
    table.score? symbol = some score ↔ ∃ reason, table symbol = some (score, reason) := by
  constructor
  · intro found
    obtain ⟨⟨held, reason⟩, heldEq, rfl⟩ := Option.map_eq_some_iff.mp found
    exact ⟨reason, heldEq⟩
  · rintro ⟨reason, heldEq⟩
    simp [score?, heldEq]

theorem all_empty (holds : SymbolId → S × ι → Prop) : All holds (empty : Holding S ι) :=
  fun _ _ held => absurd held (by simp [empty])

/-- The nonterminals that are held, in order, with their scores. -/
def filled (symbols : Nat) (table : Holding S ι) : List (SymbolId × S) :=
  (List.range symbols).filterMap fun symbol =>
    (table.score? symbol).map fun score => (symbol, score)

theorem mem_filled_iff {symbols : Nat} {table : Holding S ι} {entry : SymbolId × S} :
    entry ∈ table.filled symbols ↔ entry.1 < symbols ∧ table.score? entry.1 = some entry.2 := by
  obtain ⟨symbol, score⟩ := entry
  simp only [filled, List.mem_filterMap, List.mem_range, Option.map_eq_some_iff, Prod.mk.injEq]
  constructor
  · rintro ⟨other, lt, found, scoreEq, rfl, rfl⟩
    exact ⟨lt, scoreEq⟩
  · rintro ⟨lt, scoreEq⟩
    exact ⟨symbol, lt, score, scoreEq, rfl, rfl⟩

theorem pairwise_filled (symbols : Nat) (table : Holding S ι) :
    (table.filled symbols).Pairwise fun first second => first.1 < second.1 := by
  rw [filled, List.pairwise_filterMap]
  refine List.pairwise_lt_range.imp fun {symbol next} lt => ?_
  intro entry entryEq nextEntry nextEq
  obtain ⟨_, _, rfl⟩ := Option.map_eq_some_iff.mp entryEq
  obtain ⟨_, _, rfl⟩ := Option.map_eq_some_iff.mp nextEq
  exact lt

section Offer

variable [LT S] [DecidableLT S]

theorem offerAll_flatMap {κ : Type} (table : Holding S ι) (items : List κ)
    (candidates : κ → List (SymbolId × S × ι)) :
    table.offerAll (items.flatMap candidates) =
      items.foldl (fun table item => table.offerAll (candidates item)) table :=
  List.foldl_flatMap ..

theorem offerAll_filterMap {κ : Type} (table : Holding S ι) (items : List κ)
    (candidate? : κ → Option (SymbolId × S × ι)) :
    table.offerAll (items.filterMap candidate?) =
      items.foldl (fun table item => table.offerAll (candidate? item).toList) table := by
  rw [List.filterMap_eq_flatMap_toList, offerAll_flatMap]

/-- A candidate is kept, and then it is better than what was held, or nothing changes, and then
what is held is at least as good. -/
theorem offer_cases (table : Holding S ι) (symbol : SymbolId) (candidate : S × ι) :
    (table.offer symbol candidate = (Function.update table symbol (some candidate), true) ∧
        ∀ held, table symbol = some held → held.1 < candidate.1) ∨
      (table.offer symbol candidate = (table, false) ∧ table.AtLeast symbol candidate.1) := by
  rw [offer]
  cases found : table symbol with
  | none =>
      refine Or.inl ⟨?_, fun held heldEq => by simp at heldEq⟩
      simp [score?, found, improves]
  | some held =>
      by_cases better : held.1 < candidate.1
      · refine Or.inl ⟨?_, fun other otherEq => ?_⟩
        · simp [score?, found, improves, better]
        · exact Option.some.inj otherEq ▸ better
      · refine Or.inr ⟨?_, held, found, better⟩
        simp [score?, found, improves, better]

theorem offer_quiet {table : Holding S ι} {symbol : SymbolId} {candidate : S × ι}
    (quiet : (table.offer symbol candidate).2 = false) :
    (table.offer symbol candidate).1 = table := by
  rcases table.offer_cases symbol candidate with ⟨kept, _⟩ | ⟨refused, _⟩
  · simp [kept] at quiet
  · rw [refused]

theorem all_offer {holds : SymbolId → S × ι → Prop} {table : Holding S ι} {symbol : SymbolId}
    {candidate : S × ι} (before : table.All holds) (new : holds symbol candidate) :
    (table.offer symbol candidate).1.All holds := by
  rcases table.offer_cases symbol candidate with ⟨kept, _⟩ | ⟨refused, _⟩
  · rw [kept]
    intro query held heldEq
    by_cases same : query = symbol
    · subst same
      simp only [Function.update_self] at heldEq
      exact Option.some.inj heldEq ▸ new
    · simp only [Function.update_of_ne same] at heldEq
      exact before query held heldEq
  · rw [refused]
    exact before

theorem all_offerAll {holds : SymbolId → S × ι → Prop} {candidates : List (SymbolId × S × ι)}
    {table : Holding S ι} (before : table.All holds)
    (new : ∀ candidate ∈ candidates, holds candidate.1 candidate.2) :
    (table.offerAll candidates).All holds := by
  induction candidates generalizing table with
  | nil => exact before
  | cons candidate rest ih =>
      exact ih (all_offer before (new candidate List.mem_cons_self))
        fun later member => new later (List.mem_cons_of_mem _ member)

end Offer

end Holding

/-- One side of an inference: what is held for a nonterminal, or a score that is given. -/
inductive Premise (S : Type)
  /-- What is held for a nonterminal. -/
  | held (symbol : SymbolId)
  /-- A score that stays as it is. -/
  | given (score : S)

namespace Premise

/-- The score of a premise, if there is one. -/
def score? (premise : Premise S) (table : Holding S ι) : Option S :=
  match premise with
  | held symbol => table.score? symbol
  | given score => some score

/-- Whether a premise is given or ranks below a limit. -/
def RanksBelow (rank : SymbolId → Nat) (limit : Nat) : Premise S → Prop
  | held symbol => rank symbol < limit
  | given _ => True

end Premise

/-- Two premises from which a nonterminal is derived with the sum of a weight and their scores. -/
structure Inference (S ι : Type) where
  /-- The derived nonterminal. -/
  head : SymbolId
  /-- The left premise. -/
  left : Premise S
  /-- The right premise. -/
  right : Premise S
  /-- What is added to the scores of the premises. -/
  weight : S
  /-- How the nonterminal is then found. -/
  reason : ι

/-- Offers what an inference derives; remembers whether anything has changed. -/
def Inference.apply [Add S] [LT S] [DecidableLT S] (state : Holding S ι × Bool)
    (inference : Inference S ι) : Holding S ι × Bool :=
  match inference.left.score? state.1, inference.right.score? state.1 with
  | some left, some right =>
    let (table, improved) :=
      state.1.offer inference.head (inference.weight + left + right, inference.reason)
    (table, improved || state.2)
  | _, _ => state

/-- A first table and inferences to apply to it in order. -/
structure Relaxation (S ι : Type) where
  /-- The table to begin with. -/
  start : Holding S ι
  /-- The inferences. -/
  inferences : List (Inference S ι)

namespace Relaxation

section Passes

variable [Add S] [LT S] [DecidableLT S]

/-- Applies all inferences once; says whether anything has changed. -/
def pass (relaxation : Relaxation S ι) (table : Holding S ι) : Holding S ι × Bool :=
  relaxation.inferences.foldl Inference.apply (table, false)

/-- Applies all inferences until nothing changes, at most so many times. -/
def result (relaxation : Relaxation S ι) (passes : Nat) : Holding S ι :=
  settle relaxation.pass passes relaxation.start

/-- The table after exactly so many passes. -/
def after (relaxation : Relaxation S ι) (passes : Nat) : Holding S ι :=
  (fun table => (relaxation.pass table).1)^[passes] relaxation.start

end Passes

end Relaxation

theorem foldl_fixed {α κ : Type} {step : α → κ → α} {items : List κ} {state : α}
    (fixed : ∀ item ∈ items, step state item = state) : items.foldl step state = state := by
  induction items with
  | nil => rfl
  | cons item rest ih =>
      rw [List.foldl_cons, fixed item List.mem_cons_self]
      exact ih fun later member => fixed later (List.mem_cons_of_mem _ member)

/-- If no step takes back a report of a change, and one that reports none changes nothing, then a
fold that ends without a report has changed nothing at any step. -/
theorem fixed_of_foldl_quiet {α κ : Type} {step : α × Bool → κ → α × Bool} {items : List κ}
    (each : ∀ state item, (step state item).2 = false → step state item = state)
    {state : α × Bool} (quiet : (items.foldl step state).2 = false) :
    ∀ item ∈ items, step state item = state := by
  induction items generalizing state with
  | nil => simp
  | cons item rest ih =>
      have restFixed := ih quiet
      rw [List.foldl_cons, foldl_fixed restFixed] at quiet
      have same := each state item quiet
      rw [same] at restFixed
      exact List.forall_mem_cons.mpr ⟨same, restFixed⟩

/-- A pass that reports no change changes nothing, so settling is the same as doing all passes. -/
theorem settle_eq_iterate {α : Type} {pass : α → α × Bool}
    (quiet : ∀ state, (pass state).2 = false → (pass state).1 = state) (passes : Nat) (state : α) :
    settle pass passes state = (fun state => (pass state).1)^[passes] state := by
  induction passes generalizing state with
  | zero => rfl
  | succ passes ih =>
      rw [settle, Function.iterate_succ_apply]
      cases changed : (pass state).2 with
      | true => simpa [changed] using ih (pass state).1
      | false =>
          have fixed := quiet state changed
          simp only [changed, Bool.false_eq_true, if_false, fixed]
          exact (Function.iterate_fixed fixed passes).symm

/-- Settling commutes with a view of the states under which the passes agree. -/
theorem settle_view {α β : Type} (view : α → β) {keeps : α → Prop} {pass : α → α × Bool}
    {viewPass : β → β × Bool}
    (agree : ∀ state, keeps state → keeps (pass state).1 ∧
      viewPass (view state) = (view (pass state).1, (pass state).2))
    (passes : Nat) {state : α} (kept : keeps state) :
    keeps (settle pass passes state) ∧
      view (settle pass passes state) = settle viewPass passes (view state) := by
  induction passes generalizing state with
  | zero => exact ⟨kept, rfl⟩
  | succ passes ih =>
      obtain ⟨keptNext, viewNext⟩ := agree state kept
      simp only [settle, viewNext]
      cases (pass state).2 with
      | true => exact ih keptNext
      | false => exact ⟨keptNext, rfl⟩

namespace Inference

variable [Add S] [LT S] [DecidableLT S]

/-- An inference with both scores makes an offer, and one without leaves all as it is. -/
theorem apply_cases (state : Holding S ι × Bool) (inference : Inference S ι) :
    (∃ left right, inference.left.score? state.1 = some left ∧
        inference.right.score? state.1 = some right ∧
        inference.apply state =
          ((state.1.offer inference.head (inference.weight + left + right, inference.reason)).1,
            (state.1.offer inference.head
              (inference.weight + left + right, inference.reason)).2 || state.2)) ∨
      ((inference.left.score? state.1 = none ∨ inference.right.score? state.1 = none) ∧
        inference.apply state = state) := by
  rw [apply]
  cases left : inference.left.score? state.1 with
  | none => exact Or.inr ⟨Or.inl rfl, rfl⟩
  | some leftScore =>
      cases right : inference.right.score? state.1 with
      | none => exact Or.inr ⟨Or.inr rfl, rfl⟩
      | some rightScore => exact Or.inl ⟨leftScore, rightScore, rfl, rfl, rfl⟩

theorem apply_quiet {state : Holding S ι × Bool} {inference : Inference S ι}
    (quiet : (inference.apply state).2 = false) : inference.apply state = state := by
  rcases apply_cases state inference with ⟨left, right, _, _, applied⟩ | ⟨_, applied⟩
  · rw [applied, Bool.or_eq_false_iff] at quiet
    rw [applied, Holding.offer_quiet quiet.1, quiet.1, Bool.false_or]
  · exact applied

theorem foldl_apply_quiet {inferences : List (Inference S ι)} {state : Holding S ι × Bool}
    (quiet : (inferences.foldl apply state).2 = false) : inferences.foldl apply state = state :=
  foldl_fixed (fixed_of_foldl_quiet (fun _ _ => apply_quiet) quiet)

theorem all_foldl_apply {holds : SymbolId → S × ι → Prop} {inferences : List (Inference S ι)}
    {state : Holding S ι × Bool} (before : state.1.All holds)
    (new : ∀ inference ∈ inferences, ∀ table : Holding S ι, table.All holds → ∀ left right,
      inference.left.score? table = some left → inference.right.score? table = some right →
        holds inference.head (inference.weight + left + right, inference.reason)) :
    (inferences.foldl apply state).1.All holds := by
  induction inferences generalizing state with
  | nil => exact before
  | cons inference rest ih =>
      refine ih ?_ fun later member => new later (List.mem_cons_of_mem _ member)
      rcases apply_cases state inference with ⟨left, right, leftEq, rightEq, applied⟩ | ⟨_, applied⟩
      · rw [applied]
        exact Holding.all_offer before
          (new inference List.mem_cons_self state.1 before left right leftEq rightEq)
      · rw [applied]
        exact before

end Inference

namespace Relaxation

variable [Add S] [LT S] [DecidableLT S]

theorem pass_quiet {relaxation : Relaxation S ι} {table : Holding S ι}
    (quiet : (relaxation.pass table).2 = false) : (relaxation.pass table).1 = table := by
  rw [pass, Inference.foldl_apply_quiet quiet]

theorem result_eq_after (relaxation : Relaxation S ι) (passes : Nat) :
    relaxation.result passes = relaxation.after passes :=
  settle_eq_iterate (fun _ => pass_quiet) passes relaxation.start

theorem after_succ (relaxation : Relaxation S ι) (passes : Nat) :
    relaxation.after (passes + 1) = (relaxation.pass (relaxation.after passes)).1 :=
  Function.iterate_succ_apply' _ passes relaxation.start

/-- What is held after any number of passes was held at first or is found by an inference. -/
theorem all_after {relaxation : Relaxation S ι} {holds : SymbolId → S × ι → Prop}
    (first : relaxation.start.All holds)
    (new : ∀ inference ∈ relaxation.inferences, ∀ table : Holding S ι, table.All holds →
      ∀ left right, inference.left.score? table = some left →
        inference.right.score? table = some right →
          holds inference.head (inference.weight + left + right, inference.reason))
    (passes : Nat) : (relaxation.after passes).All holds := by
  induction passes with
  | zero => exact first
  | succ passes ih =>
      rw [after_succ]
      exact Inference.all_foldl_apply ih new

end Relaxation

end QuestionSearch.Grammar
