import QuestionSearch.Grammar.Parser

/-!
# Moments of filling

The states that are met while the derivations of the empty word are found and while a chart is
filled, offer by offer. Each predicate follows the recursion of the function it is about, and what
the function gives is the last state that is met.
-/

namespace QuestionSearch.Grammar

section Loops

variable {α κ : Type}

/-- The states met in a fold, where each step may meet states of its own. -/
def MetInFold (step : α → κ → α) (met : α → κ → α → Prop) : List κ → α → α → Prop
  | [], first, state => state = first
  | item :: rest, first, state =>
    met first item state ∨ MetInFold step met rest (step first item) state

/-- The states met in a fold whose steps do one thing each: those between the steps. -/
abbrev MetBetween (step : α → κ → α) : List κ → α → α → Prop :=
  MetInFold step fun before _ state => state = before

/-- The states met while a pass is repeated until it reports no change. -/
def MetInSettle (pass : α → α × Bool) (met : α → α → Prop) : Nat → α → α → Prop
  | 0, first, state => state = first
  | passes + 1, first, state =>
    met first state ∨ (pass first).2 = true ∧ MetInSettle pass met passes (pass first).1 state

variable {step : α → κ → α} {met : α → κ → α → Prop} {items : List κ} {first state : α}

theorem metInFold_last : MetInFold step met items first (items.foldl step first) := by
  induction items generalizing first with
  | nil => rfl
  | cons item rest ih => exact Or.inr ih

/-- What each step takes on, and holds of the states it meets, holds of all states met. -/
theorem MetInFold.keeps (holds : α → Prop)
    (each : ∀ before, holds before → ∀ item ∈ items,
      holds (step before item) ∧ ∀ state, met before item state → holds state)
    (start : holds first) (isMet : MetInFold step met items first state) : holds state := by
  induction items generalizing first with
  | nil => exact isMet.symm ▸ start
  | cons item rest ih =>
      obtain ⟨next, inner⟩ := each first start item List.mem_cons_self
      rcases isMet with now | later
      · exact inner state now
      · exact ih (fun before kept other member => each before kept other
          (List.mem_cons_of_mem _ member)) next later

theorem MetInFold.keeps_between (holds : α → Prop)
    (each : ∀ before, holds before → ∀ item ∈ items, holds (step before item))
    (start : holds first) (isMet : MetBetween step items first state) : holds state := by
  refine isMet.keeps holds (fun before kept item member => ⟨each before kept item member, ?_⟩)
    start
  rintro state rfl
  exact kept

theorem MetInFold.keeps_within (holds : α → Prop)
    (last : ∀ before item, met before item (step before item))
    (each : ∀ before, holds before → ∀ item ∈ items, ∀ state, met before item state → holds state)
    (start : holds first) (isMet : MetInFold step met items first state) : holds state :=
  isMet.keeps holds (fun before kept item member => ⟨each before kept item member _
    (last before item), each before kept item member⟩) start

theorem metInSettle_last {pass : α → α × Bool} {met : α → α → Prop}
    (last : ∀ before, met before (pass before).1) (passes : Nat) :
    MetInSettle pass met passes first (settle pass passes first) := by
  induction passes generalizing first with
  | zero => rfl
  | succ passes ih =>
      rw [settle]
      cases changed : (pass first).2 with
      | true => exact Or.inr ⟨changed, by simpa [changed] using ih⟩
      | false => exact Or.inl (by simpa [changed] using last first)

theorem MetInSettle.keeps {pass : α → α × Bool} {met : α → α → Prop} (holds : α → Prop)
    (last : ∀ before, met before (pass before).1)
    (each : ∀ before, holds before → ∀ state, met before state → holds state) {passes : Nat}
    (start : holds first) (isMet : MetInSettle pass met passes first state) : holds state := by
  induction passes generalizing first with
  | zero => exact isMet.symm ▸ start
  | succ passes ih =>
      rcases isMet with now | ⟨_, later⟩
      · exact each first start state now
      · exact ih (each first start _ (last first)) later

end Loops

variable {S : Type} [Add S] [LT S] [DecidableLT S]

/-! ## The empty word -/

namespace NullTable

/-- A rule makes an offer if both its nonterminals derive the empty word, and leaves all as it is
otherwise. -/
theorem relax_cases (rules : Array (WeightedRule S)) (state : NullTable S × Bool)
    (place : RuleIndex) :
    (∃ rule left right leftNull rightNull, rules[place]? = some rule ∧
        rule.children = some (left, right) ∧ state.1.at? left = some leftNull ∧
        state.1.at? right = some rightNull ∧
        relax rules state place =
          ((state.1.offer rule.head
              ⟨rule.score + leftNull.score + rightNull.score, place⟩).1,
            state.2 || (state.1.offer rule.head
              ⟨rule.score + leftNull.score + rightNull.score, place⟩).2)) ∨
      relax rules state place = state := by
  rw [relax]
  cases found : rules[place]? with
  | none => exact Or.inr rfl
  | some rule =>
      cases children : rule.children with
      | none => exact Or.inr (by simp [children])
      | some pair =>
          obtain ⟨left, right⟩ := pair
          cases leftHeld : state.1.at? left with
          | none => exact Or.inr (by simp [children, leftHeld])
          | some leftNull =>
              cases rightHeld : state.1.at? right with
              | none => exact Or.inr (by simp [children, leftHeld, rightHeld])
              | some rightNull =>
                  exact Or.inl ⟨rule, left, right, leftNull, rightNull, rfl, children, leftHeld,
                    rightHeld, by simp [children, leftHeld, rightHeld]⟩

/-- The tables met in one pass over the rules for two nonterminals. -/
def MetInPass (rules : Array (WeightedRule S)) (places : List RuleIndex)
    (first table : NullTable S) : Prop :=
  ∃ changed, MetBetween (relax rules) places (first, false) (table, changed)

/-- The tables met while the best derivations of the empty word are found. -/
def MetInBuild (symbols : Nat) (rules : Array (WeightedRule S)) (tables : RuleTables)
    (table : NullTable S) : Prop :=
  let empty := Array.replicate symbols none
  let words := tables.byTerminal.getD "" #[]
  MetBetween (offerWord rules) words.toList empty table ∨
    MetInSettle (fun table => tables.binary.foldl (relax rules) (table, false))
      (MetInPass rules tables.binary.toList) (symbols + 1) (words.foldl (offerWord rules) empty)
      table

theorem metInPass_last (rules : Array (WeightedRule S)) (places : Array RuleIndex)
    (first : NullTable S) :
    MetInPass rules places.toList first (places.foldl (relax rules) (first, false)).1 := by
  rw [← Array.foldl_toList]
  exact ⟨_, metInFold_last⟩

theorem metInBuild_last (symbols : Nat) (rules : Array (WeightedRule S)) (tables : RuleTables) :
    MetInBuild symbols rules tables (build symbols rules tables) :=
  Or.inr (metInSettle_last (metInPass_last rules tables.binary) _)

end NullTable

/-! ## Charts -/

namespace GrammarModel

variable (model : GrammarModel S)

/-- Offers the entry by a rule the right of whose nonterminals derives the empty word. -/
def relaxRight (start length : Nat) (state : Chart S × Bool) (index : RuleIndex) :
    Chart S × Bool :=
  match model.rules[index]? with
  | none => state
  | some rule =>
    match rule.children with
    | none => state
    | some (left, right) =>
      match state.1.at? start length left, model.nulls.at? right with
      | some entry, some null =>
        let (chart, improved) := state.1.offer start length rule.head
          ⟨rule.score + entry.score + null.score, .emptyRight index⟩
        (chart, improved || state.2)
      | _, _ => state

/-- Offers the entry by a rule the left of whose nonterminals derives the empty word. -/
def relaxLeft (start length : Nat) (state : Chart S × Bool) (index : RuleIndex) :
    Chart S × Bool :=
  match model.rules[index]? with
  | none => state
  | some rule =>
    match rule.children with
    | none => state
    | some (left, right) =>
      match model.nulls.at? left, state.1.at? start length right with
      | some null, some entry =>
        let (chart, improved) := state.1.offer start length rule.head
          ⟨rule.score + null.score + entry.score, .emptyLeft index⟩
        (chart, improved || state.2)
      | _, _ => state

/-- Offers the entry by a rule for the two parts of a cut. -/
def offerSplit (start length cut : Nat) (left right : S) (chart : Chart S) (index : RuleIndex) :
    Chart S :=
  match model.rules[index]? with
  | none => chart
  | some rule =>
    (chart.offer start length rule.head ⟨rule.score + left + right, .split index cut⟩).1

/-- A rule makes its two offers one after the other. -/
theorem relaxRule_eq (start length : Nat) (state : Chart S × Bool) (index : RuleIndex) :
    model.relaxRule start length state index =
      model.relaxLeft start length (model.relaxRight start length state index) index := by
  cases found : model.rules[index]? with
  | none => simp only [relaxRule, relaxLeft, relaxRight, found]
  | some rule =>
      cases children : rule.children with
      | none => simp only [relaxRule, relaxLeft, relaxRight, found, children]
      | some pair =>
          rewrite [relaxRule, relaxLeft, relaxRight, found]
          dsimp only
          rewrite [children]
          rfl

/-- A rule makes an offer if its left nonterminal derives the range and its right one the empty
word. -/
theorem relaxRight_cases (start length : Nat) (state : Chart S × Bool) (index : RuleIndex) :
    (∃ rule left right entry null, model.rules[index]? = some rule ∧
        rule.children = some (left, right) ∧ state.1.at? start length left = some entry ∧
        model.nulls.at? right = some null ∧
        model.relaxRight start length state index =
          ((state.1.offer start length rule.head
              ⟨rule.score + entry.score + null.score, .emptyRight index⟩).1,
            (state.1.offer start length rule.head
              ⟨rule.score + entry.score + null.score, .emptyRight index⟩).2 || state.2)) ∨
      model.relaxRight start length state index = state := by
  rw [relaxRight]
  cases found : model.rules[index]? with
  | none => exact Or.inr rfl
  | some rule =>
      cases children : rule.children with
      | none => exact Or.inr (by simp [children])
      | some pair =>
          obtain ⟨left, right⟩ := pair
          cases held : state.1.at? start length left with
          | none => exact Or.inr (by simp [children, held])
          | some entry =>
              cases nullHeld : model.nulls.at? right with
              | none => exact Or.inr (by simp [children, held, nullHeld])
              | some null =>
                  exact Or.inl ⟨rule, left, right, entry, null, rfl, children, held, nullHeld,
                    by simp [children, held, nullHeld]⟩

/-- A rule makes an offer if its left nonterminal derives the empty word and its right one the
range. -/
theorem relaxLeft_cases (start length : Nat) (state : Chart S × Bool) (index : RuleIndex) :
    (∃ rule left right null entry, model.rules[index]? = some rule ∧
        rule.children = some (left, right) ∧ model.nulls.at? left = some null ∧
        state.1.at? start length right = some entry ∧
        model.relaxLeft start length state index =
          ((state.1.offer start length rule.head
              ⟨rule.score + null.score + entry.score, .emptyLeft index⟩).1,
            (state.1.offer start length rule.head
              ⟨rule.score + null.score + entry.score, .emptyLeft index⟩).2 || state.2)) ∨
      model.relaxLeft start length state index = state := by
  rw [relaxLeft]
  cases found : model.rules[index]? with
  | none => exact Or.inr rfl
  | some rule =>
      cases children : rule.children with
      | none => exact Or.inr (by simp [children])
      | some pair =>
          obtain ⟨left, right⟩ := pair
          cases nullHeld : model.nulls.at? left with
          | none => exact Or.inr (by simp [children, nullHeld])
          | some null =>
              cases held : state.1.at? start length right with
              | none => exact Or.inr (by simp [children, nullHeld, held])
              | some entry =>
                  exact Or.inl ⟨rule, left, right, null, entry, rfl, children, nullHeld, held,
                    by simp [children, nullHeld, held]⟩

theorem offerPair_eq (start length cut : Nat) (chart : Chart S) (left right : SymbolId × S) :
    model.offerPair start length cut chart left right =
      (model.pairRules left.1 right.1).toList.foldl
        (model.offerSplit start length cut left.2 right.2) chart :=
  (Array.foldl_toList ..).symm

/-- The charts met in one pass over the rules one of whose nonterminals derives the empty word. -/
def MetInPass (start length : Nat) (first chart : Chart S) : Prop :=
  ∃ changed, MetInFold (model.relaxRule start length)
    (fun before index state => state = before ∨ state = model.relaxRight start length before index)
    model.tables.binary.toList (first, false) (chart, changed)

/-- The charts met while a range is closed. -/
def MetInClosing (start length : Nat) : Chart S → Chart S → Prop :=
  MetInSettle (fun chart => model.tables.binary.foldl (model.relaxRule start length) (chart, false))
    (model.MetInPass start length) (model.symbolCount + 1)

/-- The charts met while the range of one token is filled. -/
def MetInToken (first : Chart S) (token : String × Nat) (chart : Chart S) : Prop :=
  let rules := model.terminalRules token.1
  MetBetween (model.offerTerminal token.2) rules.toList first chart ∨
    model.MetInClosing token.2 1 (rules.foldl (model.offerTerminal token.2) first) chart

/-- The charts met while the entries for one cut of a range are offered. -/
def MetInCut (start length cut : Nat) (first chart : Chart S) : Prop :=
  let lefts := first.filled start cut
  let rights := first.filled (start + cut) (length - cut)
  MetInFold
    (fun chart left =>
      rights.foldl (fun chart right => model.offerPair start length cut chart left right) chart)
    (fun first left =>
      MetInFold (fun chart right => model.offerPair start length cut chart left right)
        (fun first right => MetBetween (model.offerSplit start length cut left.2 right.2)
          (model.pairRules left.1 right.1).toList first)
        rights first)
    lefts first chart

/-- The charts met while a range of more than one token is filled. -/
def MetInRange (length : Nat) (first : Chart S) (start : Nat) (chart : Chart S) : Prop :=
  let offerCut := fun chart index => model.offerCut start length chart (index + 1)
  let cuts := List.range (length - 1)
  MetInFold offerCut (fun first index => model.MetInCut start length (index + 1) first) cuts first
      chart ∨
    model.MetInClosing start length (cuts.foldl offerCut first) chart

/-- The charts met while the ranges of a length are filled. -/
def MetInLength (tokens : Nat) (first : Chart S) (length : Nat) : Chart S → Prop :=
  MetInFold (model.fillRange length) (model.MetInRange length)
    (List.range (tokens + 1 - length)) first

/-- The charts met while the chart of some tokens is filled. -/
def MetInChart (tokens : List String) (chart : Chart S) : Prop :=
  let empty := .empty ⟨tokens.length, model.symbolCount⟩
  MetInFold model.fillToken model.MetInToken tokens.zipIdx empty chart ∨
    MetInFold (fun chart index => model.fillLength tokens.length chart (index + 2))
      (fun first index => model.MetInLength tokens.length first (index + 2))
      (List.range (tokens.length - 1)) (tokens.zipIdx.foldl model.fillToken empty) chart

theorem metInPass_last (start length : Nat) (first : Chart S) :
    model.MetInPass start length first
      (model.tables.binary.foldl (model.relaxRule start length) (first, false)).1 := by
  rw [← Array.foldl_toList]
  exact ⟨_, metInFold_last⟩

theorem metInClosing_last (start length : Nat) (first : Chart S) :
    model.MetInClosing start length first (model.closeRange start length first) :=
  metInSettle_last (model.metInPass_last start length) _

theorem metInToken_last (first : Chart S) (token : String × Nat) :
    model.MetInToken first token (model.fillToken first token) :=
  Or.inr (model.metInClosing_last _ _ _)

theorem metInRange_last (length : Nat) (first : Chart S) (start : Nat) :
    model.MetInRange length first start (model.fillRange length first start) :=
  Or.inr (model.metInClosing_last _ _ _)

theorem metInLength_last (tokens : Nat) (first : Chart S) (length : Nat) :
    model.MetInLength tokens first length (model.fillLength tokens first length) :=
  metInFold_last

theorem metInChart_last (tokens : List String) : model.MetInChart tokens (model.chart tokens) :=
  Or.inr metInFold_last

end GrammarModel

end QuestionSearch.Grammar
