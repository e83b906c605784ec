import Mathlib.Data.List.Lex
import QuestionSearch.Proofs.Grammar.FirstBest
import QuestionSearch.Proofs.Grammar.TraceableTables

/-!
# Ties

A range can begin to be derived from a nonterminal by each rule for its only token and, if it is
longer, by each rule for the parts of each of its cuts. These beginnings have an order of their own
(`Beginning.key`), and they are offered in that order (`pairwise_rangeCandidates`). So the entry of
a finished chart stands for the first of the best beginnings, unless an empty part makes it better
than all of them (`entry_cases`).
-/

namespace QuestionSearch.Grammar

/-- How the derivation of a range from a nonterminal can begin without empty parts. -/
inductive Beginning
  /-- By the rule at a place, for the only token. -/
  | word (place : RuleIndex)
  /-- By the rule at a place, for two nonterminals, the left of which derives so many tokens. -/
  | parts (cut : Nat) (left right : SymbolId) (place : RuleIndex)
deriving DecidableEq, Repr

namespace Beginning

/-- The numbers by which beginnings are ordered, the first of which counts most. -/
def key : Beginning → List Nat
  | word place => [place]
  | parts cut left right place => [cut, left, right, place]

/-- How an entry refers to a beginning. -/
def back : Beginning → Back
  | word place => .terminal place
  | parts cut _ _ place => .split place cut

theorem key_inj {first second : Beginning} (same : first.key = second.key) : first = second := by
  cases first <;> cases second <;> simp_all [key]

end Beginning

/-- Whether an entry has an empty part. -/
def Back.HasEmptyPart (back : Back) : Prop :=
  ∃ place, back = .emptyLeft place ∨ back = .emptyRight place

namespace GrammarModel

variable {S : Type}

/-- The key of the beginning that an entry refers to. -/
def backKey (model : GrammarModel S) : Back → List Nat
  | .terminal place => [place]
  | .split place cut =>
    match model.children? place with
    | none => []
    | some (left, right) => [cut, left, right, place]
  | .emptyLeft _ | .emptyRight _ => []

theorem backKey_split {model : GrammarModel S} {place : RuleIndex} {rule : WeightedRule S}
    {left right : SymbolId} (found : model.rules[place]? = some rule)
    (children : rule.children = some (left, right)) (cut : Nat) :
    model.backKey (.split place cut) = [cut, left, right, place] := by
  simp only [backKey, children?_eq found, children]

variable [Add S] [LT S] [DecidableLT S]

/-- The candidates for a range of the finished chart. -/
abbrev chartCandidates (model : GrammarModel S) (tokens : List String) (start length : Nat) :
    List (SymbolId × S × Back) :=
  model.rangeCandidates tokens (model.chart tokens).range start length

/-- Whether the derivation of a range from a nonterminal can begin in some way with a score. The
score follows from what the finished chart holds for the parts. -/
def Begins (model : GrammarModel S) (tokens : List String) (start length : Nat)
    (symbol : SymbolId) (beginning : Beginning) (score : S) : Prop :=
  match beginning with
  | .word place => length = 1 ∧ ∃ rule token, model.rules[place]? = some rule ∧
      rule.head = symbol ∧ rule.terminal? = some token ∧ tokens[start]? = some token ∧
      score = rule.score
  | .parts cut left right place => (0 < cut ∧ cut < length) ∧ ∃ rule leftEntry rightEntry,
      model.rules[place]? = some rule ∧ rule.head = symbol ∧ rule.children = some (left, right) ∧
      (model.chart tokens).at? start cut left = some leftEntry ∧
      (model.chart tokens).at? (start + cut) (length - cut) right = some rightEntry ∧
      score = rule.score + leftEntry.score + rightEntry.score

/-- No beginning is better than this one, and those before it in order are worse. -/
structure IsFirst (model : GrammarModel S) (tokens : List String) (start length : Nat)
    (symbol : SymbolId) (first : Beginning) (score : S) : Prop where
  /-- It is a beginning. -/
  begins : model.Begins tokens start length symbol first score
  /-- None is better. -/
  best : ∀ other otherScore, model.Begins tokens start length symbol other otherScore →
    ¬ score < otherScore
  /-- Those before it are worse. -/
  earlier : ∀ other otherScore, model.Begins tokens start length symbol other otherScore →
    other.key < first.key → otherScore < score

variable {model : GrammarModel S} {ln : Float → S} {definition : GrammarDefinition}
  {tokens : List String} {start length : Nat} {symbol : SymbolId} {IsScore : S → Prop}

theorem Begins.score_eq {first : Beginning} {score other : S}
    (begins : model.Begins tokens start length symbol first score)
    (again : model.Begins tokens start length symbol first other) : score = other := by
  cases first with
  | word place =>
      obtain ⟨_, rule, _, found, _, _, _, rfl⟩ := begins
      obtain ⟨_, otherRule, _, otherFound, _, _, _, rfl⟩ := again
      rw [Option.some.inj (found.symm.trans otherFound)]
  | parts cut left right place =>
      obtain ⟨_, rule, leftEntry, rightEntry, found, _, _, leftHeld, rightHeld, rfl⟩ := begins
      obtain ⟨_, otherRule, otherLeft, otherRight, otherFound, _, _, leftAgain, rightAgain, rfl⟩ :=
        again
      rw [Option.some.inj (found.symm.trans otherFound),
        Option.some.inj (leftHeld.symm.trans leftAgain),
        Option.some.inj (rightHeld.symm.trans rightAgain)]

theorem Begins.backKey_back {beginning : Beginning} {score : S}
    (begins : model.Begins tokens start length symbol beginning score) :
    model.backKey beginning.back = beginning.key := by
  cases beginning with
  | word place => rfl
  | parts cut left right place =>
      obtain ⟨_, rule, _, _, found, _, children, _⟩ := begins
      exact backKey_split found children cut

/-- There is one first beginning. -/
theorem IsFirst.unique {first other : Beginning} {score otherScore : S}
    (isFirst : model.IsFirst tokens start length symbol first score)
    (otherFirst : model.IsFirst tokens start length symbol other otherScore) :
    first = other ∧ score = otherScore := by
  have same : first = other := by
    apply Beginning.key_inj
    rcases lt_trichotomy first.key other.key with lt | same | gt
    · exact absurd (otherFirst.earlier _ _ isFirst.begins lt) (isFirst.best _ _ otherFirst.begins)
    · exact same
    · exact absurd (isFirst.earlier _ _ otherFirst.begins gt) (otherFirst.best _ _ isFirst.begins)
  subst same
  exact ⟨rfl, isFirst.begins.score_eq otherFirst.begins⟩

/-! ## The order of the candidates -/

/-- The candidates for a range are its beginnings. -/
theorem mem_chartCandidates_iff (represents : model.Represents ln definition)
    {candidate : SymbolId × S × Back} :
    candidate ∈ model.chartCandidates tokens start length ↔
      ∃ beginning, model.Begins tokens start length candidate.1 beginning candidate.2.1 ∧
        candidate.2.2 = beginning.back := by
  rw [chartCandidates, mem_rangeCandidates_iff represents]
  constructor
  · rintro (⟨rfl, place, rule, token, tokenFound, found, terminal, rfl⟩ |
      ⟨cut, ⟨cutPos, cutLt⟩, member⟩)
    · exact ⟨.word place, ⟨rfl, rule, token, found, rfl, terminal, tokenFound, rfl⟩, rfl⟩
    · obtain ⟨place, rule, left, right, _, _, found, children, leftEq, rightEq, rfl⟩ :=
        (mem_cutCandidates_iff represents).mp member
      obtain ⟨leftLt, rightLt⟩ := represents.children_lt found children
      obtain ⟨leftEntry, leftHeld, rfl⟩ := exists_entry_of_score? represents leftLt leftEq
      obtain ⟨rightEntry, rightHeld, rfl⟩ := exists_entry_of_score? represents rightLt rightEq
      exact ⟨.parts cut left right place, ⟨⟨cutPos, cutLt⟩, rule, leftEntry, rightEntry, found, rfl,
        children, leftHeld, rightHeld, rfl⟩, rfl⟩
  · rintro ⟨beginning, begins, backEq⟩
    obtain ⟨head, score, back⟩ := candidate
    obtain rfl : back = beginning.back := backEq
    cases beginning with
    | word place =>
        obtain ⟨single, rule, token, found, rfl, terminal, tokenFound, rfl⟩ := begins
        exact Or.inl ⟨single, place, rule, token, tokenFound, found, terminal, rfl⟩
    | parts cut left right place =>
        obtain ⟨inside, rule, leftEntry, rightEntry, found, rfl, children, leftHeld, rightHeld,
          rfl⟩ := begins
        obtain ⟨leftLt, rightLt⟩ := represents.children_lt found children
        refine Or.inr ⟨cut, inside, (mem_cutCandidates_iff represents).mpr ?_⟩
        exact ⟨place, rule, left, right, _, _, found, children,
          score?_range_of_at? represents leftLt leftHeld,
          score?_range_of_at? represents rightLt rightHeld, rfl⟩

theorem Begins.mem_chartCandidates (represents : model.Represents ln definition)
    {beginning : Beginning} {score : S}
    (begins : model.Begins tokens start length symbol beginning score) :
    (symbol, score, beginning.back) ∈ model.chartCandidates tokens start length :=
  (mem_chartCandidates_iff represents).mpr ⟨beginning, begins, rfl⟩

/-- Candidates in the order of the beginnings that they refer to. -/
def Ascending (model : GrammarModel S) (candidates : List (SymbolId × S × Back)) : Prop :=
  candidates.Pairwise fun first second => model.backKey first.2.2 < model.backKey second.2.2

/-- The places of rules come in order. -/
theorem ascending_terminalCandidates (represents : model.Represents ln definition)
    (token : String) :
    model.Ascending ((model.terminalRules token).toList.filterMap model.terminalCandidate?) := by
  refine List.pairwise_filterMap.mpr ((represents.pairwise_terminalRules token).imp ?_)
  intro place other lt candidate candidateEq next nextEq
  obtain ⟨rule, _, rfl⟩ := Option.map_eq_some_iff.mp candidateEq
  obtain ⟨nextRule, _, rfl⟩ := Option.map_eq_some_iff.mp nextEq
  simpa [backKey, List.cons_lt_cons_iff] using lt

theorem ascending_splitCandidates (represents : model.Represents ln definition) (cut : Nat)
    (left right : SymbolId × S) :
    model.Ascending ((model.pairRules left.1 right.1).toList.filterMap
      (model.splitCandidate? cut left.2 right.2)) := by
  refine List.pairwise_filterMap.mpr ((represents.pairwise_pairRules _ _).imp_of_mem ?_)
  intro place next placeMem nextMem lt candidate candidateEq other otherEq
  obtain ⟨rule, found, children⟩ :=
    represents.mem_pairRules_iff.mp (Array.mem_toList_iff.mp placeMem)
  obtain ⟨nextRule, nextFound, nextChildren⟩ :=
    represents.mem_pairRules_iff.mp (Array.mem_toList_iff.mp nextMem)
  obtain ⟨_, _, rfl⟩ := Option.map_eq_some_iff.mp candidateEq
  obtain ⟨_, _, rfl⟩ := Option.map_eq_some_iff.mp otherEq
  rw [backKey_split found children, backKey_split nextFound nextChildren]
  simpa [List.cons_lt_cons_iff] using lt

theorem backKey_of_mem_splitCandidates (represents : model.Represents ln definition) {cut : Nat}
    {left right : SymbolId × S} {candidate : SymbolId × S × Back}
    (member : candidate ∈ (model.pairRules left.1 right.1).toList.filterMap
      (model.splitCandidate? cut left.2 right.2)) :
    ∃ place, model.backKey candidate.2.2 = [cut, left.1, right.1, place] := by
  obtain ⟨place, rule, found, children, rfl⟩ := (mem_splitCandidates_iff represents).mp member
  exact ⟨place, backKey_split found children cut⟩

/-- The left nonterminals come in order, and for each of them the right ones. -/
theorem ascending_cutCandidates (represents : model.Represents ln definition)
    (ranges : Nat → Nat → Holding S Back) (cut : Nat) :
    model.Ascending (model.cutCandidates ranges start length cut) := by
  refine List.pairwise_flatMap.mpr ⟨fun left _ => List.pairwise_flatMap.mpr ⟨fun right _ => ?_, ?_⟩,
    ?_⟩
  · exact ascending_splitCandidates represents cut left right
  · refine (Holding.pairwise_filled _ _).imp ?_
    intro right next lt candidate member other otherMem
    obtain ⟨place, keyEq⟩ := backKey_of_mem_splitCandidates represents member
    obtain ⟨otherPlace, otherKeyEq⟩ := backKey_of_mem_splitCandidates represents otherMem
    rw [keyEq, otherKeyEq]
    simp [List.cons_lt_cons_iff, lt]
  · refine (Holding.pairwise_filled _ _).imp ?_
    intro left next lt candidate member other otherMem
    obtain ⟨right, _, inRight⟩ := List.mem_flatMap.mp member
    obtain ⟨otherRight, _, inOther⟩ := List.mem_flatMap.mp otherMem
    obtain ⟨place, keyEq⟩ := backKey_of_mem_splitCandidates represents inRight
    obtain ⟨otherPlace, otherKeyEq⟩ := backKey_of_mem_splitCandidates represents inOther
    rw [keyEq, otherKeyEq]
    simp [List.cons_lt_cons_iff, lt]

theorem backKey_of_mem_cutCandidates (represents : model.Represents ln definition)
    {ranges : Nat → Nat → Holding S Back} {cut : Nat} {candidate : SymbolId × S × Back}
    (member : candidate ∈ model.cutCandidates ranges start length cut) :
    ∃ rest, model.backKey candidate.2.2 = cut :: rest := by
  obtain ⟨place, rule, left, right, _, _, found, children, _, _, rfl⟩ :=
    (mem_cutCandidates_iff represents).mp member
  exact ⟨[left, right, place], backKey_split found children cut⟩

/-- The candidates for a range come in the order of its beginnings. -/
theorem ascending_rangeCandidates (represents : model.Represents ln definition)
    (ranges : Nat → Nat → Holding S Back) :
    model.Ascending (model.rangeCandidates tokens ranges start length) := by
  rw [rangeCandidates]
  split
  · split
    · exact List.Pairwise.nil
    · exact ascending_terminalCandidates represents _
  · refine List.pairwise_flatMap.mpr
      ⟨fun index _ => ascending_cutCandidates represents ranges (index + 1), ?_⟩
    refine List.pairwise_lt_range.imp fun {index next} lt candidate member other otherMem => ?_
    obtain ⟨rest, keyEq⟩ := backKey_of_mem_cutCandidates represents member
    obtain ⟨otherRest, otherKeyEq⟩ := backKey_of_mem_cutCandidates represents otherMem
    rw [keyEq, otherKeyEq]
    simp [List.cons_lt_cons_iff, lt]

/-! ## What is held -/

/-- A score of a beginning is lawful. -/
theorem Begins.isScore (represents : model.Represents ln definition)
    (order : ScoreOrder S IsScore)
    (lnScores : ∀ probability, isRuleProbability probability = true → IsScore (ln probability))
    (stop : start + length ≤ tokens.length) {beginning : Beginning} {score : S}
    (begins : model.Begins tokens start length symbol beginning score) : IsScore score := by
  cases beginning with
  | word place =>
      obtain ⟨_, rule, _, found, _, _, _, rfl⟩ := begins
      exact represents.isScore lnScores found
  | parts cut left right place =>
      obtain ⟨⟨cutPos, cutLt⟩, rule, leftEntry, rightEntry, found, _, children, leftHeld, rightHeld,
        rfl⟩ := begins
      obtain ⟨leftLt, rightLt⟩ := represents.children_lt found children
      exact order.isScore_total (represents.isScore lnScores found)
        (isScore_at? represents order lnScores cutPos (by omega) leftLt leftHeld)
        (isScore_at? represents order lnScores (by omega) (by omega) rightLt rightHeld)

/-- Whether an entry has an empty part and there are nonterminals that derive the empty word. -/
def LeavesEmpty (model : GrammarModel S) (back : Back) : Prop :=
  back.HasEmptyPart ∧ ∃ symbol null, model.nulls.at? symbol = some null

theorem leavesEmpty_of_mem_inferences (represents : model.Represents ln definition)
    {candidates : List (SymbolId × S × Back)} {inference : Inference S Back}
    (member : inference ∈ (model.rangeRelaxation candidates).inferences) :
    model.LeavesEmpty inference.reason := by
  obtain ⟨place, rule, left, right, null, _, _, ⟨nullHeld, rfl⟩ | ⟨nullHeld, rfl⟩⟩ :=
    (mem_rangeInferences_iff represents).mp member
  · exact ⟨⟨place, Or.inr rfl⟩, right, null, nullHeld⟩
  · exact ⟨⟨place, Or.inl rfl⟩, left, null, nullHeld⟩

/-- The first of the best candidates is the first beginning. -/
theorem isFirst_of_isFirstBest (represents : model.Represents ln definition)
    (order : ScoreOrder S IsScore) {held : S × Back}
    (best : Holding.IsFirstBest (model.chartCandidates tokens start length) symbol held) :
    ∃ first, model.IsFirst tokens start length symbol first held.1 ∧ held.2 = first.back := by
  have best := Holding.isFirstBest_iff.mp best
  obtain ⟨first, begins, backEq⟩ := (mem_chartCandidates_iff represents).mp best.mem
  refine ⟨first, ⟨begins, fun other otherScore otherBegins =>
    best.not_lt order (otherBegins.mem_chartCandidates represents) rfl, ?_⟩, backEq⟩
  intro other otherScore otherBegins before
  rw [← otherBegins.backKey_back, ← begins.backKey_back, ← backEq] at before
  -- What comes after the first of the best has a greater key, so this one comes before it.
  exact best.lt_of_before (fun _ _ => lt_asymm) (ascending_rangeCandidates represents _)
    (otherBegins.mem_chartCandidates represents) rfl before

section Entries

variable (represents : model.Represents ln definition) (order : ScoreOrder S IsScore)
  (lnScores : ∀ probability, isRuleProbability probability = true → IsScore (ln probability))

include represents order lnScores

/-- Before empty parts are considered the first of the best beginnings is held. -/
theorem isBestFound_start (stop : start + length ≤ tokens.length) (symbol : SymbolId) :
    Holding.IsBestFound (model.chartCandidates tokens start length) symbol
      ((model.rangeRelaxation (model.chartCandidates tokens start length)).start symbol) := by
  refine Holding.isBestFound_offerAll order (fun candidate member => ?_) symbol
  obtain ⟨beginning, begins, _⟩ := (mem_chartCandidates_iff represents).mp member
  exact begins.isScore represents order lnScores stop

/-- In the end it is still held, or something better with an empty part. -/
theorem range_cases (pos : 0 < length) (stop : start + length ≤ tokens.length)
    (symbol : SymbolId) :
    Holding.IsBestFound (model.chartCandidates tokens start length) symbol
        ((model.chart tokens).range start length symbol) ∨
      ∃ held, (model.chart tokens).range start length symbol = some held ∧
        model.LeavesEmpty held.2 ∧
        ∀ beginning score, model.Begins tokens start length symbol beginning score →
          score < held.1 := by
  have first := isBestFound_start represents order lnScores stop symbol
  have grown : Holding.Outgrows model.LeavesEmpty
      (model.rangeRelaxation (model.chartCandidates tokens start length)).start
      ((model.chart tokens).range start length) := by
    rw [range_chart represents pos stop, Relaxation.result_eq_after]
    exact Relaxation.outgrows_after order
      (fun _ member => leavesEmpty_of_mem_inferences represents member) _
  rcases grown symbol with same | ⟨held, heldEq, reason, better⟩
  · exact Or.inl (same ▸ first)
  refine Or.inr ⟨held, heldEq, reason, fun beginning score begins => ?_⟩
  have member := begins.mem_chartCandidates represents
  cases startEq : (model.rangeRelaxation (model.chartCandidates tokens start length)).start symbol
    with
  | none =>
      rw [startEq] at first
      exact absurd rfl (first _ member)
  | some before =>
      rw [startEq] at first
      have first := Holding.isFirstBest_iff.mp first
      obtain ⟨other, otherBegins, _⟩ := (mem_chartCandidates_iff represents).mp first.mem
      -- What was held before is at least as good, and what is held now is better than that.
      exact (order.lt_or_lt (otherBegins.isScore represents order lnScores stop)
        (all_isScore_range represents order lnScores pos stop symbol held heldEq)
        (begins.isScore represents order lnScores stop)
        (better before startEq)).resolve_left (first.not_lt order member rfl)

theorem not_begins_of_none (pos : 0 < length) (stop : start + length ≤ tokens.length)
    (missing : (model.chart tokens).at? start length symbol = none) (beginning : Beginning)
    (score : S) : ¬ model.Begins tokens start length symbol beginning score := by
  intro begins
  have rangeEq : (model.chart tokens).range start length symbol = none := by
    simp [Chart.range, missing]
  rcases range_cases represents order lnScores pos stop symbol with best | ⟨held, heldEq, _⟩
  · rw [rangeEq] at best
    exact best _ (begins.mem_chartCandidates represents) rfl
  · rw [rangeEq] at heldEq
    cases heldEq

/-- An entry stands for the first of the best beginnings, or it has an empty part and is better than
all of them. -/
theorem entry_cases (pos : 0 < length) (stop : start + length ≤ tokens.length)
    (symbolLt : symbol < model.symbolCount) {entry : Entry S}
    (held : (model.chart tokens).at? start length symbol = some entry) :
    (∃ first, model.IsFirst tokens start length symbol first entry.score ∧
        entry.back = first.back) ∨
      model.LeavesEmpty entry.back ∧
        ∀ beginning score, model.Begins tokens start length symbol beginning score →
          score < entry.score := by
  have rangeEq := (at?_chart_iff represents symbolLt).mp held
  rcases range_cases represents order lnScores pos stop symbol with
    best | ⟨other, otherEq, reason, better⟩
  · rw [rangeEq] at best
    exact Or.inl (isFirst_of_isFirstBest represents order best)
  · obtain rfl := Option.some.inj (rangeEq.symm.trans otherEq)
    exact Or.inr ⟨reason, better⟩

end Entries

end GrammarModel

end QuestionSearch.Grammar
