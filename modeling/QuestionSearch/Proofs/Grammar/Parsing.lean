import Mathlib.Analysis.SpecialFunctions.Log.Basic
import QuestionSearch.Proofs.Grammar.BestTree

/-!
# Parsing

What parsing gives for every checked grammar and every list of tokens. A tree that is found follows
the rules and reads the tokens, whatever scores are (`parse?_shape`). With lawful scores a tree is
found if and only if there is a derivation, and none of its parts could be better (`parse?_best`).
-/

namespace QuestionSearch.Grammar

variable {S : Type} [Add S] [LT S] [DecidableLT S]

namespace GrammarModel

section Lawful

variable {model : GrammarModel S} {ln : Float → S} {definition : GrammarDefinition}
  {tokens : List String} {IsScore : S → Prop} (represents : model.Represents ln definition)
  (laws : ScoreLaws S IsScore)
  (lnScores : ∀ probability, isRuleProbability probability = true → IsScore (ln probability))

include represents

/-- Every token of a derivation is a word of the grammar. -/
theorem terminalRules_ne_empty {tree : ParseTree S}
    (derivation : tree.IsDerivation ln definition tokens) (span : tree.span = ⟨0, tokens.length⟩)
    {token : String} (member : token ∈ tokens) : (model.terminalRules token).isEmpty = false := by
  obtain ⟨startEq, stopEq⟩ := Span.mk.inj span
  have read : tree.tokensRead = tokens := by
    rw [ParseTree.tokensRead_eq derivation.tiles, startEq, stopEq]
    simp
  obtain ⟨label, leafSpan, weight, leafMem⟩ := ParseTree.mem_tokensRead (read.symm ▸ member)
  obtain ⟨probability, ruleMem, _⟩ := (derivation _ leafMem).1
  obtain ⟨place, rule, found, checked⟩ := represents.exists_rule ruleMem
  have placeMem : place ∈ model.terminalRules token := by
    refine represents.mem_terminalRules_iff.mpr ⟨rule, found, ?_⟩
    cases checked
    rfl
  rw [Array.isEmpty_eq_false_iff]
  rintro empty
  rw [empty] at placeMem
  simp at placeMem

include laws lnScores

/-- A tree is found if there is a derivation. -/
theorem exists_parse?_of_derivation {other : ParseTree S}
    (derivation : other.IsDerivation ln definition tokens) (label : other.label = definition.start)
    (span : other.span = ⟨0, tokens.length⟩) :
    ∃ tree, model.parse? tokens = some tree := by
  obtain ⟨startEq, stopEq⟩ := Span.mk.inj span
  obtain ⟨symbol, score, found, held, _⟩ :=
    exists_score?_of_derivation represents laws lnScores derivation
  rw [label] at found
  obtain rfl := Option.some.inj (found.symm.trans represents.start)
  rw [startEq, stopEq] at held
  rw [parse?]
  split
  · rename_i isEmpty
    obtain rfl := List.isEmpty_iff.mp isEmpty
    rw [List.length_nil, score?_empty] at held
    obtain ⟨null, nullHeld, _⟩ := Option.map_eq_some_iff.mp held
    obtain ⟨tree, built, _⟩ := exists_nullTree? represents (nullsSettled represents laws lnScores)
      (Nat.zero_le ([] : List String).length) nullHeld
    exact ⟨tree, built⟩
  · rename_i notEmpty
    have pos : 0 < tokens.length := List.length_pos_iff.mpr (by simpa using notEmpty)
    have known : (tokens.any fun token => (model.terminalRules token).isEmpty) = false := by
      rw [List.any_eq_false]
      intro token member
      simp [terminalRules_ne_empty represents derivation span member]
    rw [← Nat.zero_add tokens.length, score?_chart pos] at held
    obtain ⟨entry, entryHeld, _⟩ := Option.map_eq_some_iff.mp held
    obtain ⟨tree, built, _⟩ := exists_tree? represents (nullsSettled represents laws lnScores)
      (fun _ _ => rangeSettled represents laws lnScores) pos (Nat.le_of_eq (Nat.zero_add _))
      (represents.id_lt represents.start) entryHeld
    exact ⟨tree, by simpa [known] using built⟩

/-- Each part of a tree that is found has the score that is held for it. -/
theorem best_of_parse? {tree : ParseTree S} (parsed : model.parse? tokens = some tree) :
    tree.Best model ln definition tokens 0 tokens.length model.start := by
  rw [parse?] at parsed
  split at parsed
  · rename_i isEmpty
    obtain rfl := List.isEmpty_iff.mp isEmpty
    have held : ∃ null, model.nulls.at? model.start = some null := by
      simp only [nullTree?, nullTreeWithin?, bind, Option.bind_eq_some_iff] at parsed
      obtain ⟨null, nullHeld, _⟩ := parsed
      exact ⟨null, nullHeld⟩
    obtain ⟨null, nullHeld⟩ := held
    obtain ⟨other, built, best⟩ := exists_nullTree? represents
      (nullsSettled represents laws lnScores) (Nat.zero_le ([] : List String).length) nullHeld
    obtain rfl := Option.some.inj (parsed.symm.trans built)
    exact best
  · rename_i notEmpty
    split at parsed
    · cases parsed
    · have pos : 0 < tokens.length := List.length_pos_iff.mpr (by simpa using notEmpty)
      have held : ∃ entry,
          (model.chart tokens).at? 0 tokens.length model.start = some entry := by
        have unfolded := parsed
        simp only [tree?, treeWithin?, bind, Option.bind_eq_some_iff] at unfolded
        obtain ⟨entry, entryHeld, _⟩ := unfolded
        exact ⟨entry, entryHeld⟩
      obtain ⟨entry, entryHeld⟩ := held
      obtain ⟨other, built, best⟩ := exists_tree? represents
        (nullsSettled represents laws lnScores) (fun _ _ => rangeSettled represents laws lnScores)
        pos (Nat.le_of_eq (Nat.zero_add _)) (represents.id_lt represents.start) entryHeld
      obtain rfl := Option.some.inj (parsed.symm.trans built)
      rwa [Nat.zero_add] at best

end Lawful

end GrammarModel

/-! ## A grammar -/

/-- The logarithm of the probabilities one and one half. -/
noncomputable def halvingLog (probability : Float) : ℝ :=
  if probability < 1 then Real.log (1 / 2) else 0

/-- A grammar for one word, which any number of empty words may follow. -/
def trailingGrammar : GrammarDefinition where
  start := "question"
  nonterminals := ["question", "end"]
  terminals := ["what", ""]
  rules :=
    [⟨"question", ["what"], 0.5⟩, ⟨"question", ["question", "end"], 0.5⟩, ⟨"end", [""], 1⟩]

theorem exists_trailingModel :
    ∃ model, GrammarModel.ofDefinition halvingLog trailingGrammar = .ok model := by
  have half : isRuleProbability 0.5 = true := by decide
  have one : isRuleProbability 1 = true := by decide
  simp [GrammarModel.ofDefinition, trailingGrammar, Symbols.ofDefinition, Symbols.isNonterminal,
    Symbols.id?, Symbols.isTerminal, Symbols.childId, Symbols.rightSide, addRule, checkRule, half,
    one, pure, bind, Except.pure, Except.bind]

/-- Exact sums of real numbers that are not positive. -/
theorem scoreLaws_real : ScoreLaws ℝ fun score => score ≤ 0 where
  isScore_add := add_nonpos
  irrefl := lt_irrefl
  trans := lt_trans
  trichotomy := fun _ _ => lt_trichotomy _ _
  add_le_left := fun _ right => (add_le_of_nonpos_right right).not_gt
  add_le_right := fun left _ => (add_le_of_nonpos_left left).not_gt
  add_mono_left := fun _ _ _ le => (add_le_add_left (le_of_not_gt le) _).not_gt
  add_mono_right := fun _ _ _ le => (add_le_add_right (le_of_not_gt le) _).not_gt

theorem halvingLog_nonpos (probability : Float) (_ : isRuleProbability probability = true) :
    halvingLog probability ≤ 0 := by
  rw [halvingLog]
  split
  · exact Real.log_nonpos (by norm_num) (by norm_num)
  · exact le_refl 0

/-- The word by itself is a derivation. -/
theorem isDerivation_what :
    (ParseTree.leaf "question" "what" ⟨0, 1⟩ (halvingLog 0.5)).IsDerivation halvingLog
      trailingGrammar ["what"] :=
  ParseTree.forall_preorder_leaf.mpr
    ⟨⟨0.5, List.mem_cons_self, rfl⟩, Or.inl ⟨rfl, rfl⟩⟩

namespace GrammarModel

variable {model : GrammarModel S} {ln : Float → S} {definition : GrammarDefinition}

/-- A tree that is found for some tokens stands for the start symbol over all of them; at each node
stands a rule of the definition, the parts of a node lie side by side and in order, and the words
over nonempty ranges are the tokens. -/
theorem parse?_shape (built : ofDefinition ln definition = .ok model) {tokens : List String}
    {tree : ParseTree S} (parsed : model.parse? tokens = some tree) :
    tree.label = definition.start ∧ tree.span = ⟨0, tokens.length⟩ ∧
      (∀ node ∈ tree.preorder, node.FollowsRule definition ∧ node.Tiles tokens ∧
        node.start ≤ node.stop) ∧
      tree.tokensRead = tokens := by
  have shaped := shaped_parse? (represents_of_ofDefinition built) parsed
  have tiles : ∀ node ∈ tree.preorder, node.Tiles tokens :=
    fun node member => (shaped.nodes node member).2
  refine ⟨shaped.label, shaped.span, ?_, ?_⟩
  · intro node member
    have inner : ∀ part ∈ node.preorder, part.Tiles tokens :=
      fun part partMem => tiles part (ParseTree.preorder_subset member partMem)
    exact ⟨(shaped.nodes node member).1, tiles node member, (ParseTree.start_le_stop inner).1⟩
  · obtain ⟨startEq, stopEq⟩ := Span.mk.inj shaped.span
    rw [ParseTree.tokensRead_eq tiles, startEq, stopEq]
    simp

theorem parse?_shape_what : ∃ (model : GrammarModel ℝ) (tree : ParseTree ℝ),
    ofDefinition halvingLog trailingGrammar = .ok model ∧ model.parse? ["what"] = some tree ∧
      tree.label = "question" ∧ tree.span = ⟨0, 1⟩ ∧ tree.tokensRead = ["what"] := by
  obtain ⟨model, built⟩ := exists_trailingModel
  obtain ⟨tree, parsed⟩ := exists_parse?_of_derivation (represents_of_ofDefinition built)
    scoreLaws_real halvingLog_nonpos isDerivation_what rfl rfl
  obtain ⟨label, span, _, read⟩ := parse?_shape built parsed
  exact ⟨model, tree, built, parsed, label, span, read⟩

/-- Parsing finds a tree if and only if the start symbol derives all the tokens. The tree that it
finds is a derivation, and no derivation of the range of one of its parts from the nonterminal there
has a better score than that part. -/
theorem parse?_best {IsScore : S → Prop} (laws : ScoreLaws S IsScore)
    (lnScores : ∀ probability, isRuleProbability probability = true → IsScore (ln probability))
    (built : ofDefinition ln definition = .ok model) (tokens : List String) :
    (model.parse? tokens = none ↔
      ¬ ∃ tree : ParseTree S, tree.IsDerivation ln definition tokens ∧
        tree.label = definition.start ∧ tree.span = ⟨0, tokens.length⟩) ∧
    ∀ tree, model.parse? tokens = some tree →
      tree.IsDerivation ln definition tokens ∧ tree.label = definition.start ∧
      tree.span = ⟨0, tokens.length⟩ ∧
      ∀ node ∈ tree.preorder, ∀ other : ParseTree S, other.IsDerivation ln definition tokens →
        other.label = node.label → other.span = node.span → ¬ node.weight < other.weight := by
  have represents := represents_of_ofDefinition built
  have startName : model.symbolName model.start = definition.start :=
    represents.symbolName_eq represents.start
  constructor
  · constructor
    · rintro missing ⟨tree, derivation, label, span⟩
      obtain ⟨found, parsed⟩ :=
        exists_parse?_of_derivation represents laws lnScores derivation label span
      simp [missing] at parsed
    · intro underivable
      cases parsed : model.parse? tokens with
      | none => rfl
      | some tree =>
          have best := best_of_parse? represents laws lnScores parsed
          exact absurd ⟨tree, best.derivation, best.label.trans startName, best.span⟩ underivable
  · intro tree parsed
    have best := best_of_parse? represents laws lnScores parsed
    refine ⟨best.derivation, best.label.trans startName, best.span, ?_⟩
    intro node member other derivation sameLabel sameSpan
    obtain ⟨id, idEq, held⟩ := best.held node member
    obtain ⟨otherId, score, otherIdEq, otherHeld, _, scoreLe⟩ :=
      exists_score?_of_derivation represents laws lnScores derivation
    obtain ⟨sameStart, sameStop⟩ := Span.mk.inj sameSpan
    rw [sameLabel] at otherIdEq
    rw [sameStart, sameStop] at otherHeld
    obtain rfl := Option.some.inj (idEq.symm.trans otherIdEq)
    obtain rfl := Option.some.inj (held.symm.trans otherHeld)
    exact scoreLe

theorem parse?_best_what : ∃ (model : GrammarModel ℝ) (tree : ParseTree ℝ),
    ofDefinition halvingLog trailingGrammar = .ok model ∧ model.parse? ["what"] = some tree ∧
      tree.IsDerivation halvingLog trailingGrammar ["what"] ∧ ¬ tree.weight < halvingLog 0.5 := by
  obtain ⟨model, built⟩ := exists_trailingModel
  obtain ⟨complete, optimal⟩ := parse?_best scoreLaws_real halvingLog_nonpos built ["what"]
  have found : model.parse? ["what"] ≠ none :=
    fun missing => complete.mp missing ⟨_, isDerivation_what, rfl, rfl⟩
  obtain ⟨tree, parsed⟩ := Option.ne_none_iff_exists'.mp found
  obtain ⟨derivation, label, span, better⟩ := optimal tree parsed
  exact ⟨model, tree, built, parsed, derivation,
    better tree (ParseTree.mem_preorder_self tree) _ isDerivation_what label.symm span.symm⟩

end GrammarModel

end QuestionSearch.Grammar
