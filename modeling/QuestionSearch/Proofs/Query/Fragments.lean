import QuestionSearch.Grammar.Probability
import QuestionSearch.Proofs.Grammar.Parsing
import QuestionSearch.Query.Executor

/-!
# Ends of questions

The fragment of a parse tree is its last leaf. Leaves are found from left to right, be it by
recursion or with a stack (`leavesStacked_eq`). In the tree of a question the last leaf stands for
the last word of the question, or for the empty word after it. So whatever the grammar, a plan asks
the lexical fields for the last word of the question or for nothing (`plan_interpret`).
-/

namespace QuestionSearch

open QuestionSearch.Classifier QuestionSearch.Grammar QuestionSearch.Index QuestionSearch.Query
  QuestionSearch.Text

theorem Text.ne_empty_of_mem_words {text word : String} (member : word ∈ words text) :
    word ≠ "" := by
  obtain ⟨run, runMem, rfl⟩ := List.mem_map.mp member
  intro empty
  exact (mem_runsOf runMem).1 (by simpa using congrArg String.toList empty)

/-! ## Last leaves -/

namespace Grammar

namespace ParseTree

variable {W : Type}

/-- Collects the words of the trees on a stack. The first one is taken off. Of a branch the two
parts are put on, the left one last, so that it is taken next. -/
def leavesStacked (found : List String) : List (ParseTree W) → List String
  | [] => found
  | leaf _ word _ _ :: rest => leavesStacked (found ++ [word]) rest
  | branch _ left right _ :: rest => leavesStacked found (left :: right :: rest)
termination_by stack => (stack.map fun tree => tree.preorder.length).sum
decreasing_by
  all_goals
    simp only [preorder, List.map_cons, List.sum_cons, List.length_cons, List.length_append]
    omega

/-- The words come from left to right. -/
theorem leavesStacked_eq (found : List String) (stack : List (ParseTree W)) :
    leavesStacked found stack = found ++ stack.flatMap leaves := by
  fun_induction leavesStacked found stack with
  | case1 found => rw [List.flatMap_nil, List.append_nil]
  | case2 found label word span weight rest ih =>
      rw [ih, List.flatMap_cons, leaves, List.append_assoc]
  | case3 found label left right weight rest ih =>
      rw [ih, List.flatMap_cons, List.flatMap_cons, List.flatMap_cons, leaves, List.append_assoc]

/-- The range of the leaf at the end of the right edge. -/
def lastRange : ParseTree W → Span
  | leaf _ _ span _ => span
  | branch _ _ right _ => right.lastRange

theorem getLast?_leaves (tree : ParseTree W) : tree.leaves.getLast? = some tree.fragment := by
  rw [List.getLast?_eq_some_getLast tree.leaves_ne_nil, fragment_eq_getLast]

theorem stop_lastRange (tree : ParseTree W) : tree.lastRange.stop = tree.stop := by
  induction tree with
  | leaf => rfl
  | branch _ _ _ _ _ ihRight => exact ihRight

variable {tokens : List String} {tree : ParseTree W}

/-- The last leaf lies over its word, or between two tokens with the empty word. -/
theorem fragment_tiles (tiles : ∀ node ∈ tree.preorder, node.Tiles tokens) :
    (tree.lastRange.stop = tree.lastRange.start + 1 ∧
        tokens[tree.lastRange.start]? = some tree.fragment) ∨
      (tree.lastRange.stop = tree.lastRange.start ∧ tree.fragment = "") := by
  induction tree with
  | leaf label word span weight =>
      rcases forall_preorder_leaf.mp tiles with spans | ⟨stopEq, _, empty⟩
      · exact Or.inl spans
      · exact Or.inr ⟨stopEq, empty⟩
  | branch label left right weight _ ihRight =>
      obtain ⟨_, _, rightTiles⟩ := forall_preorder_branch.mp tiles
      exact ihRight rightTiles

/-- In a tree that stops after the last token, the last leaf is empty or it is that token. -/
theorem fragment_cases (tiles : ∀ node ∈ tree.preorder, node.Tiles tokens)
    (stop : tree.stop = tokens.length) :
    (tree.lastRange.isEmpty = true ∧ tree.fragment = "") ∨
      (tree.lastRange.isEmpty = false ∧ tokens.getLast? = some tree.fragment) := by
  have lastStop : tree.lastRange.stop = tokens.length := tree.stop_lastRange.trans stop
  rcases fragment_tiles tiles with ⟨stopEq, found⟩ | ⟨stopEq, empty⟩
  · have notEmpty : tree.lastRange.start ≠ tree.lastRange.stop := by omega
    have place : tree.lastRange.start = tokens.length - 1 := by omega
    refine Or.inr ⟨by simpa [Span.isEmpty] using notEmpty, ?_⟩
    rw [List.getLast?_eq_getElem?, ← place, found]
  · exact Or.inl ⟨by simp [Span.isEmpty, stopEq], empty⟩

end ParseTree

namespace GrammarModel

variable {S : Type} [Add S] [LT S] [DecidableLT S] {model : GrammarModel S} {ln : Float → S}
  {definition : GrammarDefinition} {question : String} {tree : ParseTree S}

/-- The tree of a question ends in an empty leaf, or in the last word of the question. -/
theorem fragment_of_parse? (built : ofDefinition ln definition = .ok model)
    (parsed : model.parse? (words question) = some tree) :
    (tree.lastRange.isEmpty = true ∧ tree.fragment = "") ∨
      (tree.lastRange.isEmpty = false ∧ tree.fragment ≠ "" ∧
        (words question).getLast? = some tree.fragment) := by
  have shaped := shaped_parse? (represents_of_ofDefinition built) parsed
  have tiles : ∀ node ∈ tree.preorder, node.Tiles (words question) :=
    fun node member => (shaped.nodes node member).2
  obtain ⟨_, stop⟩ := Span.mk.inj shaped.span
  rcases ParseTree.fragment_cases tiles stop with empty | ⟨notEmpty, last⟩
  · exact Or.inl empty
  · exact Or.inr ⟨notEmpty, ne_empty_of_mem_words (List.mem_of_getLast? last), last⟩

end GrammarModel

end Grammar

/-! ## Plans -/

theorem Query.PlanSettings.plan_eq {R : Type} (settings : PlanSettings)
    (fragment : Option String) (guess : Option (Classification R)) :
    settings.plan fragment guess =
      settings.lexicalClauses fragment ++
        guess.toList.map fun guess => ⟨settings.typeField, guess.label, settings.typeBoost⟩ := by
  cases guess <;> rfl

/-- The fragment of a tree is its last leaf, also if the leaves are collected with a stack. The
fragment of a question is empty exactly if the last leaf of its parse is, and otherwise it is the
last word of the question. Before the clause for the guessed type, if there is one, a plan has no
clause if there is no parse or the fragment is empty; otherwise it has one for each lexical field in
order, which counts once and asks for the last word of the question. -/
theorem plan_interpret {definition : GrammarDefinition} {executor : Executor}
    (built : definition.model = .ok executor.grammar) (index : SearchIndex) (orders : DrawnOrders)
    (question : String) :
    let parsed := executor.grammar.parse? (words question)
    let meaning := (executor.interpret index orders question).1
    let planning := executor.planning
    (∀ (W : Type) (tree : ParseTree W), ParseTree.leavesStacked [] [tree] = tree.leaves ∧
      tree.leaves.getLast? = some tree.fragment) ∧
    meaning.fragment = parsed.map ParseTree.fragment ∧
    (∀ tree, parsed = some tree →
      (tree.fragment = "" ↔ tree.lastRange.isEmpty = true) ∧
      (tree.fragment = "" ∨ (words question).getLast? = some tree.fragment)) ∧
    ∃ lexical : QueryPlan Single,
      meaning.plan =
        lexical ++ (meaning.guess.toList.map fun guess =>
          ⟨planning.typeField, guess.label, planning.typeBoost⟩) ∧
      ((lexical = [] ∧ (parsed = none ∨ meaning.fragment = some "")) ∨
        ∃ word, (words question).getLast? = some word ∧ meaning.fragment = some word ∧
          lexical = planning.lexicalFields.map fun field => ⟨field, word, 1.0⟩) := by
  intro parsed meaning planning
  have fragmentEq : meaning.fragment = parsed.map ParseTree.fragment := rfl
  have planEq : meaning.plan = planning.plan meaning.fragment meaning.guess := rfl
  refine ⟨fun W tree => ⟨?_, tree.getLast?_leaves⟩, fragmentEq, fun tree found => ?_,
    planning.lexicalClauses meaning.fragment, ?_, ?_⟩
  · rw [ParseTree.leavesStacked_eq, List.flatMap_singleton, List.nil_append]
  · rcases GrammarModel.fragment_of_parse? built found with
      ⟨isEmpty, empty⟩ | ⟨notEmpty, some, last⟩
    · simp [isEmpty, empty]
    · simp [notEmpty, some, last]
  · rw [planEq, PlanSettings.plan_eq]
  · cases found : parsed with
    | none =>
        have missing : meaning.fragment = none := by rw [fragmentEq, found]; rfl
        exact Or.inl ⟨by rw [missing]; rfl, Or.inl rfl⟩
    | some tree =>
        have present : meaning.fragment = some tree.fragment := by rw [fragmentEq, found]; rfl
        rcases GrammarModel.fragment_of_parse? built found with ⟨_, empty⟩ | ⟨_, some, last⟩
        · exact Or.inl ⟨by rw [present, empty]; rfl, Or.inr (by rw [present, empty])⟩
        · refine Or.inr ⟨tree.fragment, last, present, ?_⟩
          rw [present, PlanSettings.lexicalClauses, if_neg some]
          rfl

/-- A grammar for one question, which is one word. -/
def whatGrammar : GrammarDefinition :=
  ⟨"question", ["question"], ["what"], [⟨"question", ["what"], 1⟩]⟩

/-- What is needed to answer this question. -/
def whatExecutor : Executor :=
  let rules := #[⟨.terminal "question" "what", 1, Float.log 1, 0, none⟩]
  let tables := RuleTables.ofRules rules
  .ofSettings ⟨0, #["question"], .ofDefinition whatGrammar, rules, tables, .build 1 rules tables⟩
    .default .default defaultLimit

theorem model_whatGrammar : whatGrammar.model = .ok whatExecutor.grammar := by
  have one : isRuleProbability 1 = true := by decide
  simp [GrammarDefinition.model, GrammarModel.ofDefinition, whatGrammar, Symbols.ofDefinition,
    Symbols.isNonterminal, Symbols.id?, Symbols.isTerminal, Symbols.rightSide, addRule, checkRule,
    one, pure, bind, Except.pure, Except.bind, whatExecutor, Executor.ofSettings, Rule.terminal]

theorem fragment?_what : fragment? whatExecutor.grammar " what" = some "what" := by
  have read : words " what" = ["what"] := by decide +kernel
  have known : whatExecutor.grammar.terminalRules "what" = #[0] := by
    simp [GrammarModel.terminalRules, whatExecutor, Executor.ofSettings, RuleTables.ofRules,
      RuleTables.add, RuleTables.empty, Rule.terminal]
  -- Texts are looked up by their hashes, which cannot be computed here, so this comes first.
  rw [fragment?, read]
  simp only [GrammarModel.parse?, GrammarModel.tree?, GrammarModel.chart, List.zipIdx_cons,
    List.foldl_cons, GrammarModel.fillToken, known, List.any_cons]
  decide +kernel

/-- Each lexical field is asked for the one word of the question. -/
theorem plan_interpret_what :
    whatGrammar.model = .ok whatExecutor.grammar ∧
      ∃ rest, (whatExecutor.interpret (.ofSchema .default) .ofKeys " what").1.plan =
        [⟨titleField, "what", 1.0⟩, ⟨descriptionField, "what", 1.0⟩, ⟨textField, "what", 1.0⟩] ++
          rest := by
  obtain ⟨_, parsed, _, lexical, planEq, lexicalEq⟩ :=
    plan_interpret model_whatGrammar (.ofSchema .default) .ofKeys " what"
  have fragmentEq : (whatExecutor.interpret (.ofSchema .default) .ofKeys " what").1.fragment =
      some "what" := fragment?_what
  rcases lexicalEq with ⟨_, unparsed | empty⟩ | ⟨word, _, wordEq, rfl⟩
  · rw [unparsed, fragmentEq] at parsed
    cases parsed
  · rw [fragmentEq] at empty
    exact absurd (Option.some.inj empty) (by decide)
  · obtain rfl : word = "what" := Option.some.inj (wordEq.symm.trans fragmentEq)
    exact ⟨model_whatGrammar, _, planEq⟩

end QuestionSearch
