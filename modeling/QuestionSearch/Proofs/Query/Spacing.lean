import QuestionSearch.Proofs.Query.Fragments
import QuestionSearch.Proofs.Query.GuessedTypes
import QuestionSearch.Proofs.Text.Words

/-!
# Spacing of questions

A question is read twice: as words by the grammar, and as terms by the classifier. The words fix the
terms, so they fix what a question means, on whatever index (`interpret_congr`). What is done to a
pipeline before has no part in it beyond the documents that are published, unless similarities to
them depend on the orders of hash tables (`meaning_respaced`).
-/

namespace QuestionSearch

open QuestionSearch.Classifier QuestionSearch.Content QuestionSearch.Grammar QuestionSearch.Index
  QuestionSearch.Query QuestionSearch.Text

/-! ## Classifiers read terms -/

namespace Classifier

variable {R : Type} [Add R] [Div R] [LT R] [DecidableLT R] [Analytic R] {text other : String}

theorem NaiveBayes.assign_congr [Sub R] (same : analyze text = analyze other)
    (classifier : NaiveBayes) :
    (classifier.assign text : Except ClassifyError (Option (Classification R))) =
      classifier.assign other := by
  have known : classifier.knownTerms text = classifier.knownTerms other := by
    rw [NaiveBayes.knownTerms, same, NaiveBayes.knownTerms]
  simp only [NaiveBayes.assign, known]

theorem NearestNeighbours.assign_congr [Mul R] [Ranked R] (same : analyze text = analyze other)
    (classifier : NearestNeighbours R) (order : VectorOrder) :
    classifier.assign order text = classifier.assign order other := by
  have vector : (TermVector.ofText? order text : Option (TermVector R)) =
      TermVector.ofText? order other := by
    rw [TermVector.ofText?, termFrequencies, same]
    rfl
  simp only [NearestNeighbours.assign, vector]

variable [Sub R] [Mul R] [Ranked R]

/-- A classifier reads nothing of a text but its terms. -/
theorem TextClassifier.assign_congr (same : analyze text = analyze other)
    (classifier : TextClassifier R) (order : VectorOrder) :
    classifier.assign order text = classifier.assign order other := by
  cases classifier with
  | nearest classifier => exact NearestNeighbours.assign_congr same classifier order
  | bayes classifier => exact NaiveBayes.assign_congr same classifier

theorem ClassifierCache.classify_congr (same : analyze text = analyze other)
    (cache : ClassifierCache R) (moment : Moment) :
    cache.classify moment text = cache.classify moment other := by
  simp only [ClassifierCache.classify, TextClassifier.assign_congr same]

end Classifier

/-! ## Executors -/

namespace Query.Executor

variable {question other : String}

/-- Questions of the same words mean the same and leave the same behind. -/
theorem interpret_congr (same : words question = words other) (executor : Executor)
    (index : SearchIndex) (orders : DrawnOrders) :
    executor.interpret index orders question = executor.interpret index orders other := by
  have fragment : fragment? executor.grammar question = fragment? executor.grammar other := by
    rw [fragment?, same, fragment?]
  have classified :
      executor.classify index orders question = executor.classify index orders other := by
    simp only [classify, ClassifierCache.classify_congr (analyze_congr same)]
  simp only [interpret, fragment, classified]

theorem execute_congr (same : words question = words other) (executor : Executor)
    (index : SearchIndex) (orders : DrawnOrders) (limit : Nat) :
    executor.execute index orders question limit = executor.execute index orders other limit := by
  simp only [execute, interpret_congr same]

end Query.Executor

/-! ## Sessions -/

/-- Whether two things done to a pipeline differ at most in the spacing of a question. -/
inductive PipelineAction.Respaced : PipelineAction → PipelineAction → Prop
  | refl (action : PipelineAction) : Respaced action action
  | classify {text other : String} (same : words text = words other) (orders : DrawnOrders)
      (meanwhile : List Action) :
      Respaced (.use (.classify orders text meanwhile)) (.use (.classify orders other meanwhile))
  | interpret {question other : String} (same : words question = words other)
      (orders : DrawnOrders) :
      Respaced (.interpret orders question) (.interpret orders other)
  | execute {question other : String} (same : words question = words other)
      (orders : DrawnOrders) (limit : Nat) :
      Respaced (.execute orders question limit) (.execute orders other limit)

namespace PipelineSession

theorem step_respaced {action other : PipelineAction} (respaced : action.Respaced other)
    (session : PipelineSession) : session.step action = session.step other := by
  cases respaced with
  | refl => rfl
  | classify same orders meanwhile =>
      simp only [step, CachedSession.step, ClassifierCache.classify_congr (analyze_congr same)]
  | interpret same orders => simp only [step, Executor.interpret_congr same]
  | execute same orders limit => simp only [step, Executor.execute_congr same]

/-- Spacing leaves no trace in a session. -/
theorem run_respaced {actions others : List PipelineAction}
    (respaced : List.Forall₂ PipelineAction.Respaced actions others) (session : PipelineSession) :
    session.run actions = session.run others := by
  induction respaced generalizing session with
  | nil => rfl
  | cons head _ ih =>
      rw [run, List.foldl_cons, step_respaced head, run, List.foldl_cons]
      exact ih _

theorem grammar_step (session : PipelineSession) (action : PipelineAction) :
    (session.step action).executor.grammar = session.executor.grammar := by
  cases action with
  | use action => rfl
  | update before after =>
      rw [step, Pipeline.update]
      cases Pipeline.publish session.pipeline.index
        (fun writer => applyDiff writer before after) <;> rfl
  | interpret orders question => rfl
  | execute orders question limit => rw [Sound.step_execute]; rfl

theorem grammar_run (session : PipelineSession) (actions : List PipelineAction) :
    (session.run actions).executor.grammar = session.executor.grammar := by
  induction actions generalizing session with
  | nil => rfl
  | cons action rest ih => exact (ih (session.step action)).trans (grammar_step session action)

end PipelineSession

theorem grammar_of_ofContent {grammar : GrammarModel Float} {settings : Settings}
    {content : ContentNode} {pipeline : Pipeline}
    (opened : Pipeline.ofContent grammar settings content = .ok pipeline) :
    pipeline.executor.grammar = grammar := by
  obtain ⟨_, _, rfl⟩ := exists_of_ofContent opened
  rfl

/-- What a question means in a session is fixed by the grammar, the settings, the published
documents and the words of the question, if similarities to these documents are the same in all
orders. -/
theorem Sound.meaning_eq {settings : Settings} {first second : PipelineSession}
    (sound : Sound settings first) (soundSecond : Sound settings second)
    (grammar : first.executor.grammar = second.executor.grammar)
    (documents : first.index.snapshot.map Snapshot.documents =
      second.index.snapshot.map Snapshot.documents)
    {question other : String} (same : words question = words other)
    (determined : IsDetermined Float settings.classifier first.index.published.corpus question)
    (orders others : DrawnOrders) :
    (first.executor.interpret first.index orders question).1 =
      (second.executor.interpret second.index others other).1 := by
  have fragment : fragment? first.executor.grammar question =
      fragment? second.executor.grammar other := by
    rw [fragment?, grammar, same, fragment?]
  have guess : (first.executor.interpret first.index orders question).1.guess =
      (second.executor.interpret second.index others other).1.guess := by
    obtain ⟨learnt, secondEq⟩ := (soundSecond.isUncached_guess others other).exists_orders
    rw [(sound.isUncached_guess orders question).eq_uncached determined ⟨learnt, others.question⟩,
      secondEq, uncached_eq, uncached_eq, documents]
    simp only [guessOf, TextClassifier.assign_congr (analyze_congr same)]
  have planning : first.executor.planning = second.executor.planning :=
    sound.planning.trans soundSecond.planning.symm
  calc
    _ = (⟨fragment? first.executor.grammar question,
          (first.executor.interpret first.index orders question).1.guess,
          first.executor.planning.plan (fragment? first.executor.grammar question)
            (first.executor.interpret first.index orders question).1.guess⟩ : Meaning) := rfl
    _ = ⟨fragment? second.executor.grammar other,
          (second.executor.interpret second.index others other).1.guess,
          second.executor.planning.plan (fragment? second.executor.grammar other)
            (second.executor.interpret second.index others other).1.guess⟩ := by
        rw [fragment, guess, planning]
    _ = _ := rfl

/-- Take two questions of the same words, with whatever blanks around them. The terms of both are
those of the words one after the other. For an executor over an index both questions are the same,
if hash tables are in the same orders: they mean the same, they are answered with the same, and they
leave the same behind. They also mean the same to two pipelines of one grammar and the same
settings, whatever was done to either, as soon as both publish the same documents. Then hash tables
may be in all orders, as long as similarities to these documents do not depend on them. -/
theorem meaning_respaced {question other : String} (same : words question = words other) :
    analyze question = (words question).flatMap analyze ∧ analyze other = analyze question ∧
    (∀ (executor : Executor) (index : SearchIndex) (orders : DrawnOrders),
      executor.interpret index orders question = executor.interpret index orders other ∧
      ∀ limit,
        executor.execute index orders question limit =
          executor.execute index orders other limit) ∧
    ∀ (grammar : GrammarModel Float) (settings : Settings) (content otherContent : ContentNode)
        (pipeline otherPipeline : Pipeline) (actions otherActions : List PipelineAction),
      Pipeline.ofContent grammar settings content = .ok pipeline →
      Pipeline.ofContent grammar settings otherContent = .ok otherPipeline →
        let first := (PipelineSession.start pipeline).run actions
        let second := (PipelineSession.start otherPipeline).run otherActions
        first.index.snapshot.map Snapshot.documents =
            second.index.snapshot.map Snapshot.documents →
          IsDetermined Float settings.classifier first.index.published.corpus question →
            ∀ orders others,
              (first.executor.interpret first.index orders question).1 =
                (second.executor.interpret second.index others other).1 := by
  refine ⟨analyze_eq_flatMap_words question, (analyze_congr same).symm,
    fun executor index orders => ⟨executor.interpret_congr same index orders,
      executor.execute_congr same index orders⟩, ?_⟩
  intro grammar settings content otherContent pipeline otherPipeline actions otherActions opened
    otherOpened first second documents determined
  have sound : Sound settings first := (Sound.start opened).run actions
  have otherSound : Sound settings second := (Sound.start otherOpened).run otherActions
  have grammars : first.executor.grammar = second.executor.grammar := by
    rw [PipelineSession.grammar_run, PipelineSession.grammar_run]
    exact (grammar_of_ofContent opened).trans (grammar_of_ofContent otherOpened).symm
  exact sound.meaning_eq otherSound grammars documents same determined

/-- A node of a type whose text is the one question. -/
def whatNode (type : String) : ContentNode :=
  .node [(titleField, .text "What?"), (typeField, .text type)] []

/-- A draft becomes a page. -/
def whatPublished : List PipelineAction := [.update (whatNode "draft") (whatNode "page")]

/-- Two pipelines publish the page, one of them after a draft. The question is the same to both,
however it is spaced, and naive Bayes does not look at the orders of hash tables. -/
theorem meaning_what : words "\u00a0what" = words "what \n" ∧ ∃ pipeline otherPipeline,
    Pipeline.ofContent whatExecutor.grammar bayesSettings (whatNode "draft") = .ok pipeline ∧
      Pipeline.ofContent whatExecutor.grammar bayesSettings (whatNode "page") =
        .ok otherPipeline ∧
      let first := (PipelineSession.start pipeline).run whatPublished
      let second := (PipelineSession.start otherPipeline).run []
      let meaning := (first.executor.interpret first.index .ofKeys "\u00a0what").1
      IsDetermined Float bayesSettings.classifier first.index.published.corpus "\u00a0what" ∧
        meaning = (second.executor.interpret second.index .ofKeys "what \n").1 ∧
        meaning.fragment = some "what" ∧ meaning.guess.map Classification.label = some "page" := by
  have same : words "\u00a0what" = words "what \n" := by decide +kernel
  have spaced : words "\u00a0what" = words " what" := by decide +kernel
  have published : (Pipeline.ofContent whatExecutor.grammar bayesSettings
      (whatNode "draft")).toOption.map (fun pipeline =>
        let first := (PipelineSession.start pipeline).run whatPublished
        let meaning := (first.executor.interpret first.index .ofKeys "\u00a0what").1
        (first.index.snapshot.map Snapshot.documents, meaning.guess.map Classification.label)) =
      some (.ok [⟨"/", (whatNode "page").fields⟩], some "page") := by decide +kernel
  have otherPublished : (Pipeline.ofContent whatExecutor.grammar bayesSettings
      (whatNode "page")).toOption.map (fun pipeline =>
        pipeline.index.snapshot.map Snapshot.documents) =
      some (.ok [⟨"/", (whatNode "page").fields⟩]) := by decide +kernel
  cases opened : Pipeline.ofContent whatExecutor.grammar bayesSettings (whatNode "draft") with
  | error fault =>
      rw [opened] at published
      cases published
  | ok pipeline =>
      cases otherOpened : Pipeline.ofContent whatExecutor.grammar bayesSettings
          (whatNode "page") with
      | error fault =>
          rw [otherOpened] at otherPublished
          cases otherPublished
      | ok otherPipeline =>
          rw [opened] at published
          rw [otherOpened] at otherPublished
          obtain ⟨documents, label⟩ := Prod.mk.inj (Option.some.inj published)
          obtain ⟨_, _, _, sessions⟩ := meaning_respaced same
          have determined (corpus : List Document) :
              IsDetermined Float bayesSettings.classifier corpus "\u00a0what" :=
            fun nearest => by cases nearest
          refine ⟨same, pipeline, otherPipeline, rfl, rfl, determined _,
            sessions _ _ _ _ _ _ _ [] opened otherOpened
              (documents.trans (Option.some.inj otherPublished).symm) (determined _) _ _, ?_,
            label⟩
          have grammar := (PipelineSession.grammar_run (.start pipeline) whatPublished).trans
            (grammar_of_ofContent opened)
          calc
            _ = fragment? whatExecutor.grammar "\u00a0what" := congrArg (fragment? · _) grammar
            _ = fragment? whatExecutor.grammar " what" := by rw [fragment?, spaced, fragment?]
            _ = some "what" := fragment?_what

end QuestionSearch
