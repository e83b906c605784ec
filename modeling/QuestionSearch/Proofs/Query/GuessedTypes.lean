import QuestionSearch.Proofs.Index.FieldTerms
import QuestionSearch.Proofs.Query.PipelineSessions

/-!
# Guessed types

A guess is the class of a published document, and it is the last thing that a plan asks for. If
plans ask for types in the field of the classes, and this field is one exact term, then the document
is found, and so are all others of its class (`guess_found`).
-/

namespace QuestionSearch

open QuestionSearch.Classifier QuestionSearch.Content QuestionSearch.Grammar QuestionSearch.Index
  QuestionSearch.Query

/-! ## Guesses -/

namespace Classifier

variable {R : Type} [Add R] [Sub R] [Mul R] [Div R] [LT R] [DecidableLT R] [Analytic R] [Ranked R]

theorem exists_classifier_of_guessOf {outcome : Except ClassifyError (TextClassifier R)}
    {order : VectorOrder} {text : String} {guess : Classification R}
    (guessed : guessOf outcome order text = some guess) :
    ∃ classifier, outcome = .ok classifier ∧ classifier.assign order text = .ok (some guess) := by
  cases outcome with
  | error fault => cases guessed
  | ok classifier =>
      rw [guessOf, Except.toOption, Option.bind_some] at guessed
      refine ⟨classifier, rfl, ?_⟩
      cases assigned : classifier.assign order text with
      | error fault =>
          rw [assigned] at guessed
          cases guessed
      | ok found =>
          rw [assigned] at guessed
          exact congrArg Except.ok guessed

/-- There is a guess only on an open index, and it is the class of one of the documents that have a
text. -/
theorem exists_document_of_uncached {settings : ClassifierSettings} {index : SearchIndex}
    {orders : DrawnOrders} {text : String} {guess : Classification R}
    (guessed : uncached settings index orders text = some guess) :
    index.isClosed = false ∧
      ∃ document ∈ index.published.corpus,
        document.get? settings.classField = some guess.label ∧
          (document.get? settings.textField).isSome = true := by
  cases closed : index.isClosed with
  | true =>
      rw [uncached_of_closed closed] at guessed
      cases guessed
  | false =>
      rw [uncached_of_open closed, Option.bind_eq_some_iff] at guessed
      obtain ⟨outcome, trained, guessed⟩ := guessed
      obtain ⟨classifier, rfl, assigned⟩ := exists_classifier_of_guessOf guessed
      obtain ⟨untrained, rfl⟩ := eq_learntFrom_of_trainOn? trained
      exact ⟨rfl, exists_document_of_assign untrained _ _ assigned⟩

end Classifier

namespace Sound

variable {settings : Settings} {session : PipelineSession}

/-- A question is classified as if there were no cache. -/
theorem isUncached_guess (sound : Sound settings session) (orders : DrawnOrders)
    (question : String) :
    IsUncached settings.classifier session.index orders.question question
      (session.executor.interpret session.index orders question).1.guess :=
  classify_of_trusted sound.trusted orders question

/-! ## Plans -/

/-- What a plan asks for last is the guessed type. -/
theorem getLast?_plan (sound : Sound settings session) {orders : DrawnOrders} {question : String}
    {guess : Classification Float}
    (guessed : (session.executor.interpret session.index orders question).1.guess = some guess) :
    (session.executor.interpret session.index orders question).1.plan.getLast? =
      some ⟨settings.planning.typeField, guess.label, settings.planning.typeBoost⟩ := by
  rw [show (session.executor.interpret session.index orders question).1.plan =
      session.executor.planning.plan (fragment? session.executor.grammar question)
        (session.executor.interpret session.index orders question).1.guess from rfl,
    guessed, sound.planning, PlanSettings.plan, PlanSettings.typeClauses, List.getLast?_concat]

/-- A document matches the clause for its class. -/
theorem exists_match (sound : Sound settings session)
    (sameField : settings.planning.typeField = settings.classifier.classField)
    (keyword : settings.schema.isKeyword settings.classifier.classField = true)
    (notPath : settings.classifier.classField ≠ pathField) {document : Document} {label : String}
    (listed : document ∈ session.index.published.corpus)
    (same : document.get? settings.classifier.classField = some label) (boost : Single) :
    ∃ indexed ∈ session.index.published.documents.values, indexed.document = document ∧
      indexed.isMatch ⟨settings.planning.typeField, label, boost⟩ = true := by
  obtain ⟨indexed, member, rfl, _⟩ := sound.consistent.exists_indexed listed
  have held : indexed.document.indexed? settings.classifier.classField = some label := by
    rwa [(indexed.document.indexed?_eq_get?_iff _).mpr fun isPath => absurd isPath notPath]
  rw [sameField]
  exact ⟨indexed, member, rfl, (sound.consistent.isMatch_iff keyword member).mpr held⟩

end Sound

theorem execute_of_search {executor : Executor} {index : SearchIndex} {orders : DrawnOrders}
    {question : String} {limit : Nat} {hits : List (Hit Single)}
    (found : index.search (executor.interpret index orders question).1.plan limit = .ok hits) :
    (executor.execute index orders question limit).1 =
      .ok ((executor.interpret index orders question).1, .ofHits hits) := by
  simp only [Executor.execute]
  rw [found]

/-- Take a pipeline that asks for types in the field of the classes, which is one exact term and not
the path. Whatever has been done to it, and however hash tables are ordered, if a question is given
a guess, then the guess is the class of a document in the current snapshot that has a text, and it
is what the plan asks for last. Running the plan finds something if anything may be found at all,
and every document of the guessed class if as many may be found as there are. -/
theorem guess_found {grammar : GrammarModel Float} {settings : Settings} {content : ContentNode}
    {pipeline : Pipeline} (opened : Pipeline.ofContent grammar settings content = .ok pipeline)
    (sameField : settings.planning.typeField = settings.classifier.classField)
    (keyword : settings.schema.isKeyword settings.classifier.classField = true)
    (notPath : settings.classifier.classField ≠ pathField)
    (actions : List PipelineAction) (orders : DrawnOrders) (question : String)
    (guess : Classification Float) :
    let reached := (PipelineSession.start pipeline).run actions
    let meaning := (reached.executor.interpret reached.index orders question).1
    let classOf (document : Document) := document.get? settings.classifier.classField
    meaning.guess = some guess →
      ∃ snapshot, reached.index.snapshot = .ok snapshot ∧
        (∃ document ∈ snapshot.documents, classOf document = some guess.label ∧
          (document.get? settings.classifier.textField).isSome = true) ∧
        meaning.plan.getLast? =
          some ⟨settings.planning.typeField, guess.label, settings.planning.typeBoost⟩ ∧
        ∀ limit, ∃ hits,
          reached.index.search meaning.plan limit = .ok hits ∧
          (reached.executor.execute reached.index orders question limit).1 =
            .ok (meaning, .ofHits hits) ∧
          (1 ≤ limit → hits ≠ []) ∧
          (snapshot.documents.length ≤ limit → ∀ document ∈ snapshot.documents,
            classOf document = some guess.label →
              ∃ hit ∈ hits, hit.path = document.path ∧ hit.fields = document.fields) := by
  intro reached meaning classOf guessed
  have sound : Sound settings reached := (Sound.start opened).run actions
  obtain ⟨learnt, guessEq⟩ := (sound.isUncached_guess orders question).exists_orders
  obtain ⟨isOpen, model, modelMem, modelClass, modelText⟩ :=
    exists_document_of_uncached (guessEq.symm.trans guessed)
  have last := sound.getLast?_plan guessed
  have asked := List.mem_of_getLast? last
  have state := SearchIndex.state_of_open isOpen
  refine ⟨reached.index.published.snapshot, by rw [SearchIndex.snapshot, state]; rfl,
    ⟨model, modelMem, modelClass, modelText⟩, last, fun limit => ?_⟩
  have found : reached.index.search meaning.plan limit =
      .ok (reached.index.published.search meaning.plan limit) := by
    rw [SearchIndex.search, state]
    rfl
  -- Whatever else a plan asks for, one matching clause is enough for a document to be found.
  refine ⟨_, found, execute_of_search found, fun positive => ?_, fun enough => ?_⟩
  · obtain ⟨indexed, member, _, isMatch⟩ :=
      sound.exists_match sameField keyword notPath modelMem modelClass settings.planning.typeBoost
    exact IndexState.search_ne_nil member asked isMatch positive
  · intro document listed same
    obtain ⟨indexed, member, rfl, isMatch⟩ :=
      sound.exists_match sameField keyword notPath listed same settings.planning.typeBoost
    exact IndexState.exists_hit_of_isMatch member asked isMatch
      (Nat.le_trans (Nat.le_of_eq sound.consistent.length_corpus.symm) enough)

/-- Settings that choose naive Bayes. -/
def bayesSettings : Settings :=
  { Settings.default with classifier := { ClassifierSettings.default with kind := .bayes } }

/-- One node of a type. -/
def nodeOfType (type : String) : ContentNode :=
  .node [(titleField, .text "today"), (typeField, .text type)] []

/-- A classifier learns from a draft, which then becomes a page. -/
def draftPublished : List PipelineAction :=
  [.interpret .ofKeys "today", .update (nodeOfType "draft") (nodeOfType "page")]

/-- Then the page is found, as the classifier learns anew. -/
theorem guess_found_page : ∃ pipeline,
    Pipeline.ofContent ⟨0, #[], ⟨∅, []⟩, #[], .empty, #[]⟩ bayesSettings (nodeOfType "draft") =
        .ok pipeline ∧
      let reached := (PipelineSession.start pipeline).run draftPublished
      let meaning := (reached.executor.interpret reached.index .ofKeys "today").1
      meaning.guess.map Classification.label = some "page" ∧
        ∃ hits, reached.index.search meaning.plan 1 = .ok hits ∧ hits ≠ [] := by
  have label : (Pipeline.ofContent ⟨0, #[], ⟨∅, []⟩, #[], .empty, #[]⟩ bayesSettings
      (nodeOfType "draft")).toOption.bind (fun pipeline =>
        let reached := (PipelineSession.start pipeline).run draftPublished
        let meaning := (reached.executor.interpret reached.index .ofKeys "today").1
        meaning.guess.map Classification.label) =
      some "page" := by decide +kernel
  cases opened : Pipeline.ofContent ⟨0, #[], ⟨∅, []⟩, #[], .empty, #[]⟩ bayesSettings
      (nodeOfType "draft") with
  | error fault =>
      rw [opened] at label
      cases label
  | ok pipeline =>
      rw [opened] at label
      obtain ⟨guess, guessed, _⟩ := Option.map_eq_some_iff.mp label
      obtain ⟨_, _, _, _, runs⟩ := guess_found opened rfl (by decide) (by decide) draftPublished
        .ofKeys "today" guess guessed
      obtain ⟨hits, found, _, some, _⟩ := runs 1
      exact ⟨pipeline, rfl, label, hits, found, some (Nat.le_refl 1)⟩

end QuestionSearch
