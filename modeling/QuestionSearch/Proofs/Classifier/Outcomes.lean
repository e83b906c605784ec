import QuestionSearch.Classifier.Cache
import QuestionSearch.Proofs.Classifier.Labels
import QuestionSearch.Proofs.Classifier.TermVectors

/-!
# Outcomes of trainings

Nearest neighbours keep the vectors of the texts that have terms, and naive Bayes counts by class
and knows a vocabulary. Still both trainings have one outcome (`trainingOutcome`), which depends on
the labelled texts alone: a training succeeds if and only if one of them has a term. Then what is
learnt takes the place of what was learnt before, and otherwise a classifier stays as it was
(`NaiveBayes.on_train`, `NearestNeighbours.on_train`).
-/

namespace QuestionSearch.Classifier

open QuestionSearch.Text

variable {R : Type} {corpus : List Document} {textField classField : String}
  {labelled : List LabelledText}

theorem labelledTexts_eq_nil_iff :
    labelledTexts corpus textField classField = [] ↔
      ∀ document ∈ corpus, document.get? textField = none ∨ document.get? classField = none := by
  rw [labelledTexts, List.filterMap_eq_nil_iff]
  refine forall₂_congr fun document _ => ?_
  rw [LabelledText.ofDocument?]
  cases document.get? textField <;> cases document.get? classField <;> simp

/-- Whether there is anything to learn from labelled texts. -/
def HasTerms (labelled : List LabelledText) : Prop :=
  ∃ known ∈ labelled, analyze known.text ≠ []

instance : Decidable (HasTerms labelled) :=
  inferInstanceAs (Decidable (∃ known ∈ labelled, analyze known.text ≠ []))

@[simp]
theorem not_hasTerms_nil : ¬ HasTerms [] := by simp [HasTerms]

theorem not_hasTerms_iff : ¬ HasTerms labelled ↔ ∀ known ∈ labelled, analyze known.text = [] := by
  simp [HasTerms]

/-- The outcome of a training on labelled texts. -/
def trainingOutcome (textField classField : String) (labelled : List LabelledText) :
    Except ClassifyError Unit :=
  if labelled = [] then .error (.emptyCorpus textField classField)
  else if HasTerms labelled then .ok ()
  else .error (.withoutTerms textField labelled.length)

theorem trainingOutcome_eq_emptyCorpus_iff :
    trainingOutcome textField classField labelled = .error (.emptyCorpus textField classField) ↔
      labelled = [] := by
  rw [trainingOutcome]
  split
  · simp_all
  · split <;> simp_all [ClassifyError.withoutTerms]

theorem trainingOutcome_eq_withoutTerms_iff :
    trainingOutcome textField classField labelled =
        .error (.withoutTerms textField labelled.length) ↔
      labelled ≠ [] ∧ ∀ known ∈ labelled, analyze known.text = [] := by
  rw [trainingOutcome, ← not_hasTerms_iff]
  split
  · simp_all [ClassifyError.withoutTerms]
  · split <;> simp_all

theorem trainingOutcome_eq_ok_iff :
    trainingOutcome textField classField labelled = .ok () ↔ HasTerms labelled := by
  rw [trainingOutcome]
  split
  · simp_all [HasTerms]
  · split <;> simp_all

/-! ## Naive Bayes -/

namespace NaiveBayes

theorem documents_learn (classifier : NaiveBayes) (known : LabelledText) :
    (classifier.learn known).documents = classifier.documents + 1 := rfl

theorem documents_foldl_learn (labelled : List LabelledText) (classifier : NaiveBayes) :
    (labelled.foldl learn classifier).documents = classifier.documents + labelled.length := by
  induction labelled generalizing classifier with
  | nil => rfl
  | cons known rest ih =>
      rw [List.foldl_cons, ih, documents_learn, List.length_cons]
      omega

/-- The vocabulary is made of the terms of the texts. -/
theorem contains_vocabulary_foldl_learn {classifier : NaiveBayes} {term : String} :
    (labelled.foldl learn classifier).vocabulary.contains term = true ↔
      (∃ known ∈ labelled, term ∈ analyze known.text) ∨
        classifier.vocabulary.contains term = true := by
  induction labelled generalizing classifier with
  | nil => simp
  | cons known rest ih =>
      rw [List.foldl_cons, ih, learn, Table.contains_foldl_insert fun _ _ => (),
        List.exists_mem_cons_iff, or_left_comm, or_assoc]

/-- What is learnt from labelled texts. -/
def learntFrom (labelled : List LabelledText) : NaiveBayes :=
  { labelled.foldl learn untrained with isTrained := true }

theorem contains_vocabulary_learntFrom {term : String} :
    (learntFrom labelled).vocabulary.contains term = true ↔
      ∃ known ∈ labelled, term ∈ analyze known.text := by
  rw [learntFrom, contains_vocabulary_foldl_learn]
  simp [untrained, Table.contains]

theorem isEmpty_vocabulary_iff :
    (learntFrom labelled).vocabulary.entries.isEmpty = true ↔ ¬ HasTerms labelled := by
  simp only [not_hasTerms_iff, Table.isEmpty_entries_iff, contains_vocabulary_learntFrom,
    List.eq_nil_iff_forall_not_mem, not_exists, not_and]
  exact ⟨fun unknown known member term => unknown term known member,
    fun unknown term known member => unknown known member term⟩

/-- The classes are those of the texts, also of texts without terms. -/
theorem classes_learntFrom_ne_nil (someText : labelled ≠ []) :
    (learntFrom labelled).classes.entries ≠ [] := by
  obtain ⟨known, member⟩ := List.exists_mem_of_ne_nil labelled someText
  intro empty
  have unbound := Table.isEmpty_entries_iff.mp (List.isEmpty_iff.mpr empty) known.label
  exact unbound (contains_classes_foldl_learn.mpr (Or.inl ⟨known, member, rfl⟩))

/-- A training is all or nothing. -/
theorem on_train (classifier : NaiveBayes) :
    let labelled := labelledTexts corpus textField classField
    (train corpus textField classField).on classifier =
      (trainingOutcome textField classField labelled,
        if HasTerms labelled then learntFrom labelled else classifier) := by
  intro labelled
  have counted := documents_foldl_learn labelled untrained
  rw [show untrained.documents = 0 from rfl, Nat.zero_add] at counted
  have noTerm : (labelled.foldl learn untrained).vocabulary.entries.isEmpty = true ↔
      ¬ HasTerms labelled := isEmpty_vocabulary_iff
  simp only [train, trainingOutcome]
  by_cases noText : labelled = []
  · rw [if_pos (by rw [counted, noText]; rfl)]
    simp [noText]
  rw [if_neg (by rwa [counted, List.length_eq_zero_iff])]
  by_cases hasTerms : HasTerms labelled
  · rw [if_neg (mt noTerm.mp (not_not.mpr hasTerms))]
    simp [noText, hasTerms, learntFrom, labelled]
  · rw [if_pos (noTerm.mpr hasTerms)]
    simp [noText, hasTerms, counted, labelled]

/-- A training that succeeds has forgotten what was known before. -/
theorem on_train_eq_ok_iff {before learnt : NaiveBayes} :
    (train corpus textField classField).on before = (.ok (), learnt) ↔
      HasTerms (labelledTexts corpus textField classField) ∧
        learntFrom (labelledTexts corpus textField classField) = learnt := by
  rw [on_train, Prod.mk_inj, trainingOutcome_eq_ok_iff]
  exact and_congr_right fun hasTerms => by rw [if_pos hasTerms]

end NaiveBayes

/-! ## Nearest neighbours -/

section Vectors

variable [Add R] [Mul R] [Div R] [Analytic R] {orders : Nat → VectorOrder}

namespace NearestNeighbours

/-- What is learnt from labelled texts. -/
def learntFrom (classifier : NearestNeighbours R) (orders : Nat → VectorOrder)
    (labelled : List LabelledText) : NearestNeighbours R :=
  { classifier with examples := examplesOf orders labelled, isTrained := true }

theorem mem_examplesOf_iff {sample : Example R} :
    sample ∈ examplesOf orders labelled ↔
      ∃ known place, labelled[place]? = some known ∧
        TermVector.ofText? (orders place) known.text = some sample.vector ∧
        known.label = sample.label := by
  obtain ⟨vector, label⟩ := sample
  simp [examplesOf, List.mem_zipIdx_iff_getElem?]

theorem isEmpty_examplesOf_iff :
    (examplesOf orders labelled : List (Example R)).isEmpty = true ↔ ¬ HasTerms labelled := by
  rw [List.isEmpty_iff, examplesOf, List.filterMap_eq_nil_iff, not_hasTerms_iff]
  simp only [Option.map_eq_none_iff, TermVector.ofText?_eq_none_iff]
  constructor
  · intro withoutTerms known member
    obtain ⟨place, lt, rfl⟩ := List.mem_iff_getElem.mp member
    exact withoutTerms (labelled[place], place) (List.mem_zipIdx_iff_getElem?.mpr (by simp [lt]))
  · exact fun withoutTerms known listed =>
      withoutTerms known.1 (List.fst_mem_of_mem_zipIdx listed)

/-- A training is all or nothing. -/
theorem on_train (classifier : NearestNeighbours R) :
    let labelled := labelledTexts corpus textField classField
    (train orders corpus textField classField).on classifier =
      (trainingOutcome textField classField labelled,
        if HasTerms labelled then classifier.learntFrom orders labelled else classifier) := by
  intro labelled
  have noVector : (examplesOf orders labelled : List (Example R)).isEmpty = true ↔
      ¬ HasTerms labelled := isEmpty_examplesOf_iff
  simp only [train, trainingOutcome]
  by_cases noText : labelled = []
  · rw [if_pos (List.isEmpty_iff.mpr noText)]
    simp [noText]
  rw [if_neg (mt List.isEmpty_iff.mp noText)]
  by_cases hasTerms : HasTerms labelled
  · rw [if_neg (mt noVector.mp (not_not.mpr hasTerms))]
    simp [noText, hasTerms, learntFrom, labelled]
  · rw [if_pos (noVector.mpr hasTerms)]
    simp [noText, hasTerms, labelled]

/-- A training that succeeds has forgotten what was known before. -/
theorem on_train_eq_ok_iff {before learnt : NearestNeighbours R} :
    (train orders corpus textField classField).on before = (.ok (), learnt) ↔
      HasTerms (labelledTexts corpus textField classField) ∧
        before.learntFrom orders (labelledTexts corpus textField classField) = learnt := by
  rw [on_train, Prod.mk_inj, trainingOutcome_eq_ok_iff]
  exact and_congr_right fun hasTerms => by rw [if_pos hasTerms]

end NearestNeighbours

/-! ## Either kind -/

namespace TextClassifier

/-- What is learnt from labelled texts. -/
def learntFrom (classifier : TextClassifier R) (orders : Nat → VectorOrder)
    (labelled : List LabelledText) : TextClassifier R :=
  match classifier with
  | nearest classifier => nearest (classifier.learntFrom orders labelled)
  | bayes _ => bayes (.learntFrom labelled)

/-- A training is all or nothing. -/
theorem on_train (classifier : TextClassifier R) :
    let labelled := labelledTexts corpus textField classField
    (train orders corpus textField classField).on classifier =
      (trainingOutcome textField classField labelled,
        if HasTerms labelled then classifier.learntFrom orders labelled else classifier) := by
  intro labelled
  cases classifier with
  | nearest classifier =>
      simp only [train, Call.on_bind, Call.on_get, Call.on_set, Call.on_ofExcept,
        NearestNeighbours.on_train, apply_ite nearest, learntFrom, labelled]
  | bayes classifier =>
      simp only [train, Call.on_bind, Call.on_get, Call.on_set, Call.on_ofExcept,
        NaiveBayes.on_train, apply_ite bayes, learntFrom, labelled]

end TextClassifier

/-- A training for some settings succeeds or fails whatever the orders. -/
theorem trainOn?_eq (settings : ClassifierSettings) :
    let labelled := labelledTexts corpus settings.textField settings.classField
    (ClassifierCache.trainOn? settings orders corpus :
        Option (Except ClassifyError (TextClassifier R))) =
      (TextClassifier.ofSettings? settings).map fun untrained =>
        (trainingOutcome settings.textField settings.classField labelled).map fun _ =>
          untrained.learntFrom orders labelled := by
  intro labelled
  rw [ClassifierCache.trainOn?]
  congr 1
  funext untrained
  simp only [TextClassifier.on_train]
  cases outcomeEq : trainingOutcome settings.textField settings.classField labelled with
  | error fault => rfl
  | ok done => rw [if_pos (trainingOutcome_eq_ok_iff.mp outcomeEq)]

theorem eq_learntFrom_of_trainOn? {settings : ClassifierSettings}
    {classifier : TextClassifier R}
    (trained : ClassifierCache.trainOn? settings orders corpus = some (.ok classifier)) :
    ∃ untrained : TextClassifier R, untrained.learntFrom orders
      (labelledTexts corpus settings.textField settings.classField) = classifier := by
  rw [trainOn?_eq] at trained
  obtain ⟨untrained, -, learnt⟩ := Option.map_eq_some_iff.mp trained
  refine ⟨untrained, ?_⟩
  cases outcome : trainingOutcome settings.textField settings.classField
      (labelledTexts corpus settings.textField settings.classField) with
  | error fault =>
      rw [outcome] at learnt
      cases learnt
  | ok done =>
      rw [outcome] at learnt
      exact Except.ok.inj learnt

end Vectors

/-- A classifier that was trained on some documents guesses the class of one of them that has a
text. -/
theorem exists_document_of_assign [Add R] [Sub R] [Mul R] [Div R] [LT R] [DecidableLT R]
    [Analytic R] [Ranked R] (untrained : TextClassifier R) (orders : Nat → VectorOrder)
    (order : VectorOrder) {text : String} {guess : Classification R}
    (assigned : (untrained.learntFrom orders (labelledTexts corpus textField classField)).assign
      order text = .ok (some guess)) :
    ∃ document ∈ corpus, document.get? classField = some guess.label ∧
      (document.get? textField).isSome = true := by
  have isLabel : IsLabel corpus textField classField guess.label := by
    cases untrained with
    | nearest untrained =>
        obtain ⟨sample, member, labelEq⟩ := NearestNeighbours.exists_example_of_assign assigned
        exact labelEq ▸ NearestNeighbours.isLabel_of_mem_examplesOf member
    | bayes untrained =>
        have known := NaiveBayes.contains_of_assign assigned
        rcases NaiveBayes.contains_classes_foldl_learn.mp known with found | absent
        · exact found
        · cases absent
  obtain ⟨labelled, member, labelEq⟩ := isLabel
  obtain ⟨document, documentMem, textEq, classEq⟩ := mem_labelledTexts_iff.mp member
  exact ⟨document, documentMem, labelEq ▸ classEq, by rw [textEq]; rfl⟩

end QuestionSearch.Classifier
