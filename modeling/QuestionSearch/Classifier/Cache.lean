import QuestionSearch.Classifier.Settings
import QuestionSearch.Index.Error
import QuestionSearch.Index.State

/-!
# Trained classifiers by generation

A classifier is trained when it is first asked for and kept as long as the documents stay in one
generation. A training that fails is kept as well, so that it is not tried again for the same
documents. What cannot be learnt because the documents are out of reach is not kept.
-/

namespace QuestionSearch.Classifier

open QuestionSearch.Index

/-- What a source of documents answers at one moment, and how hash tables are ordered that are made
at this moment. -/
structure Moment where
  /-- Its generation. -/
  generation : Except StoreError Nat
  /-- Its documents. -/
  snapshot : Except StoreError Snapshot
  /-- The orders. -/
  orders : DrawnOrders

/-- The outcome of a training. -/
structure Training (R : Type) where
  /-- The generation of the documents. -/
  generation : Nat
  /-- The trained classifier, or why there is none. -/
  outcome : Except ClassifyError (TextClassifier R)

/-- Keeps the outcome of the last training. -/
structure ClassifierCache (R : Type) where
  /-- What to train. -/
  settings : ClassifierSettings
  /-- The outcome held. -/
  held : Option (Training R)

/-- An answer of a cache. -/
structure CacheAnswer (R α : Type) where
  /-- The answer. -/
  result : α
  /-- The cache afterwards. -/
  cache : ClassifierCache R
  /-- Whether the source was asked for its generation. -/
  askedGeneration : Bool
  /-- Whether the source was asked for its documents. -/
  askedSnapshot : Bool

namespace ClassifierCache

variable {R : Type}

/-- A cache that holds nothing. -/
def ofSettings (settings : ClassifierSettings) : ClassifierCache R := ⟨settings, none⟩

/-- Whether there is anything to train. -/
def isEnabled (cache : ClassifierCache R) : Bool := cache.settings.kind ≠ .none

/-- The generation of the outcome held. -/
def trainedGeneration? (cache : ClassifierCache R) : Option Nat :=
  cache.held.map Training.generation

/-- Drops the outcome held. -/
def invalidate (cache : ClassifierCache R) : ClassifierCache R := { cache with held := none }

/-- The outcome held for a generation. -/
def heldFor? (cache : ClassifierCache R) (generation : Nat) :
    Option (Except ClassifyError (TextClassifier R)) :=
  match cache.held with
  | none => none
  | some training => if training.generation = generation then some training.outcome else none

variable [Add R] [Mul R] [Div R] [Analytic R]

/-- Trains a classifier on documents, if the settings choose one. It is given up if it fails. -/
def trainOn? (settings : ClassifierSettings) (orders : Nat → VectorOrder)
    (corpus : List Document) : Option (Except ClassifyError (TextClassifier R)) :=
  (TextClassifier.ofSettings? settings).map fun untrained =>
    let (outcome, classifier) :=
      (TextClassifier.train orders corpus settings.textField settings.classField).on untrained
    outcome.map fun _ => classifier

/-- The classifier for the documents of a moment, trained if it is not held. -/
def model (cache : ClassifierCache R) (moment : Moment) :
    CacheAnswer R (Except ClassifyError (TextClassifier R)) :=
  match moment.generation with
  | .error fault => ⟨.error (.backend fault.message), cache, true, false⟩
  | .ok generation =>
    match cache.heldFor? generation with
    | some outcome => ⟨outcome, cache, true, false⟩
    | none =>
      match moment.snapshot with
      | .error fault => ⟨.error (.backend fault.message), cache, true, true⟩
      | .ok snapshot =>
        match trainOn? cache.settings moment.orders.examples snapshot.documents with
        | none =>
          ⟨.error (.trainingFailed "classification is disabled"), cache, true, true⟩
        | some outcome =>
          ⟨outcome, { cache with held := some ⟨snapshot.generation, outcome⟩ }, true, true⟩

/-- The guess for a text. Whatever goes wrong, there is no guess. -/
def classify [Sub R] [LT R] [DecidableLT R] [Ranked R] (cache : ClassifierCache R)
    (moment : Moment) (text : String) : CacheAnswer R (Option (Classification R)) :=
  if cache.isEnabled then
    let answer := cache.model moment
    let guess :=
      match answer.result with
      | .error _ => none
      | .ok classifier =>
        match classifier.assign moment.orders.question text with
        | .error _ => none
        | .ok guess => guess
    { answer with result := guess }
  else ⟨none, cache, false, false⟩

end ClassifierCache

end QuestionSearch.Classifier
