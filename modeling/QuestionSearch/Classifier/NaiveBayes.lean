import QuestionSearch.Analytic
import QuestionSearch.Call
import QuestionSearch.Classifier.Corpus
import QuestionSearch.Classifier.Error
import QuestionSearch.Text.Analysis

/-!
# Naive Bayes

A multinomial model of the terms of each class, smoothed by one further occurrence of every known
term. A class is scored by the logarithm of its probability given the known terms of a question, and
the score of the guess is its probability among all classes.
-/

namespace QuestionSearch.Classifier

open QuestionSearch.Text

/-- What is known of a class, counted without a bound. Counters of 32 bits count the same as long as
fewer than `2³²` documents and terms are learnt from. -/
structure ClassCounts where
  /-- The number of its documents. -/
  documents : Nat
  /-- How often each term occurs in them. -/
  terms : Table Nat
  /-- How many terms they have in all. -/
  totalTerms : Nat
deriving DecidableEq

namespace ClassCounts

/-- A class without documents. -/
def none : ClassCounts := ⟨0, Table.empty, 0⟩

/-- Adds a term of a document. -/
def addTerm (counts : ClassCounts) (term : String) : ClassCounts :=
  { counts with
    terms := counts.terms.insert term ((counts.terms.get? term).getD 0 + 1)
    totalTerms := counts.totalTerms + 1 }

end ClassCounts

/-- A naive Bayes classifier. -/
structure NaiveBayes where
  /-- What is known of each class. -/
  classes : Table ClassCounts
  /-- The known terms. -/
  vocabulary : Table Unit
  /-- The number of documents of all classes. -/
  documents : Nat
  /-- Whether it has been trained. -/
  isTrained : Bool

namespace NaiveBayes

/-- An untrained classifier. -/
def untrained : NaiveBayes := ⟨Table.empty, Table.empty, 0, false⟩

/-- The classes in order. -/
def labels (classifier : NaiveBayes) : List String := classifier.classes.keys

/-- The number of known terms. -/
def vocabularySize (classifier : NaiveBayes) : Nat := classifier.vocabulary.size

/-- Learns from one labelled text. -/
def learn (classifier : NaiveBayes) (labelled : LabelledText) : NaiveBayes :=
  let terms := analyze labelled.text
  let counts := (classifier.classes.get? labelled.label).getD .none
  let counts := terms.foldl .addTerm { counts with documents := counts.documents + 1 }
  { classifier with
    classes := classifier.classes.insert labelled.label counts
    vocabulary := terms.foldl (fun known term => known.insert term ()) classifier.vocabulary
    documents := classifier.documents + 1 }

/-- Learns from the documents that have both fields. What is counted is kept apart until nothing can
fail any more, and then takes the place of what was learnt before. -/
def train (corpus : List Document) (textField classField : String) :
    Call NaiveBayes ClassifyError Unit := do
  let counted := (labelledTexts corpus textField classField).foldl learn untrained
  if counted.documents = 0 then throw (.emptyCorpus textField classField)
  if counted.vocabulary.entries.isEmpty then throw (.withoutTerms textField counted.documents)
  modify fun classifier => { classifier with classes := counted.classes }
  modify fun classifier => { classifier with vocabulary := counted.vocabulary }
  modify fun classifier => { classifier with documents := counted.documents }
  modify fun classifier => { classifier with isTrained := true }

/-- The better of two scored classes. It takes a higher score to replace the first one. -/
def better {R : Type} [LT R] [DecidableLT R] (best candidate : String × R) : String × R :=
  if best.2 < candidate.2 then candidate else best

variable {R : Type} [Add R] [Sub R] [Div R] [Analytic R]

/-- The logarithm of the smoothed share of a term in a class. -/
def logShare (vocabularySize : Nat) (counts : ClassCounts) (term : String) : R :=
  let occurrences := (counts.terms.get? term).getD 0
  Analytic.ln (Analytic.natural occurrences + Analytic.natural 1) -
    Analytic.ln (Analytic.natural counts.totalTerms + Analytic.natural vocabularySize)

/-- The score of a class for known terms: the logarithm of its share of the documents, plus those of
the shares of the terms. -/
def logPosterior (classifier : NaiveBayes) (terms : List String) (counts : ClassCounts) : R :=
  let likelihood := sumOf (terms.map (logShare classifier.vocabularySize counts))
  let prior :=
    Analytic.ln (Analytic.natural counts.documents / Analytic.natural classifier.documents)
  prior + likelihood

/-- The known terms of a text. -/
def knownTerms (classifier : NaiveBayes) (text : String) : List String :=
  (analyze text).filter classifier.vocabulary.contains

/-- Guesses the class of a text. There is no guess if the text has no known term. Of classes with
one score the first in order is guessed. -/
def assign [LT R] [DecidableLT R] (classifier : NaiveBayes) (text : String) :
    Except ClassifyError (Option (Classification R)) :=
  if classifier.isTrained then
    let terms := classifier.knownTerms text
    if terms.isEmpty then .ok none
    else
      let scored : List (String × R) := classifier.classes.entries.map fun entry =>
        (entry.1, classifier.logPosterior terms entry.2)
      match scored with
      | [] => .ok none
      | first :: rest =>
        let best := rest.foldl better first
        let normalizer := sumOf (scored.map fun candidate => Analytic.exp (candidate.2 - best.2))
        .ok (some ⟨best.1, Analytic.natural 1 / normalizer⟩)
  else .error .untrained

end NaiveBayes

end QuestionSearch.Classifier
