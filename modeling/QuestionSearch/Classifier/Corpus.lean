import QuestionSearch.Document

/-!
# Labelled texts

What a classifier learns from: the documents that have both a text and a class.
-/

namespace QuestionSearch.Classifier

/-- A guessed class. -/
structure Classification (R : Type) where
  /-- The class. -/
  label : String
  /-- How sure the guess is, from zero to one. -/
  score : R

/-- A text of a known class. -/
structure LabelledText where
  /-- The text. -/
  text : String
  /-- Its class. -/
  label : String
deriving DecidableEq

/-- The text and class of a document, if it has both. -/
def LabelledText.ofDocument? (textField classField : String) (document : Document) :
    Option LabelledText :=
  match document.get? textField, document.get? classField with
  | some text, some label => some ⟨text, label⟩
  | _, _ => none

/-- The labelled texts of some documents, in order. -/
def labelledTexts (corpus : List Document) (textField classField : String) : List LabelledText :=
  corpus.filterMap (LabelledText.ofDocument? textField classField)

end QuestionSearch.Classifier
