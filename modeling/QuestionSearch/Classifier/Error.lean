import QuestionSearch.Text.Quoted

/-!
# Faults of classifiers

Why a classifier cannot be trained or asked. Each of them only costs a query its guess of a type.
-/

namespace QuestionSearch.Classifier

open QuestionSearch.Text

/-- Why a classifier cannot be trained or asked. -/
inductive ClassifyError
  /-- It has not been trained. -/
  | untrained
  /-- No document has both fields. -/
  | emptyCorpus (textField classField : String)
  /-- It cannot learn from what there is. -/
  | trainingFailed (reason : String)
  /-- The documents cannot be had. -/
  | backend (reason : String)
deriving DecidableEq, Repr

namespace ClassifyError

/-- The text of a fault. -/
def message : ClassifyError → String
  | untrained => "classifier has not been trained"
  | emptyCorpus textField classField =>
    "no training examples with fields " ++ quoted textField ++ " and " ++ quoted classField
  | trainingFailed reason => "training failed: " ++ reason
  | backend reason => "corpus unavailable: " ++ reason

/-- The fault of labelled documents whose texts have no term. -/
def withoutTerms (textField : String) (labelled : Nat) : ClassifyError :=
  .trainingFailed
    ("no terms in field " ++ quoted textField ++ " of " ++ toString labelled ++
      " labelled documents")

end ClassifyError

end QuestionSearch.Classifier
