import QuestionSearch.Classifier.NaiveBayes
import QuestionSearch.Classifier.NearestNeighbours

/-!
# Choice of a classifier

The kinds of classifier, how they are chosen, and what they have in common.
-/

namespace QuestionSearch.Classifier

/-- The kinds of classifier. -/
inductive ClassifierKind
  /-- Nearest neighbours. -/
  | nearest
  /-- Naive Bayes. -/
  | bayes
  /-- No classifier. -/
  | none
deriving DecidableEq, Repr

namespace ClassifierKind

/-- The name of a kind. -/
def name : ClassifierKind → String
  | nearest => "knn"
  | bayes => "naive-bayes"
  | none => "none"

/-- The kind of a name in settings. -/
def ofName? (name : String) : Option ClassifierKind :=
  if name = "knn" then some .nearest
  else if name = "naive-bayes" then some .bayes
  else if name = "none" then some .none
  else Option.none

/-- The kind of a name given by hand, which may be shortened. -/
def ofText? (text : String) : Option ClassifierKind :=
  if text = "bayes" then some .bayes else ofName? text

/-- The text of the fault of a name that is of no kind. -/
def unknownMessage (text : String) : String :=
  "unknown classifier kind: " ++ text

/-- The kind that data describe: its name, or a record of its name and nothing else. -/
def ofData? (conventions : Data.Conventions) : Data → Option ClassifierKind
  | .text name => ofName? name
  | .record [(name, content)] =>
    if conventions.isUnit content then ofName? name else Option.none
  | _ => Option.none

end ClassifierKind

/-- Which classifier guesses the type of documents asked for, and what it learns from. -/
structure ClassifierSettings where
  /-- The kind of classifier. -/
  kind : ClassifierKind
  /-- How many neighbours vote. -/
  k : Nat
  /-- The field of the texts. -/
  textField : String
  /-- The field of the classes. -/
  classField : String
deriving DecidableEq

namespace ClassifierSettings

/-- The settings unless told otherwise. -/
def default : ClassifierSettings where
  kind := .nearest
  k := defaultNeighbours
  textField := QuestionSearch.titleField
  classField := QuestionSearch.typeField

/-- The settings that data describe. Whatever is left out has its default. -/
def ofData? (conventions : Data.Conventions) (data : Data) :
    Option ClassifierSettings := do
  let fields ← data.fields? conventions ["kind", "k", "text_field", "class_field"]
  let kind ← fields.withDefault? "kind" default.kind (ClassifierKind.ofData? conventions)
  let k ← fields.withDefault? "k" default.k Data.natural?
  let textField ← fields.withDefault? "text_field" default.textField Data.text?
  let classField ← fields.withDefault? "class_field" default.classField Data.text?
  some { kind, k, textField, classField }

end ClassifierSettings

/-- A classifier of either kind. -/
inductive TextClassifier (R : Type)
  /-- Nearest neighbours. -/
  | nearest (classifier : NearestNeighbours R)
  /-- Naive Bayes. -/
  | bayes (classifier : NaiveBayes)

namespace TextClassifier

variable {R : Type}

/-- The untrained classifier of some settings, unless they choose none. -/
def ofSettings? (settings : ClassifierSettings) : Option (TextClassifier R) :=
  match settings.kind with
  | .nearest => some (.nearest (.untrained settings.k))
  | .bayes => some (.bayes .untrained)
  | .none => none

/-- The name of its kind. -/
def name : TextClassifier R → String
  | nearest _ => ClassifierKind.nearest.name
  | bayes _ => ClassifierKind.bayes.name

/-- Whether it has been trained. -/
def isTrained : TextClassifier R → Bool
  | nearest classifier => classifier.isTrained
  | bayes classifier => classifier.isTrained

/-- Learns from the documents that have both fields. -/
def train [Add R] [Mul R] [Div R] [Analytic R] (orders : Nat → VectorOrder)
    (corpus : List Document) (textField classField : String) :
    Call (TextClassifier R) ClassifyError Unit := do
  match ← get with
  | nearest classifier =>
    let (outcome, classifier) :=
      (NearestNeighbours.train orders corpus textField classField).on classifier
    set (nearest classifier)
    MonadExcept.ofExcept outcome
  | bayes classifier =>
    let (outcome, classifier) := (NaiveBayes.train corpus textField classField).on classifier
    set (bayes classifier : TextClassifier R)
    MonadExcept.ofExcept outcome

/-- Guesses the class of a text. -/
def assign [Add R] [Sub R] [Mul R] [Div R] [LT R] [DecidableLT R] [Analytic R] [Ranked R]
    (classifier : TextClassifier R) (order : VectorOrder) (text : String) :
    Except ClassifyError (Option (Classification R)) :=
  match classifier with
  | nearest classifier => classifier.assign order text
  | bayes classifier => classifier.assign text

end TextClassifier

end QuestionSearch.Classifier
