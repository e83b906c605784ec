import QuestionSearch.Analytic
import QuestionSearch.Call
import QuestionSearch.Classifier.Corpus
import QuestionSearch.Classifier.Error
import QuestionSearch.Table.HashOrder
import QuestionSearch.Text.Analysis

/-!
# Nearest neighbours

A text is a vector of term frequencies of length one. The trained texts nearest to a question vote
for their classes, each with its similarity to the question. Of equally near texts the one trained
earlier comes first, and of classes with equally many votes the one whose first voter is nearest.

Weights are held in hash tables and added up in the order in which these give them, so rounded
similarities depend on orders that are drawn anew for each vector.
-/

namespace QuestionSearch.Classifier

open QuestionSearch.Text

/-- How many neighbours vote unless told otherwise. -/
def defaultNeighbours : Nat := 1

/-- Weights of terms. -/
structure TermVector (R : Type) where
  /-- What the terms are bound to. -/
  weights : Table R
  /-- The order in which they are given. -/
  order : HashOrder

/-- The orders of the two tables that the vector of a text is made with. -/
structure VectorOrder where
  /-- That of the table of the frequencies of the terms. -/
  frequencies : HashOrder
  /-- That of the table of their weights. -/
  weights : HashOrder

/-- The orders of the hash tables that are made in the course of a call. -/
structure DrawnOrders where
  /-- Those of the vectors of the labelled texts, by the places of the texts. -/
  examples : Nat → VectorOrder
  /-- That of the vector of the question. -/
  question : VectorOrder

/-- All tables in the order of their keys. -/
def VectorOrder.ofKeys : VectorOrder := ⟨.ofKeys, .ofKeys⟩

/-- All tables in the order of their keys. -/
def DrawnOrders.ofKeys : DrawnOrders := ⟨fun _ => .ofKeys, .ofKeys⟩

section Vectors

variable {R : Type} [Add R] [Mul R] [Div R] [Analytic R]

/-- The vector of length one of a text, if the text has terms. -/
def TermVector.ofText? (order : VectorOrder) (text : String) : Option (TermVector R) :=
  let frequencies := termFrequencies text
  if frequencies.entries.isEmpty then none
  else
    let square (frequency : Nat) : R := Analytic.natural frequency * Analytic.natural frequency
    let norm := Analytic.sqrt (sumOf ((frequencies.valuesBy order.frequencies).map square))
    some ⟨frequencies.map fun frequency => Analytic.natural frequency / norm, order.weights⟩

/-- The similarity of two vectors: the sum of the products of weights of one term, in the order of
the one with fewer terms. -/
def TermVector.cosine (left right : TermVector R) : R :=
  let (fewer, more) :=
    if left.weights.size ≤ right.weights.size then (left, right) else (right, left)
  sumOf <| (fewer.weights.entriesBy fewer.order).filterMap fun entry =>
    (more.weights.get? entry.1).map fun weight => entry.2 * weight

end Vectors

/-- A trained text. -/
structure Example (R : Type) where
  /-- Its vector. -/
  vector : TermVector R
  /-- Its class. -/
  label : String

/-- A trained text that is like a question. -/
structure Neighbour (R : Type) where
  /-- Its class. -/
  label : String
  /-- How like the question it is. -/
  similarity : R

/-- A classifier by nearest neighbours. -/
structure NearestNeighbours (R : Type) where
  /-- How many neighbours vote. -/
  k : Nat
  /-- The trained texts in order. -/
  examples : List (Example R)
  /-- Whether it has been trained. -/
  isTrained : Bool

namespace NearestNeighbours

variable {R : Type}

/-- An untrained classifier. At least one neighbour votes. -/
def untrained (k : Nat) : NearestNeighbours R := ⟨max k 1, [], false⟩

/-- The vectors of the labelled texts that have terms, with their classes. -/
def examplesOf [Add R] [Mul R] [Div R] [Analytic R] (orders : Nat → VectorOrder)
    (labelled : List LabelledText) : List (Example R) :=
  labelled.zipIdx.filterMap fun known =>
    (TermVector.ofText? (orders known.2) known.1.text).map fun vector => ⟨vector, known.1.label⟩

/-- Learns from the documents that have both fields. -/
def train [Add R] [Mul R] [Div R] [Analytic R] (orders : Nat → VectorOrder)
    (corpus : List Document) (textField classField : String) :
    Call (NearestNeighbours R) ClassifyError Unit := do
  let labelled := labelledTexts corpus textField classField
  let examples := examplesOf orders labelled
  if labelled.isEmpty then throw (.emptyCorpus textField classField)
  if examples.isEmpty then throw (.withoutTerms textField labelled.length)
  modify fun classifier => { classifier with examples }
  modify fun classifier => { classifier with isTrained := true }

/-- Adds a vote to those of its class, which stand in the order of their first vote. -/
def addVote [Add R] (votes : List (String × R)) (neighbour : Neighbour R) : List (String × R) :=
  match votes with
  | [] => [(neighbour.label, neighbour.similarity)]
  | vote :: rest =>
    if vote.1 = neighbour.label then (vote.1, vote.2 + neighbour.similarity) :: rest
    else vote :: addVote rest neighbour

/-- The better of the best class so far and another one. It takes more votes to replace it. -/
def better [LT R] [DecidableLT R] (best : Option (String × R)) (candidate : String × R) :
    Option (String × R) :=
  match best with
  | none => some candidate
  | some held => if held.2 < candidate.2 then some candidate else some held

variable [Add R] [Mul R] [Div R] [LT R] [DecidableLT R] [Analytic R] [Ranked R]

/-- The trained texts with something in common with a question, the nearest first, as many as
vote. -/
def neighbours (classifier : NearestNeighbours R) (question : TermVector R) : List (Neighbour R) :=
  let similar := classifier.examples.filterMap fun trained =>
    let similarity := trained.vector.cosine question
    if Analytic.natural 0 < similarity then some ⟨trained.label, similarity⟩ else none
  (rankDescending Neighbour.similarity similar).take classifier.k

/-- Guesses the class of a text. There is no guess if nothing trained has a term in common with
it. -/
def assign (classifier : NearestNeighbours R) (order : VectorOrder) (text : String) :
    Except ClassifyError (Option (Classification R)) :=
  if classifier.isTrained then
    match TermVector.ofText? order text with
    | none => .ok none
    | some question =>
      let votes := (classifier.neighbours question).foldl addVote []
      let total := sumOf (votes.map Prod.snd)
      .ok ((votes.foldl better none).map fun best => ⟨best.1, best.2 / total⟩)
  else .error .untrained

end NearestNeighbours

end QuestionSearch.Classifier
