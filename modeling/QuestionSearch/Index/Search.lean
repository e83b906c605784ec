import QuestionSearch.Analytic
import QuestionSearch.Index.State
import QuestionSearch.Query.Cursor
import QuestionSearch.Query.Plan

/-!
# Ranked search

A document matches a plan if it has the term of some clause in the field of that clause. Each such
clause adds its boost, times the square root of how often the term occurs, times the square of how
rare the term is among the documents, divided by the square root of the length of the field. The
documents with the highest sums come first, and of equal ones the earlier path.
-/

namespace QuestionSearch.Index

open QuestionSearch.Query

variable {R : Type}

/-- How often the term of a clause occurs in the field of the clause. -/
def IndexedDocument.frequency (indexed : IndexedDocument) (clause : Clause R) : Nat :=
  match indexed.terms.get? clause.field with
  | none => 0
  | some terms => terms.frequency clause.term

/-- Whether a document matches a clause. -/
def IndexedDocument.isMatch (indexed : IndexedDocument) (clause : Clause R) : Bool :=
  0 < indexed.frequency clause

/-- The number of terms in the field of a clause. -/
def IndexedDocument.fieldLength (indexed : IndexedDocument) (clause : Clause R) : Nat :=
  match indexed.terms.get? clause.field with
  | none => 0
  | some terms => terms.length

variable [Add R] [Mul R] [Div R] [Analytic R]

/-- How rare the term of a clause is: one, plus the logarithm of the number of documents over one
more than the number of matching ones. -/
def rarity (documents : List IndexedDocument) (clause : Clause R) : R :=
  let matching := documents.countP fun indexed => indexed.isMatch clause
  Analytic.natural 1 +
    Analytic.ln
      (Analytic.natural documents.length / (Analytic.natural matching + Analytic.natural 1))

/-- What a matching clause adds to the score of a document. -/
def contribution (indexed : IndexedDocument) (clause : Clause R) (rarity : R) : R :=
  let norm := Analytic.natural 1 /
    Analytic.sqrt (Analytic.natural (max (indexed.fieldLength clause) 1))
  let frequency := Analytic.sqrt (Analytic.natural (indexed.frequency clause))
  clause.boost * frequency * rarity * rarity * norm

/-- The score of a document for clauses with their rarities. -/
def score (weighted : List (Clause R × R)) (indexed : IndexedDocument) : R :=
  sumOf <| (weighted.filter fun clause => indexed.isMatch clause.1).map fun clause =>
    contribution indexed clause.1 clause.2

/-- The hit of a document, if it matches. -/
def hit? (weighted : List (Clause R × R)) (indexed : IndexedDocument) : Option (Hit R) :=
  if weighted.any fun clause => indexed.isMatch clause.1 then
    some ⟨indexed.document.path, score weighted indexed, indexed.document.fields⟩
  else none

/-- The best matches of a plan, so many at most. -/
def IndexState.search [Ranked R] (state : IndexState) (plan : QueryPlan R) (limit : Nat) :
    List (Hit R) :=
  if plan.isEmpty || limit = 0 || state.isEmpty then []
  else
    let documents := state.documents.values
    let weighted := plan.map fun clause => (clause, rarity documents clause)
    (rankDescending Hit.score (documents.filterMap (hit? weighted))).take limit

end QuestionSearch.Index
