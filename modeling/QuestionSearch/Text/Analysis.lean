import QuestionSearch.Text.Alphanumeric
import QuestionSearch.Text.Blank
import QuestionSearch.Text.CaseContext
import QuestionSearch.Table

/-!
# Index terms

A text is analysed into terms: its maximal runs of letters and numbers, each in lower case. The
terms of a query are not analysed; they match an analysed term or they do not.
-/

namespace QuestionSearch.Text

/-- The terms of a text, in order. -/
def analyze (text : String) : List String :=
  (runsOf isAlphanumeric text.toList).map fun run => String.ofList (lowercase run)

/-- How often each term of a list occurs in it. -/
def tally (terms : List String) : Table Nat :=
  terms.foldl (fun counts term => counts.insert term ((counts.get? term).getD 0 + 1)) Table.empty

/-- How often each term of a text occurs in it. -/
def termFrequencies (text : String) : Table Nat :=
  tally (analyze text)

end QuestionSearch.Text
