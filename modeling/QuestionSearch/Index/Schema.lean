import QuestionSearch.Document
import QuestionSearch.Text.Analysis

/-!
# Index schemas

A schema says which fields are indexed as one exact term. All other fields are analysed into terms.
The path of a document is indexed like a field, unless the document has a field of that name.
-/

namespace QuestionSearch.Index

open QuestionSearch.Text

/-- The terms of one field, counted without a bound. Counters of 32 bits count the same as long as
the field has fewer than `2³²` terms. -/
structure FieldTerms where
  /-- How often each term occurs. -/
  frequencies : Table Nat
  /-- How many terms there are in all. -/
  length : Nat
deriving DecidableEq

/-- How often a term occurs in a field. -/
def FieldTerms.frequency (terms : FieldTerms) (term : String) : Nat :=
  (terms.frequencies.get? term).getD 0

/-- Which fields are one exact term. -/
structure IndexSchema where
  /-- The names of these fields. -/
  keywordFields : Table Unit
deriving DecidableEq

namespace IndexSchema

/-- The schema with the given keyword fields. -/
def ofFields (fields : List String) : IndexSchema :=
  ⟨Table.ofList (fields.map fun field => (field, ()))⟩

/-- The schema unless told otherwise. -/
def default : IndexSchema := ofFields [pathField, typeField]

/-- The schema that data describe. If the fields are left out they have their default. -/
def ofData? (conventions : Data.Conventions) (data : Data) : Option IndexSchema := do
  let fields ← data.fields? conventions ["keyword_fields"]
  fields.withDefault? "keyword_fields" default fun given =>
    (given.listOf? Data.text?).map ofFields

/-- Whether a field is one exact term. -/
def isKeyword (schema : IndexSchema) (field : String) : Bool :=
  schema.keywordFields.contains field

/-- The terms of a field with the given text. -/
def fieldTerms (schema : IndexSchema) (field text : String) : FieldTerms :=
  if schema.isKeyword field then ⟨Table.empty.insert text 1, 1⟩
  else
    let frequencies := termFrequencies text
    ⟨frequencies, frequencies.values.foldl (· + ·) 0⟩

/-- The terms of the path and all fields of a document. -/
def terms (schema : IndexSchema) (document : Document) : Table FieldTerms :=
  document.fields.entries.foldl
    (fun terms entry => terms.insert entry.1 (schema.fieldTerms entry.1 entry.2))
    (Table.empty.insert pathField (schema.fieldTerms pathField document.path))

end IndexSchema

end QuestionSearch.Index
