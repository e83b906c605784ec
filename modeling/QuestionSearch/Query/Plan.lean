import QuestionSearch.Classifier.Corpus
import QuestionSearch.Decimal.Written
import QuestionSearch.Text.Quoted

/-!
# Query plans

A plan is a list of clauses, of which a document has to match at least one. A clause asks for one
exact term in one field and says how much a match counts.
-/

namespace QuestionSearch.Query

open QuestionSearch.Classifier QuestionSearch.Decimal QuestionSearch.Text

/-- A term that a field is asked for. -/
structure Clause (R : Type) where
  /-- The field. -/
  field : String
  /-- The term, which is not analysed. -/
  term : String
  /-- What the score of a match is multiplied by. -/
  boost : R

/-- Clauses of which one has to match. A plan without clauses matches nothing. -/
abbrev QueryPlan (R : Type) := List (Clause R)

/-- A clause that counts once. -/
def Clause.plain (field term : String) : Clause Single := ⟨field, term, 1.0⟩

/-- The least difference from one that a boost is shown for. -/
def boostPrecision : Float32 := Float32.ofBits 0x34000000

/-- The clause as it is shown. A boost of one is not. -/
def Clause.display (clause : Clause Single) : String :=
  let plainText := clause.field ++ ":" ++ quoted clause.term
  if boostPrecision < (clause.boost.number - 1.0).abs then plainText ++ "^" ++ plain32 clause.boost
  else plainText

/-- The plan as it is shown. -/
def QueryPlan.display (plan : QueryPlan Single) : String :=
  if plan.isEmpty then "(empty)" else String.intercalate " OR " (plan.map Clause.display)

/-- What plans are made of. -/
structure PlanSettings where
  /-- The fields that are asked for the end of the question, in order. -/
  lexicalFields : List String
  /-- The field that is asked for the guessed type. -/
  typeField : String
  /-- How much a match of the guessed type counts. -/
  typeBoost : Single

namespace PlanSettings

/-- The settings unless told otherwise. -/
def default : PlanSettings where
  lexicalFields := [titleField, descriptionField, textField]
  typeField := QuestionSearch.typeField
  typeBoost := 2.0

/-- The settings that some fields give. Whatever is left out has its default. -/
def ofFields? (fields : Data.Fields) : Option PlanSettings := do
  let lexicalFields ← fields.withDefault? "lexical_fields" default.lexicalFields
    (Data.listOf? Data.text?)
  let typeField ← fields.withDefault? "type_field" default.typeField Data.text?
  let typeBoost ← fields.withDefault? "type_boost" default.typeBoost Data.single?
  some { lexicalFields, typeField, typeBoost }

/-- The names of the fields of data for these settings. -/
def fieldNames : List String := ["lexical_fields", "type_field", "type_boost"]

/-- The settings that data describe. -/
def ofData? (conventions : Data.Conventions) (data : Data) : Option PlanSettings :=
  (data.fields? conventions fieldNames).bind ofFields?

/-- The clauses for the end of a question, one for each lexical field. -/
def lexicalClauses (settings : PlanSettings) (fragment : Option String) : QueryPlan Single :=
  match fragment with
  | none => []
  | some fragment =>
    if fragment = "" then [] else settings.lexicalFields.map fun field => .plain field fragment

/-- The clause for a guessed type. -/
def typeClauses {R : Type} (settings : PlanSettings) (guess : Option (Classification R)) :
    QueryPlan Single :=
  match guess with
  | none => []
  | some guess => [⟨settings.typeField, guess.label, settings.typeBoost⟩]

/-- The plan for the end of a question and a guessed type. Either may be missing. -/
def plan {R : Type} (settings : PlanSettings) (fragment : Option String)
    (guess : Option (Classification R)) : QueryPlan Single :=
  settings.lexicalClauses fragment ++ settings.typeClauses guess

end PlanSettings

end QuestionSearch.Query
