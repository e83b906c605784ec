import QuestionSearch.Proofs.Content.UnchangedNodes
import QuestionSearch.Proofs.Index.FieldTerms
import QuestionSearch.Proofs.Text.Words

/-!
# Terms of properties

A property may be a list of values, and these may be lists again. The terms of its text are those of
its single values one after the other (`analyze_propertyText`): texts are joined by spaces, a space
ends a term, and values that are nothing leave no text. So in a field that is analysed a property
counts for what its single values count for together (`property_terms`).
-/

namespace QuestionSearch.Content

open QuestionSearch.Index QuestionSearch.Json QuestionSearch.Query QuestionSearch.Text

mutual

/-- The single values of a property in order. Lists are taken apart, however deep they lie, and what
is nothing is left out. -/
def singleValues : Value → List Value
  | .null => []
  | .list items => singleValuesOf items
  | .bool value => [.bool value]
  | .integer number => [.integer number]
  | .float number => [.float number]
  | .text value => [.text value]
  | .record entries => [.record entries]

/-- The single values of several values. -/
def singleValuesOf : List Value → List Value
  | [] => []
  | item :: rest => singleValues item ++ singleValuesOf rest

end

/-- The text of a single value: a text is its own, and all else is written as JSON. -/
def singleText : Value → String
  | .text value => value
  | value => value.compact

/-- Only nothing has no text. -/
theorem propertyText?_eq_none_iff {value : Value} : propertyText? value = none ↔ value = .null := by
  cases value <;> simp [propertyText?]

mutual

/-- The terms of a property are those of its single values one after the other. -/
theorem analyze_propertyText : (value : Value) → ∀ {text}, propertyText? value = some text →
    analyze text = (singleValues value).flatMap fun single => analyze (singleText single)
  | .null, _, found => by cases found
  | .list items, _, found => by
      obtain rfl := Option.some.inj found
      rw [analyze_intercalate, flatMap_propertyTexts items, singleValues]
  | .bool _, _, found | .integer _, _, found | .float _, _, found | .text _, _, found
  | .record _, _, found => by
      obtain rfl := Option.some.inj found
      rw [singleValues, List.flatMap_singleton]
      rfl

theorem flatMap_propertyTexts : (items : List Value) →
    (propertyTexts items).flatMap analyze =
      (singleValuesOf items).flatMap fun single => analyze (singleText single)
  | [] => rfl
  | item :: rest => by
      rw [propertyTexts, singleValuesOf, List.flatMap_append, List.flatMap_append,
        flatMap_propertyTexts rest]
      congr 1
      cases found : propertyText? item with
      | none =>
          obtain rfl := propertyText?_eq_none_iff.mp found
          rfl
      | some text =>
          rw [Option.toList_some, List.flatMap_singleton]
          exact analyze_propertyText item found

end

/-- A property that is something is a field of the node. -/
theorem get?_fields {content : ContentNode} (ascending : AscendingEntries content.properties)
    {name : String} {value : Value} (bound : lookupEntry name content.properties = some value)
    {text : String} (found : propertyText? value = some text) :
    content.fields.get? name = some text := by
  rw [Table.get?_eq_some_iff, fields_eq ascending, propertyFields, List.mem_filterMap]
  exact ⟨(name, value), mem_of_lookupEntry bound, by rw [found]; rfl⟩

section Fields

variable {schema : IndexSchema} {field text : String} {singles : List Value}

/-- In a field that is analysed, terms that are those of several values occur as often as they do in
all values together. -/
theorem frequency_fieldTerms_of_singles (analysed : schema.isKeyword field = false)
    (terms : analyze text = singles.flatMap fun single => analyze (singleText single))
    (term : String) :
    (schema.fieldTerms field text).frequency term =
      (singles.map fun single =>
        (schema.fieldTerms field (singleText single)).frequency term).sum := by
  simp only [IndexSchema.frequency_fieldTerms, IndexSchema.occurrences, analysed,
    Bool.false_eq_true, if_false, terms, List.count_flatMap]
  rfl

theorem length_fieldTerms_of_singles (analysed : schema.isKeyword field = false)
    (terms : analyze text = singles.flatMap fun single => analyze (singleText single)) :
    (schema.fieldTerms field text).length =
      (singles.map fun single => (schema.fieldTerms field (singleText single)).length).sum := by
  simp only [IndexSchema.length_fieldTerms, IndexSchema.termCount, analysed, Bool.false_eq_true,
    if_false, terms, List.length_flatMap]

end Fields

/-- Take any value but nothing. It has a text, the terms of this text are those of its single values
one after the other, and so each of them is a term of a single value. If the value is a property of
a node and its field is analysed, then a term occurs in this field of the document of the node as
often as in the single values together, and the field is as long as they are together. -/
theorem property_terms {value : Value} (something : value ≠ .null) :
    ∃ text, propertyText? value = some text ∧
      analyze text = (singleValues value).flatMap (fun single => analyze (singleText single)) ∧
      (∀ term ∈ analyze text, ∃ single ∈ singleValues value, term ∈ analyze (singleText single)) ∧
      ∀ (schema : IndexSchema) (path : String) (content : ContentNode) (clause : Clause Single),
        AscendingEntries content.properties →
        lookupEntry clause.field content.properties = some value →
        schema.isKeyword clause.field = false →
          let document : Document := ⟨path, content.fields⟩
          let indexed : IndexedDocument := ⟨document, schema.terms document⟩
          indexed.frequency clause = ((singleValues value).map fun single =>
              (schema.fieldTerms clause.field (singleText single)).frequency clause.term).sum ∧
            indexed.fieldLength clause = ((singleValues value).map fun single =>
              (schema.fieldTerms clause.field (singleText single)).length).sum := by
  obtain ⟨text, found⟩ := Option.ne_none_iff_exists'.mp (mt propertyText?_eq_none_iff.mp something)
  have terms := analyze_propertyText value found
  refine ⟨text, found, terms, fun term member => ?_, ?_⟩
  · rw [terms] at member
    exact List.mem_flatMap.mp member
  · intro schema path content clause ascending bound analysed document indexed
    have own : document.indexed? clause.field = some text := by
      rw [Document.indexed?, get?_fields ascending bound found, Option.some_or]
    have known : indexed.terms.get? clause.field = some (schema.fieldTerms clause.field text) := by
      rw [IndexSchema.get?_terms, own, Option.map_some]
    rw [IndexedDocument.frequency, IndexedDocument.fieldLength, known]
    exact ⟨frequency_fieldTerms_of_singles analysed terms clause.term,
      length_fieldTerms_of_singles analysed terms⟩

/-- A list of texts, of nothing, of a list with an empty list in it, and of a record. -/
def manyValues : Value :=
  .list [.text "Red oak", .null, .list [.integer 3, .list [], .text "oak"],
    .record [("oak", .bool true)]]

/-- The third word is in the title three times, in three of the four single values. -/
theorem property_terms_many :
    manyValues ≠ .null ∧
      (∃ text, propertyText? manyValues = some text ∧
        analyze text = ["red", "oak", "3", "oak", "oak", "true"]) ∧
      AscendingEntries (ContentNode.node [(titleField, manyValues)] []).properties ∧
      lookupEntry titleField (ContentNode.node [(titleField, manyValues)] []).properties =
        some manyValues ∧
      IndexSchema.default.isKeyword titleField = false ∧
      let document : Document := ⟨"/", (ContentNode.node [(titleField, manyValues)] []).fields⟩
      let indexed : IndexedDocument := ⟨document, IndexSchema.default.terms document⟩
      indexed.frequency (.plain titleField "oak") = 3 ∧
        indexed.fieldLength (.plain titleField "oak") = 6 := by
  have something : manyValues ≠ .null := nofun
  have analysed : IndexSchema.default.isKeyword titleField = false := by decide
  have ascending : AscendingEntries (ContentNode.node [(titleField, manyValues)] []).properties :=
    List.pairwise_singleton _ _
  have bound : lookupEntry titleField (ContentNode.node [(titleField, manyValues)] []).properties =
      some manyValues := by
    simp [ContentNode.properties, lookupEntry]
  obtain ⟨text, found, terms, _, counted⟩ := property_terms something
  obtain ⟨frequency, fieldLength⟩ :=
    counted .default "/" _ (.plain titleField "oak") ascending bound analysed
  refine ⟨something, ⟨text, found, terms.trans ?_⟩, ascending, bound, analysed,
    frequency.trans ?_, fieldLength.trans ?_⟩
  all_goals decide +kernel

end QuestionSearch.Content
