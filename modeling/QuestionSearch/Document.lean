import QuestionSearch.Data.Decode
import QuestionSearch.Json.Written

/-!
# Documents

A document has a path, by which it is known, and fields with a text each.
-/

namespace QuestionSearch

/-- The name under which the path of a document is found. -/
def pathField : String := "path"

/-- The field of titles. -/
def titleField : String := "jcr:title"

/-- The field of descriptions. -/
def descriptionField : String := "jcr:description"

/-- The field of running text. -/
def textField : String := "text"

/-- The field of document types. -/
def typeField : String := "jcr:primaryType"

/-- The name under which the score of a result is found. -/
def scoreField : String := "jcr:score"

/-- An indexed document. -/
structure Document where
  /-- Its place in the content. -/
  path : String
  /-- Its texts by the names of the fields. -/
  fields : Table String
deriving DecidableEq

namespace Document

/-- The text of a field. The path is found under its own name, whatever the fields are. -/
def get? (document : Document) (name : String) : Option String :=
  if name = pathField then some document.path else document.fields.get? name

/-- The document that data describe. The fields may be left out. -/
def ofData? (data : Data) : Option Document := do
  let fields ← data.fields? .json ["path", "fields"]
  let path ← fields.required? "path" Data.text?
  let texts ← fields.withDefault? "fields" Table.empty (Data.tableOf? Data.text?)
  some ⟨path, texts⟩

end Document

/-- Texts by name for printing as JSON. -/
def Table.toJson (table : Table String) : Json.Written :=
  .record (table.entries.map fun entry => (entry.1, .text entry.2))

end QuestionSearch
