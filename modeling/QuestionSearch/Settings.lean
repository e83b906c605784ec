import QuestionSearch.Classifier.Settings
import QuestionSearch.Index.Schema
import QuestionSearch.Query.Executor
import QuestionSearch.Toml.Reader
import QuestionSearch.Toml.Written

/-!
# Settings

The settings of the whole program. They are read from TOML, where everything has a default, and are
printed as TOML or JSON.
-/

namespace QuestionSearch

open QuestionSearch.Classifier QuestionSearch.Index QuestionSearch.Query

/-- The settings of the program. -/
structure Settings where
  /-- The file of the grammar, unless the question grammar is used. -/
  grammarPath : Option String
  /-- The choice of the classifier. -/
  classifier : ClassifierSettings
  /-- How many hits are given. -/
  limit : Nat
  /-- What plans are made of. -/
  planning : PlanSettings
  /-- How fields are indexed. -/
  schema : IndexSchema
  /-- How much is logged. -/
  level : String

namespace Settings

/-- The settings unless told otherwise. -/
def default : Settings where
  grammarPath := none
  classifier := .default
  limit := defaultLimit
  planning := .default
  schema := .default
  level := "info"

/-- Whether two settings are the same. -/
def equals (left right : Settings) : Bool :=
  left.grammarPath == right.grammarPath &&
    decide (left.classifier = right.classifier) &&
    left.limit == right.limit &&
    left.planning.lexicalFields == right.planning.lexicalFields &&
    left.planning.typeField == right.planning.typeField &&
    left.planning.typeBoost.number == right.planning.typeBoost.number &&
    decide (left.schema = right.schema) &&
    left.level == right.level

/-- The limit and the plan settings that data describe. They stand side by side in one record. -/
def queryOfData? (data : Data) : Option (Nat × PlanSettings) := do
  let fields ← data.recordFields? ("limit" :: PlanSettings.fieldNames)
  let limit ← fields.withDefault? "limit" defaultLimit Data.natural?
  let planning ← PlanSettings.ofFields? fields
  some (limit, planning)

/-- The file of the grammar that data describe. -/
def grammarOfData? (data : Data) : Option (Option String) := do
  let fields ← data.fields? .toml ["path"]
  fields.optional? "path" Data.text?

/-- The level of logging that data describe. -/
def loggingOfData? (data : Data) : Option String := do
  let fields ← data.fields? .toml ["level"]
  fields.withDefault? "level" default.level Data.text?

/-- The settings that data describe. -/
def ofData? (data : Data) : Option Settings := do
  let fields ← data.fields? .toml ["grammar", "classifier", "query", "store", "logging"]
  let grammarPath ← fields.withDefault? "grammar" default.grammarPath grammarOfData?
  let classifier ← fields.withDefault? "classifier" default.classifier
    (ClassifierSettings.ofData? .toml)
  let (limit, planning) ← fields.withDefault? "query" (default.limit, default.planning)
    queryOfData?
  let schema ← fields.withDefault? "store" default.schema (IndexSchema.ofData? .toml)
  let level ← fields.withDefault? "logging" default.level loggingOfData?
  some { grammarPath, classifier, limit, planning, schema, level }

/-- Reads settings from TOML. -/
def ofToml? (text : String) : Option Settings :=
  (Toml.read? text).bind ofData?

/-- The settings as TOML. -/
def toToml (settings : Settings) : String :=
  Toml.document
    [⟨some "[grammar]",
        match settings.grammarPath with
        | none => []
        | some path => [("path", Toml.quotedText path)]⟩,
      ⟨some "[classifier]",
        [("kind", Toml.quotedText settings.classifier.kind.name),
          ("k", toString settings.classifier.k),
          ("text_field", Toml.quotedText settings.classifier.textField),
          ("class_field", Toml.quotedText settings.classifier.classField)]⟩,
      ⟨some "[query]",
        [("limit", toString settings.limit),
          ("lexical_fields", Toml.textList settings.planning.lexicalFields),
          ("type_field", Toml.quotedText settings.planning.typeField),
          ("type_boost", Toml.floatText settings.planning.typeBoost.number.toFloat)]⟩,
      ⟨some "[store]", [("keyword_fields", Toml.textList settings.schema.keywordFields.keys)]⟩,
      ⟨some "[logging]", [("level", Toml.quotedText settings.level)]⟩]

/-- The settings for printing as JSON. -/
def toJson (settings : Settings) : Json.Written :=
  .record
    [("grammar", .record
        (match settings.grammarPath with
        | none => []
        | some path => [("path", .text path)])),
      ("classifier", .record
        [("kind", .text settings.classifier.kind.name),
          ("k", .integer settings.classifier.k),
          ("text_field", .text settings.classifier.textField),
          ("class_field", .text settings.classifier.classField)]),
      ("query", .record
        [("limit", .integer settings.limit),
          ("lexical_fields", .list (settings.planning.lexicalFields.map .text)),
          ("type_field", .text settings.planning.typeField),
          ("type_boost", .single settings.planning.typeBoost)]),
      ("store", .record
        [("keyword_fields", .list (settings.schema.keywordFields.keys.map .text))]),
      ("logging", .record [("level", .text settings.level)])]

/-- The lines of a file of settings with every default spelt out. -/
def sampleLines : List String :=
  ["# nlsearch configuration",
    "",
    "[grammar]",
    "# TOML grammar file. The built-in question grammar is used when unset.",
    "# path = \"/path/to/grammar.toml\"",
    "",
    "[classifier]",
    "# knn, naive-bayes or none",
    "kind = \"knn\"",
    "k = 1",
    "text_field = \"jcr:title\"",
    "class_field = \"jcr:primaryType\"",
    "",
    "[query]",
    "limit = 100",
    "lexical_fields = [\"jcr:title\", \"jcr:description\", \"text\"]",
    "type_field = \"jcr:primaryType\"",
    "type_boost = 2.0",
    "",
    "[store]",
    "# Fields matched as one exact term",
    "keyword_fields = [\"jcr:primaryType\", \"path\"]",
    "",
    "[logging]",
    "level = \"info\""]

/-- A file of settings with every default spelt out. -/
def sample : String := String.join (sampleLines.map fun line => line ++ "\n")

end Settings

end QuestionSearch
