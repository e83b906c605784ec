import QuestionSearch.Text.Quoted

/-!
# Faults of the index

Why an index or its writer refuses an operation.
-/

namespace QuestionSearch.Index

open QuestionSearch.Text

/-- Why an index refuses an operation. -/
inductive StoreError
  /-- The index cannot be reached. -/
  | unavailable (reason : String)
  /-- Another writer is alive. -/
  | writerLocked
  /-- A document cannot be staged. -/
  | insert (reason : String)
  /-- A removal cannot be staged. -/
  | delete (reason : String)
  /-- A query cannot be answered. -/
  | query (reason : String)
deriving DecidableEq, Repr

namespace StoreError

/-- The text of a fault. -/
def message : StoreError → String
  | unavailable reason => "backend unavailable: " ++ reason
  | writerLocked => "index writer already held"
  | insert reason => "insert failed: " ++ reason
  | delete reason => "delete failed: " ++ reason
  | query reason => "query failed: " ++ reason

/-- The fault of every operation on a closed index. -/
def closed : StoreError := .unavailable "index is closed"

/-- What is wrong with a path that does not start at the root. -/
def relativePath (path : String) : String :=
  "path must be absolute: " ++ quoted path

end StoreError

end QuestionSearch.Index
