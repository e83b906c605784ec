import QuestionSearch.Classifier.Error
import QuestionSearch.Grammar.Error
import QuestionSearch.Index.Error
import QuestionSearch.Query.Cursor

/-!
# Faults

All faults in one type, for operations that touch several parts.
-/

namespace QuestionSearch

/-- Why an operation fails. -/
inductive SearchError
  /-- The grammar is refused. -/
  | grammar (fault : Grammar.GrammarError)
  /-- The classifier fails. -/
  | classify (fault : Classifier.ClassifyError)
  /-- The index refuses. -/
  | store (fault : Index.StoreError)
  /-- The cursor is at its end. -/
  | cursor (fault : Query.CursorError)
  /-- A file cannot be read. -/
  | io (reason : String)
  /-- A content tree cannot be read. -/
  | serialization (reason : String)
  /-- Settings cannot be read. -/
  | config (reason : String)
  /-- Anything else. -/
  | other (reason : String)

/-- The text of a fault. -/
def SearchError.message : SearchError → String
  | .grammar fault => "invalid grammar: " ++ fault.message
  | .classify fault => "classifier error: " ++ fault.message
  | .store fault => "store error: " ++ fault.message
  | .cursor fault => "cursor error: " ++ fault.message
  | .io reason => "io error: " ++ reason
  | .serialization reason => "serialization error: " ++ reason
  | .config reason => "config error: " ++ reason
  | .other reason => reason

/-- What the fault is due to, the outermost cause first. A fault of a part is itself a cause. -/
def SearchError.causes (fault : SearchError) : List String :=
  fault.message ::
    match fault with
    | .grammar inner => [inner.message]
    | .classify inner => [inner.message]
    | .store inner => [inner.message]
    | .cursor inner => [inner.message]
    | .io reason => [reason]
    | .serialization reason => [reason]
    | .config _ => []
    | .other _ => []

end QuestionSearch
