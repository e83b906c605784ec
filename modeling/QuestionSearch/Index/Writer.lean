import QuestionSearch.Call
import QuestionSearch.Index.Error
import QuestionSearch.Index.Search

/-!
# Indexes and their writer

An index has one published state, at most one living writer, and is open until it is closed. A
writer stages changes, which nobody sees before they are committed. A closed index refuses
everything but staging, and what it refuses changes nothing.
-/

namespace QuestionSearch.Index

open QuestionSearch.Query

/-- An index. -/
structure SearchIndex where
  /-- How fields are indexed. -/
  schema : IndexSchema
  /-- The published state. -/
  published : IndexState
  /-- Whether a writer is alive. -/
  writerHeld : Bool
  /-- Whether it has been closed. -/
  isClosed : Bool
deriving DecidableEq

/-- The writer of an index. -/
structure Writer where
  /-- The staged changes in order. -/
  pending : List Change
deriving DecidableEq

/-- Whether a path starts at the root. -/
def isAbsolute (path : String) : Bool :=
  path.toList.head? = some '/'

namespace Writer

/-- A writer without staged changes. -/
def fresh : Writer := ⟨[]⟩

/-- Stages a change. -/
def stage (writer : Writer) (change : Change) : Writer :=
  ⟨writer.pending ++ [change]⟩

/-- Stages a document. -/
def upsert (writer : Writer) (document : Document) : Except StoreError Writer :=
  if isAbsolute document.path then .ok (writer.stage (.upsert document))
  else .error (.insert (StoreError.relativePath document.path))

/-- Stages the removal of a document. -/
def delete (writer : Writer) (path : String) : Except StoreError Writer :=
  if isAbsolute path then .ok (writer.stage (.delete path))
  else .error (.delete (StoreError.relativePath path))

/-- Stages the removal of a document and all below it. -/
def deleteSubtree (writer : Writer) (path : String) : Except StoreError Writer :=
  if isAbsolute path then .ok (writer.stage (.deleteSubtree path))
  else .error (.delete (StoreError.relativePath path))

/-- Drops the staged changes. -/
def rollback (_writer : Writer) : Writer := fresh

/-- The number of staged changes. -/
def pendingCount (writer : Writer) : Nat := writer.pending.length

end Writer

namespace SearchIndex

/-- An open index without documents. -/
def ofSchema (schema : IndexSchema) : SearchIndex := ⟨schema, .empty, false, false⟩

/-- Fails if the index is closed. -/
def ensureOpen (index : SearchIndex) : Except StoreError Unit :=
  if index.isClosed then .error .closed else .ok ()

/-- Takes the writer. -/
def takeWriter (index : SearchIndex) : Except StoreError (Writer × SearchIndex) := do
  index.ensureOpen
  if index.writerHeld then .error .writerLocked
  else .ok (.fresh, { index with writerHeld := true })

/-- Gives the writer back. What it had staged is lost. -/
def dropWriter (index : SearchIndex) : SearchIndex := { index with writerHeld := false }

/-- Commits what the writer of an index has staged. -/
def commit : Call (Writer × SearchIndex) StoreError CommitInfo := do
  let (writer, index) ← get
  MonadExcept.ofExcept index.ensureOpen
  let (info, published) := index.published.commit index.schema writer.pending
  set (Writer.fresh, { index with published })
  return info

/-- Closes the index for good. -/
def close (index : SearchIndex) : SearchIndex := { index with isClosed := true }

/-- The published state. -/
def state (index : SearchIndex) : Except StoreError IndexState := do
  index.ensureOpen
  .ok index.published

/-- The committed document at a path. -/
def get? (index : SearchIndex) (path : String) : Except StoreError (Option Document) :=
  index.state.map fun state => state.get? path

/-- All committed documents. -/
def snapshot (index : SearchIndex) : Except StoreError Snapshot :=
  index.state.map IndexState.snapshot

/-- The numbers of the published state. -/
def stats (index : SearchIndex) : Except StoreError IndexStats :=
  index.state.map IndexState.stats

/-- The best matches of a plan. -/
def search {R : Type} [Add R] [Mul R] [Div R] [Analytic R] [Ranked R] (index : SearchIndex)
    (plan : QueryPlan R) (limit : Nat) : Except StoreError (List (Hit R)) :=
  index.state.map fun state => state.search plan limit

end SearchIndex

end QuestionSearch.Index
