import QuestionSearch.Pipeline

/-!
# Publishing

What a commit publishes: the documents with all changes applied in order, their list, and the next
generation, unless nothing was staged. A closed index refuses it, and nothing is lost
(`commit_of_closed`). A pipeline publishes what it stages (`publish_of_staged`).
-/

namespace QuestionSearch

open QuestionSearch.Content QuestionSearch.Index

namespace Index

namespace IndexState

variable {schema : IndexSchema} {state : IndexState} {changes : List Change}

theorem commit_nil : (state.commit schema []).2 = state := rfl

theorem documents_commit :
    (state.commit schema changes).2.documents =
      (changes.foldl (Batch.apply schema) ⟨state.documents, 0, 0⟩).documents := by
  cases changes <;> rfl

theorem generation_commit (staged : changes ≠ []) :
    (state.commit schema changes).2.generation = state.generation + 1 := by
  cases changes with
  | nil => exact absurd rfl staged
  | cons change rest => rfl

/-- What is published stays as it is or is of the next generation. -/
theorem commit_cases (schema : IndexSchema) (state : IndexState) (changes : List Change) :
    (state.commit schema changes).2 = state ∨
      (state.commit schema changes).2.generation = state.generation + 1 := by
  cases changes with
  | nil => exact Or.inl commit_nil
  | cons change rest => exact Or.inr (generation_commit (List.cons_ne_nil change rest))

/-- The list of the documents stays that of the table. -/
theorem corpus_commit
    (listed : state.corpus = state.documents.values.map IndexedDocument.document) :
    (state.commit schema changes).2.corpus =
      (state.commit schema changes).2.documents.values.map IndexedDocument.document := by
  cases changes with
  | nil => exact listed
  | cons change rest => rfl

end IndexState

namespace SearchIndex

variable {index : SearchIndex} {writer : Writer}

/-- An open index gives what is published, and a closed one nothing. -/
theorem state_eq (index : SearchIndex) :
    index.state = if index.isClosed then .error .closed else .ok index.published := by
  cases closed : index.isClosed <;> simp [state, ensureOpen, closed, bind, Except.bind]

theorem state_of_open (isOpen : index.isClosed = false) : index.state = .ok index.published := by
  rw [state_eq, isOpen]
  rfl

/-- A commit that is refused leaves the staged changes and the index as they were. -/
theorem commit_of_closed (closed : index.isClosed = true) :
    commit.on (writer, index) = (.error .closed, writer, index) := by
  simp [commit, ensureOpen, closed]

theorem commit_of_open (isOpen : index.isClosed = false) :
    commit.on (writer, index) =
      (.ok (index.published.commit index.schema writer.pending).1, .fresh,
        { index with published := (index.published.commit index.schema writer.pending).2 }) := by
  simp [commit, ensureOpen, isOpen, Except.map]

end SearchIndex

end Index

/-- What is staged on the free writer of an open index is published. -/
theorem Pipeline.publish_of_staged {index : SearchIndex} (isOpen : index.isClosed = false)
    (isFree : index.writerHeld = false) {stage : Writer → Except StoreError Staged}
    {staged : Staged} (stages : stage .fresh = .ok staged) :
    publish index stage =
      .ok (staged.summary,
        { index with
          published := (index.published.commit index.schema staged.writer.pending).2 }) := by
  have taken : index.takeWriter = .ok (.fresh, { index with writerHeld := true }) := by
    simp [SearchIndex.takeWriter, SearchIndex.ensureOpen, isOpen, isFree, bind, Except.bind]
  have committed :
      SearchIndex.commit.on (staged.writer, { index with writerHeld := true }) = _ :=
    SearchIndex.commit_of_open isOpen
  simp [publish, taken, stages, committed, SearchIndex.dropWriter, isFree, bind, Except.bind]

end QuestionSearch
