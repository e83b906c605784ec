import QuestionSearch.Content.Diff
import QuestionSearch.Settings

/-!
# Pipelines

A pipeline is an index over a content tree together with an executor that answers questions about
it. It is opened over one tree and brought from there to the next.
-/

namespace QuestionSearch

open QuestionSearch.Content QuestionSearch.Grammar QuestionSearch.Index QuestionSearch.Query

/-- An index over a content tree, and what answers questions about it. -/
structure Pipeline where
  /-- The index. -/
  index : SearchIndex
  /-- What answers questions. -/
  executor : Executor
  /-- What was staged when the pipeline was opened. -/
  summary : DiffSummary

namespace Pipeline

/-- Stages changes on the writer of an index and commits them. If something fails in between, what
was staged is lost and the writer is given back. -/
def publish (index : SearchIndex) (stage : Writer → Except StoreError Staged) :
    Except StoreError (DiffSummary × SearchIndex) := do
  let (writer, held) ← index.takeWriter
  let staged ← stage writer
  let (outcome, _, committed) := SearchIndex.commit.on (staged.writer, held)
  let _ ← outcome
  .ok (staged.summary, committed.dropWriter)

/-- Opens a pipeline over a content tree. -/
def ofContent (grammar : GrammarModel Float) (settings : Settings) (content : ContentNode) :
    Except StoreError Pipeline := do
  let (summary, index) ←
    publish (.ofSchema settings.schema) fun writer => indexTree writer content
  .ok
    { index
      executor := .ofSettings grammar settings.classifier settings.planning settings.limit
      summary }

/-- Brings the index from one content tree to the next. -/
def update (pipeline : Pipeline) (before after : ContentNode) :
    Except StoreError (DiffSummary × Pipeline) := do
  let (summary, index) ← publish pipeline.index fun writer => applyDiff writer before after
  .ok (summary, { pipeline with index })

end Pipeline

end QuestionSearch
