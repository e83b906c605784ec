import QuestionSearch.Pipeline
import QuestionSearch.Proofs.Classifier.CachedSessions
import QuestionSearch.Proofs.Index.Consistency

/-!
# Sessions of a pipeline

An opened pipeline in use: its index is changed, directly or to follow its content, and questions
are put to it, in any order. Throughout, what is published stays consistent and what the classifier
has learnt can be trusted (`Sound.run`), so a question is always classified by what is published
when it is put.
-/

namespace QuestionSearch

open QuestionSearch.Classifier QuestionSearch.Content QuestionSearch.Grammar QuestionSearch.Index
  QuestionSearch.Query

/-- A pipeline with the living writer of its index. -/
structure PipelineSession where
  pipeline : Pipeline
  writer : Option Writer

/-- What can be done to a pipeline. Its index and its classifier may also be used directly. A
question is asked at a moment with orders of hash tables of its own. -/
inductive PipelineAction
  | use (action : CachedAction)
  | update (before after : ContentNode)
  | interpret (orders : DrawnOrders) (question : String)
  | execute (orders : DrawnOrders) (question : String) (limit : Nat)

namespace PipelineSession

def start (pipeline : Pipeline) : PipelineSession := ⟨pipeline, none⟩

def index (session : PipelineSession) : SearchIndex := session.pipeline.index

def executor (session : PipelineSession) : Executor := session.pipeline.executor

/-- The index and the classifier over it. -/
def cached (session : PipelineSession) : CachedSession Float :=
  ⟨⟨session.index, session.writer⟩, session.executor.cache⟩

/-- The same with another index and another classifier over it. -/
def withCached (session : PipelineSession) (cached : CachedSession Float) : PipelineSession where
  pipeline :=
    { session.pipeline with
      index := cached.session.index
      executor := { session.executor with cache := cached.cache } }
  writer := cached.session.writer

def withExecutor (session : PipelineSession) (executor : Executor) : PipelineSession :=
  { session with pipeline := { session.pipeline with executor } }

/-- Does something to a pipeline. An update that fails changes nothing. -/
def step (session : PipelineSession) : PipelineAction → PipelineSession
  | .use action => session.withCached (session.cached.step action)
  | .update before after =>
    match session.pipeline.update before after with
    | .error _ => session
    | .ok (_, pipeline) => { session with pipeline }
  | .interpret orders question =>
    session.withExecutor (session.executor.interpret session.index orders question).2
  | .execute orders question limit =>
    session.withExecutor (session.executor.execute session.index orders question limit).2

/-- Does several things in order. -/
def run (session : PipelineSession) (actions : List PipelineAction) : PipelineSession :=
  actions.foldl step session

end PipelineSession

/-- Publishing commits some changes and leaves the index otherwise as it was. -/
theorem exists_commit_of_publish {index next : SearchIndex} {summary : DiffSummary}
    {stage : Writer → Except StoreError Staged}
    (published : Pipeline.publish index stage = .ok (summary, next)) :
    ∃ changes : List Change,
      next = { index with published := (index.published.commit index.schema changes).2 } := by
  obtain ⟨schema, state, held, isClosed⟩ := index
  -- The writer of a closed index is refused, and so is a second one.
  cases isClosed with
  | true => cases published
  | false =>
      cases held with
      | true => cases published
      | false =>
          cases stagedEq : stage .fresh with
          | error fault =>
              simp [Pipeline.publish, SearchIndex.takeWriter, SearchIndex.ensureOpen, stagedEq,
                bind, Except.bind] at published
          | ok staged =>
              rw [Pipeline.publish_of_staged rfl rfl stagedEq] at published
              exact ⟨staged.writer.pending, (Prod.mk.inj (Except.ok.inj published)).2.symm⟩

/-- An opened pipeline has committed some changes to a new index, and has learnt nothing yet. -/
theorem exists_of_ofContent {grammar : GrammarModel Float} {settings : Settings}
    {content : ContentNode} {pipeline : Pipeline}
    (opened : Pipeline.ofContent grammar settings content = .ok pipeline) :
    ∃ (changes : List Change) (summary : DiffSummary),
      pipeline =
        { index :=
            { SearchIndex.ofSchema settings.schema with
              published := (IndexState.empty.commit settings.schema changes).2 }
          executor := .ofSettings grammar settings.classifier settings.planning settings.limit
          summary } := by
  rw [Pipeline.ofContent] at opened
  cases published : Pipeline.publish (.ofSchema settings.schema)
      (fun writer => indexTree writer content) with
  | error fault =>
      rw [published] at opened
      cases opened
  | ok result =>
      obtain ⟨summary, index⟩ := result
      rw [published] at opened
      obtain rfl := Except.ok.inj opened
      obtain ⟨changes, rfl⟩ := exists_commit_of_publish published
      exact ⟨changes, summary, rfl⟩

/-- Whether a pipeline with some settings is consistent and its classifier can be trusted. -/
structure Sound (settings : Settings) (session : PipelineSession) : Prop where
  schema : session.index.schema = settings.schema
  planning : session.executor.planning = settings.planning
  consistent : session.index.published.Consistent settings.schema
  trusted : Trusted settings.classifier session.cached

namespace Sound

variable {settings : Settings} {session : PipelineSession}

theorem start {grammar : GrammarModel Float} {content : ContentNode} {pipeline : Pipeline}
    (opened : Pipeline.ofContent grammar settings content = .ok pipeline) :
    Sound settings (.start pipeline) := by
  obtain ⟨changes, summary, rfl⟩ := exists_of_ofContent opened
  exact ⟨rfl, rfl, (IndexState.Consistent.empty settings.schema).commit changes, rfl,
    fun _ held => by cases held⟩

theorem use (sound : Sound settings session) (action : CachedAction) :
    Sound settings (session.step (.use action)) := by
  -- For the index a direct use is a run of its own, whoever takes part in it.
  obtain ⟨actions, same⟩ := exists_session_run session.cached action
  have index : (session.step (.use action)).index =
      (session.cached.session.run actions).index := congrArg Session.index same
  refine ⟨?_, sound.planning, ?_, trusted_step sound.trusted action⟩
  · rw [index]
    exact (session.cached.session.schema_run actions).trans sound.schema
  · rw [index]
    exact Session.consistent_run sound.schema sound.consistent actions

theorem update (sound : Sound settings session) (before after : ContentNode) :
    Sound settings (session.step (.update before after)) := by
  rw [PipelineSession.step, Pipeline.update]
  cases published : Pipeline.publish session.pipeline.index
      (fun writer => applyDiff writer before after) with
  | error fault => exact sound
  | ok result =>
      obtain ⟨summary, index⟩ := result
      obtain ⟨changes, rfl⟩ := exists_commit_of_publish published
      refine ⟨sound.schema, sound.planning, ?_, trusted_later sound.trusted ?_⟩
      · have consistent := sound.consistent
        rw [← sound.schema] at consistent ⊢
        exact consistent.commit changes
      · rcases IndexState.commit_cases session.index.schema session.index.published changes with
          same | next
        · exact Or.inl same
        · exact Or.inr (Nat.lt_of_lt_of_eq (Nat.lt_succ_self _) next.symm)

theorem interpret (sound : Sound settings session) (orders : DrawnOrders) (question : String) :
    Sound settings (session.step (.interpret orders question)) :=
  ⟨sound.schema, sound.planning, sound.consistent,
    trusted_step sound.trusted (.classify orders question [])⟩

/-- Answering a question leaves what interpreting it does. -/
theorem step_execute (session : PipelineSession) (orders : DrawnOrders) (question : String)
    (limit : Nat) :
    session.step (.execute orders question limit) = session.step (.interpret orders question) := by
  simp only [PipelineSession.step, Executor.execute]
  split <;> rfl

theorem step (sound : Sound settings session) (action : PipelineAction) :
    Sound settings (session.step action) := by
  cases action with
  | use action => exact sound.use action
  | update before after => exact sound.update before after
  | interpret orders question => exact sound.interpret orders question
  | execute orders question limit =>
      exact step_execute session orders question limit ▸ sound.interpret orders question

theorem run (sound : Sound settings session) (actions : List PipelineAction) :
    Sound settings (session.run actions) := by
  induction actions generalizing session with
  | nil => exact sound
  | cons action rest ih => exact ih (sound.step action)

end Sound

end QuestionSearch
