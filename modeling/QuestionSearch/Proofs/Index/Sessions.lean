import QuestionSearch.Proofs.Index.Publishing

/-!
# Sessions

An index in use: its writer is taken and given back, changes are staged and committed, and at some
time the index is closed. What is refused changes nothing. A generation is never published twice:
later in a session the generation is higher or the published state is still the same
(`published_run_cases`).
-/

namespace QuestionSearch.Index

/-- An index with its living writer. -/
structure Session where
  /-- The index. -/
  index : SearchIndex
  /-- The writer, if one is alive. -/
  writer : Option Writer

/-- What can be done to an index. -/
inductive Action
  /-- The writer is taken. -/
  | takeWriter
  /-- The writer is given back. -/
  | dropWriter
  /-- A document is staged. -/
  | upsert (document : Document)
  /-- The removal of a document is staged. -/
  | delete (path : String)
  /-- The removal of a document and all below it is staged. -/
  | deleteSubtree (path : String)
  /-- The staged changes are dropped. -/
  | rollback
  /-- The staged changes are committed. -/
  | commit
  /-- The index is closed. -/
  | close

namespace Session

/-- An open index without documents, whose writer is free. -/
def start (schema : IndexSchema) : Session := ⟨.ofSchema schema, none⟩

/-- Stages something on the writer, if one is alive and does not refuse it. -/
def stage (session : Session) (staging : Writer → Except StoreError Writer) : Session :=
  match session.writer with
  | none => session
  | some writer =>
    match staging writer with
    | .error _ => session
    | .ok staged => { session with writer := some staged }

/-- Does something to an index. -/
def act (session : Session) : Action → Session
  | .takeWriter =>
    match session.index.takeWriter with
    | .error _ => session
    | .ok (writer, index) => ⟨index, some writer⟩
  | .dropWriter =>
    match session.writer with
    | none => session
    | some _ => ⟨session.index.dropWriter, none⟩
  | .upsert document => session.stage fun writer => writer.upsert document
  | .delete path => session.stage fun writer => writer.delete path
  | .deleteSubtree path => session.stage fun writer => writer.deleteSubtree path
  | .rollback => session.stage fun writer => .ok writer.rollback
  | .commit =>
    match session.writer with
    | none => session
    | some writer =>
      let (_, writer, index) := SearchIndex.commit.on (writer, session.index)
      ⟨index, some writer⟩
  | .close => { session with index := session.index.close }

/-- Does several things in order. -/
def run (session : Session) (actions : List Action) : Session :=
  actions.foldl act session

theorem index_stage (session : Session) (staging : Writer → Except StoreError Writer) :
    (session.stage staging).index = session.index := by
  cases writerEq : session.writer with
  | none => simp [stage, writerEq]
  | some writer => cases staged : staging writer <;> simp [stage, writerEq, staged]

/-- The changes that an action commits, if it is a commit that is not refused. -/
def drained? (session : Session) : Action → Option (List Change)
  | .commit => if session.index.isClosed then none else session.writer.map Writer.pending
  | _ => none

/-- An action leaves the schema as it is, and nothing but a commit that is not refused ever
publishes anything. -/
theorem index_act (session : Session) (action : Action) :
    (session.act action).index.schema = session.index.schema ∧
      (session.act action).index.published =
        match session.drained? action with
        | none => session.index.published
        | some changes => (session.index.published.commit session.index.schema changes).2 := by
  cases action with
  | takeWriter =>
      cases closed : session.index.isClosed <;> cases held : session.index.writerHeld <;>
        simp [act, drained?, SearchIndex.takeWriter, SearchIndex.ensureOpen, closed, held, bind,
          Except.bind]
  | dropWriter =>
      cases writerEq : session.writer <;> simp [act, drained?, SearchIndex.dropWriter, writerEq]
  | upsert document => simp [act, index_stage, drained?]
  | delete path => simp [act, index_stage, drained?]
  | deleteSubtree path => simp [act, index_stage, drained?]
  | rollback => simp [act, index_stage, drained?]
  | commit =>
      cases writerEq : session.writer with
      | none => simp [act, drained?, writerEq]
      | some writer =>
          cases closed : session.index.isClosed with
          | true => simp [act, drained?, writerEq, closed, SearchIndex.commit_of_closed closed]
          | false => simp [act, drained?, writerEq, closed, SearchIndex.commit_of_open closed]
  | close => exact ⟨rfl, rfl⟩

theorem published_act_of_drained {session : Session} {action : Action} {changes : List Change}
    (drained : session.drained? action = some changes) :
    (session.act action).index.published =
      (session.index.published.commit session.index.schema changes).2 := by
  rw [(session.index_act action).2, drained]

theorem published_act_of_not_drained {session : Session} {action : Action}
    (quiet : session.drained? action = none) :
    (session.act action).index.published = session.index.published := by
  rw [(session.index_act action).2, quiet]

/-- Only a commit publishes anything, and then it is the next generation. -/
theorem published_act_cases (session : Session) (action : Action) :
    (session.act action).index.published = session.index.published ∨
      (session.act action).index.published.generation =
        session.index.published.generation + 1 := by
  cases drained : session.drained? action with
  | none => exact Or.inl (published_act_of_not_drained drained)
  | some changes =>
      rw [published_act_of_drained drained]
      exact IndexState.commit_cases session.index.schema session.index.published changes

theorem schema_run (session : Session) (actions : List Action) :
    (session.run actions).index.schema = session.index.schema := by
  induction actions generalizing session with
  | nil => rfl
  | cons action rest ih => exact (ih (session.act action)).trans (session.index_act action).1

/-- Later the generation is higher, unless the published state is still the same. -/
theorem published_run_cases (session : Session) (actions : List Action) :
    (session.run actions).index.published = session.index.published ∨
      session.index.published.generation <
        (session.run actions).index.published.generation := by
  induction actions generalizing session with
  | nil => exact Or.inl rfl
  | cons action rest ih =>
      rw [run, List.foldl_cons]
      rcases published_act_cases session action with same | next
      · rcases ih (session.act action) with restSame | later
        · exact Or.inl (restSame.trans same)
        · exact Or.inr (same ▸ later)
      · refine Or.inr ?_
        rcases ih (session.act action) with restSame | later
        · rw [run] at restSame
          rw [restSame, next]
          exact Nat.lt_succ_self _
        · rw [next] at later
          exact Nat.lt_of_succ_lt later

theorem generation_le_run (session : Session) (actions : List Action) :
    session.index.published.generation ≤
      (session.run actions).index.published.generation := by
  rcases published_run_cases session actions with same | later
  · exact Nat.le_of_eq (congrArg IndexState.generation same.symm)
  · exact Nat.le_of_lt later

/-- One generation never names two sets of documents. -/
theorem published_run_of_generation_eq {session : Session} {actions : List Action}
    (same : (session.run actions).index.published.generation =
      session.index.published.generation) :
    (session.run actions).index.published = session.index.published := by
  rcases published_run_cases session actions with unchanged | later
  · exact unchanged
  · exact absurd same (Nat.ne_of_gt later)

end Session

end QuestionSearch.Index
