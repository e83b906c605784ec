import QuestionSearch.Proofs.Index.Sessions

/-!
# Generations

A generation is a name for what is published. It grows by one with each commit of staged changes,
even of changes that do nothing, and otherwise everything stays as it is. So a generation that is
seen twice is the name of the same documents (`generation_identifies`), which is what anyone relies
on who keeps something that was made of them.
-/

namespace QuestionSearch.Index

namespace Session

/-- Whether an action is the commit of something that is staged, on an open index. -/
def Publishes (session : Session) (action : Action) : Prop :=
  action = .commit ∧ session.index.isClosed = false ∧
    ∃ writer, session.writer = some writer ∧ writer.pending ≠ []

theorem drained?_eq_some_iff {session : Session} {action : Action} {changes : List Change} :
    session.drained? action = some changes ↔
      action = .commit ∧ session.index.isClosed = false ∧
        ∃ writer, session.writer = some writer ∧ writer.pending = changes := by
  cases action <;> simp [drained?, Option.map_eq_some_iff]

theorem generation_act_of_publishes {session : Session} {action : Action}
    (publishes : session.Publishes action) :
    (session.act action).index.published.generation =
      session.index.published.generation + 1 := by
  obtain ⟨commits, isOpen, writer, alive, staged⟩ := publishes
  have drained := drained?_eq_some_iff.mpr ⟨commits, isOpen, writer, alive, rfl⟩
  rw [published_act_of_drained drained]
  exact IndexState.generation_commit staged

theorem published_act_of_not_publishes {session : Session} {action : Action}
    (quiet : ¬ session.Publishes action) :
    (session.act action).index.published = session.index.published := by
  cases drained : session.drained? action with
  | none => exact published_act_of_not_drained drained
  | some changes =>
      obtain ⟨commits, isOpen, writer, alive, rfl⟩ := drained?_eq_some_iff.mp drained
      have nothing : writer.pending = [] := Decidable.byContradiction fun staged =>
        quiet ⟨commits, isOpen, writer, alive, staged⟩
      rw [published_act_of_drained drained, nothing, IndexState.commit_nil]

/-- Something has been committed exactly if the generation is not the first one. -/
theorem committed_act_iff {session : Session} (action : Action)
    (dated : session.index.published.committed = true ↔
      1 ≤ session.index.published.generation) :
    (session.act action).index.published.committed = true ↔
      1 ≤ (session.act action).index.published.generation := by
  cases drained : session.drained? action with
  | none => rwa [published_act_of_not_drained drained]
  | some changes =>
      rw [published_act_of_drained drained]
      cases changes with
      | nil => exact dated
      | cons change rest => simp [IndexState.commit]

theorem committed_run_iff {session : Session} (actions : List Action)
    (dated : session.index.published.committed = true ↔
      1 ≤ session.index.published.generation) :
    (session.run actions).index.published.committed = true ↔
      1 ≤ (session.run actions).index.published.generation := by
  induction actions generalizing session with
  | nil => exact dated
  | cons action rest ih => exact ih (committed_act_iff action dated)

end Session

/-- Whatever has been done to an index, a reader is given what is published, unless the index is
closed. A commit of staged changes on an open index makes the generation greater by one, whatever
the changes are, and nothing else changes anything that is published. So the generation never
decreases, what is published at two moments under one generation is the same, and the generation is
at least one exactly if something has been committed. -/
theorem generation_identifies (schema : IndexSchema) (actions : List Action) :
    let now := (Session.start schema).run actions
    let published := now.index.published
    let read {α : Type} (answer : α) : Except StoreError α :=
      if now.index.isClosed then .error .closed else .ok answer
    (now.index.state = read published ∧ now.index.snapshot = read published.snapshot ∧
        now.index.stats = read published.stats) ∧
      (∀ action, now.Publishes action →
        (now.act action).index.published.generation = published.generation + 1) ∧
      (∀ action, ¬ now.Publishes action → (now.act action).index.published = published) ∧
      (∀ more : List Action,
        let later := (now.run more).index.published
        published.generation ≤ later.generation ∧
          (later.generation = published.generation → later = published)) ∧
      (published.stats.committed = true ↔ 1 ≤ published.generation) := by
  intro now published read
  have state : now.index.state = read published := SearchIndex.state_eq now.index
  refine ⟨⟨state, ?_, ?_⟩, fun _ => Session.generation_act_of_publishes,
    fun _ => Session.published_act_of_not_publishes, fun more => ?_, ?_⟩
  · rw [SearchIndex.snapshot, state]
    dsimp only [read]
    split <;> rfl
  · rw [SearchIndex.stats, state]
    dsimp only [read]
    split <;> rfl
  · exact ⟨now.generation_le_run more, Session.published_run_of_generation_eq⟩
  · exact Session.committed_run_iff actions (by decide : false = true ↔ 1 ≤ 0)

/-- A page is committed, and then the removal of another one is staged, which there never was. -/
def needlessRemoval : List Action :=
  [.takeWriter, .upsert ⟨"/news", .empty⟩, .commit, .delete "/old"]

/-- The needless removal is published under a new generation. Without it the next commit publishes
nothing. -/
theorem generation_identifies_removal :
    let now := (Session.start .default).run needlessRemoval
    now.Publishes .commit ∧ ¬ now.Publishes .rollback ∧
      (now.act .commit).index.published.generation = 2 ∧
      (now.act .commit).index.published.corpus = now.index.published.corpus ∧
      (now.act .rollback).index.published = now.index.published ∧
      (now.run [.rollback, .commit, .close]).index.published = now.index.published := by
  intro now
  obtain ⟨_, grows, stays, later, _⟩ := generation_identifies .default needlessRemoval
  have publishes : now.Publishes .commit :=
    ⟨rfl, by decide, ⟨[.delete "/old"]⟩, by decide, by decide⟩
  have quiet : ¬ now.Publishes .rollback := fun publishes => Action.noConfusion publishes.1
  exact ⟨publishes, quiet, grows .commit publishes, by decide, stays .rollback quiet,
    (later [.rollback, .commit, .close]).2 (by decide)⟩

end QuestionSearch.Index
