import QuestionSearch.Proofs.Index.Contents
import QuestionSearch.Proofs.Index.Sessions

/-!
# Ledgers

A ledger keeps the books of a session without any documents: what the living writer has staged, and
which batches were committed. The published documents are what comes of applying all committed
changes, in the order in which they were staged, to no documents at all
(`contents_eq_foldl_committed`). So changes that were dropped, in whatever way, leave no trace, and
it does not matter how the others were cut into batches.
-/

namespace QuestionSearch.Index

/-- The books of a session. -/
structure Ledger where
  /-- Whether the index is open. -/
  isOpen : Bool
  /-- What the living writer has staged, if there is one. -/
  staged : Option (List Change)
  /-- The committed batches in order. -/
  batches : List (List Change)
deriving DecidableEq

namespace Ledger

/-- The books of an open index without documents, whose writer is free. -/
def start : Ledger := ⟨true, none, []⟩

/-- Enters a change that is staged. One of a path that does not start at the root is refused. -/
def stage (ledger : Ledger) (change : Change) : Ledger :=
  if isAbsolute change.path then
    { ledger with staged := ledger.staged.map fun changes => changes ++ [change] }
  else ledger

/-- Enters what is done to the index. -/
def enter (ledger : Ledger) : Action → Ledger
  | .takeWriter =>
    if ledger.isOpen && ledger.staged.isNone then { ledger with staged := some [] } else ledger
  | .dropWriter => { ledger with staged := none }
  | .upsert document => ledger.stage (.upsert document)
  | .delete path => ledger.stage (.delete path)
  | .deleteSubtree path => ledger.stage (.deleteSubtree path)
  | .rollback => { ledger with staged := ledger.staged.map fun _ => [] }
  | .commit =>
    match ledger.staged with
    | none => ledger
    | some changes =>
      if ledger.isOpen then
        { ledger with staged := some [], batches := ledger.batches ++ [changes] }
      else ledger
  | .close => { ledger with isOpen := false }

/-- The books of a session from its start. -/
def ofActions (actions : List Action) : Ledger := actions.foldl enter start

/-- All committed changes in order. -/
def committed (ledger : Ledger) : List Change := ledger.batches.flatten

end Ledger

/-- Whether a ledger tells the truth about a session. -/
structure Session.Booked (session : Session) (ledger : Ledger) : Prop where
  /-- The index is closed if the books say so. -/
  closed : session.index.isClosed = !ledger.isOpen
  /-- The writer is held as long as it lives, so no second one is handed out. -/
  held : session.index.writerHeld = session.writer.isSome
  /-- The staged changes are those in the books. -/
  staged : session.writer.map Writer.pending = ledger.staged
  /-- The documents are those that the committed changes make. -/
  contents : session.index.published.contents = ledger.committed.foldl Change.applyTo .empty

namespace Session.Booked

variable {session : Session} {ledger : Ledger}

theorem start (schema : IndexSchema) : (Session.start schema).Booked .start :=
  ⟨rfl, rfl, rfl, rfl⟩

/-- A session and its ledger by what is not told twice. -/
theorem forms (booked : session.Booked ledger) :
    ∃ schema published writer isOpen batches,
      session = ⟨⟨schema, published, writer.isSome, !isOpen⟩, writer⟩ ∧
        ledger = ⟨isOpen, writer.map Writer.pending, batches⟩ ∧
        published.contents = batches.flatten.foldl Change.applyTo .empty := by
  obtain ⟨⟨schema, published, writerHeld, isClosed⟩, writer⟩ := session
  obtain ⟨isOpen, changes, batches⟩ := ledger
  obtain ⟨closed, held, staged, contents⟩ := booked
  dsimp only at closed held staged
  subst closed held staged
  exact ⟨schema, published, writer, isOpen, batches, rfl, rfl, contents⟩

/-- Staging a change enters it, unless its path is refused. -/
theorem stage (booked : session.Booked ledger) {change : Change}
    {staging : Writer → Except StoreError Writer} {fault : StoreError}
    (stages : ∀ writer : Writer, staging writer =
      if isAbsolute change.path then .ok (writer.stage change) else .error fault) :
    (session.stage staging).Booked (ledger.stage change) := by
  obtain ⟨schema, published, writer, isOpen, batches, rfl, rfl, contents⟩ := booked.forms
  by_cases absolute : isAbsolute change.path = true
  · cases writer <;>
      simp only [Session.stage, Ledger.stage, stages, absolute, if_true] <;>
      exact ⟨rfl, rfl, rfl, contents⟩
  · cases writer <;>
      simp only [Session.stage, Ledger.stage, stages, absolute, if_false, Bool.false_eq_true] <;>
      exact ⟨rfl, rfl, rfl, contents⟩

theorem commit (booked : session.Booked ledger) :
    (session.act .commit).Booked (ledger.enter .commit) := by
  obtain ⟨schema, published, writer, isOpen, batches, rfl, rfl, contents⟩ := booked.forms
  cases writer with
  | none => exact ⟨rfl, rfl, rfl, contents⟩
  | some writer =>
      cases isOpen with
      | false => exact ⟨rfl, rfl, rfl, contents⟩
      | true =>
          refine ⟨rfl, rfl, rfl, IndexState.contents_commit.trans ?_⟩
          rw [contents, ← List.foldl_append]
          simp [Ledger.committed, Ledger.enter]

theorem act (booked : session.Booked ledger) (action : Action) :
    (session.act action).Booked (ledger.enter action) := by
  cases action with
  | upsert document => exact booked.stage fun writer => rfl
  | delete path => exact booked.stage fun writer => rfl
  | deleteSubtree path => exact booked.stage fun writer => rfl
  | commit => exact booked.commit
  | close => exact ⟨rfl, booked.held, booked.staged, booked.contents⟩
  -- What is left concerns the writer alone, so nothing happens to the committed changes.
  | takeWriter | dropWriter | rollback =>
      obtain ⟨schema, published, writer, isOpen, batches, rfl, rfl, contents⟩ := booked.forms
      cases writer <;> cases isOpen <;> exact ⟨rfl, rfl, rfl, contents⟩

theorem run (booked : session.Booked ledger) (actions : List Action) :
    (session.run actions).Booked (actions.foldl Ledger.enter ledger) := by
  induction actions generalizing session ledger with
  | nil => exact booked
  | cons action rest ih => exact ih (booked.act action)

end Session.Booked

/-! ## Sessions from their start -/

theorem booked_run_start (schema : IndexSchema) (actions : List Action) :
    ((Session.start schema).run actions).Booked (.ofActions actions) :=
  (Session.Booked.start schema).run actions

/-- Whatever is done to an index, its documents are what comes of applying the committed changes,
and no others, to no documents, in the order in which they were staged. So two sessions that
committed the same changes have the same documents, however these were cut into batches and spread
over writers. A commit is refused only if the index is closed, and then nothing is lost. Otherwise
it takes all that is staged, and reports how many documents were put in place and how many went; the
ones that went and the ones at new paths make up for the difference in size. -/
theorem contents_eq_foldl_committed (schema : IndexSchema) (actions : List Action) :
    let reached := (Session.start schema).run actions
    let before := reached.index.published
    let ledger := Ledger.ofActions actions
    before.contents = ledger.committed.foldl Change.applyTo .empty ∧
      reached.writer.map Writer.pending = ledger.staged ∧
      reached.index.writerHeld = reached.writer.isSome ∧
      (∀ others : List Action, (Ledger.ofActions others).committed = ledger.committed →
        ((Session.start schema).run others).index.published.contents = before.contents) ∧
      ∀ writer, reached.writer = some writer →
        (ledger.isOpen = false →
          SearchIndex.commit.on (writer, reached.index) =
            (.error .closed, writer, reached.index)) ∧
          (ledger.isOpen = true → ∃ info next,
            SearchIndex.commit.on (writer, reached.index) = (.ok info, .fresh, next) ∧
              info.upserted = writer.pending.countP Change.isUpsert ∧
              info.deleted = Change.sumAlong Change.removed before.contents writer.pending ∧
              next.published.size + info.deleted =
                before.size + Change.sumAlong Change.added before.contents writer.pending) := by
  intro reached before ledger
  have booked : reached.Booked ledger := booked_run_start schema actions
  refine ⟨booked.contents, booked.staged, booked.held, ?_, ?_⟩
  · intro others same
    rw [(booked_run_start schema others).contents, same, ← booked.contents]
  · intro writer _
    have closed : reached.index.isClosed = !ledger.isOpen := booked.closed
    constructor
    · intro shut
      exact SearchIndex.commit_of_closed (by rw [closed, shut]; rfl)
    · intro isOpen
      obtain ⟨upserted, deleted⟩ :=
        IndexState.report_commit reached.index.schema before writer.pending
      refine ⟨_, _, SearchIndex.commit_of_open (by rw [closed, isOpen]; rfl), upserted, deleted, ?_⟩
      rw [deleted, ← IndexState.size_contents, ← IndexState.size_contents,
        IndexState.contents_commit]
      exact Change.size_foldl_applyTo _ _

/-- A document without fields. -/
def blankPage (path : String) : Document := ⟨path, .empty⟩

/-- Two pages are committed at once. Then the subtree of the first is about to go and the page to
come back, after something else was given up. -/
def pagesAtOnce : List Action :=
  [.takeWriter, .upsert (blankPage "/news"), .upsert (blankPage "/news/old"), .commit,
    .upsert (blankPage "/draft"), .rollback, .delete "news", .deleteSubtree "/news",
    .upsert (blankPage "/news")]

/-- The two pages are committed one by one, by two writers, and a third one is lost with its
writer. -/
def pagesOneByOne : List Action :=
  [.takeWriter, .upsert (blankPage "/news"), .commit, .upsert (blankPage "/draft"), .dropWriter,
    .takeWriter, .upsert (blankPage "/news/old"), .commit]

theorem contents_eq_foldl_committed_pages :
    (Ledger.ofActions pagesOneByOne).committed = (Ledger.ofActions pagesAtOnce).committed ∧
      ((Session.start .default).run pagesOneByOne).index.published.contents =
        ((Session.start .default).run pagesAtOnce).index.published.contents ∧
      ∃ writer info next, ((Session.start .default).run pagesAtOnce).writer = some writer ∧
        SearchIndex.commit.on (writer, ((Session.start .default).run pagesAtOnce).index) =
          (.ok info, .fresh, next) ∧
        info.upserted = 1 ∧ info.deleted = 2 ∧ next.published.size = 1 := by
  obtain ⟨contents, staged, _, same, reports⟩ :=
    contents_eq_foldl_committed .default pagesAtOnce
  have equal : (Ledger.ofActions pagesOneByOne).committed =
      (Ledger.ofActions pagesAtOnce).committed := by decide
  have pending : (Ledger.ofActions pagesAtOnce).staged =
      some [.deleteSubtree "/news", .upsert (blankPage "/news")] := by decide
  rw [pending] at staged
  obtain ⟨writer, writerEq, writerPending⟩ := Option.map_eq_some_iff.mp staged
  obtain ⟨info, next, committed, upserted, deleted, size⟩ := (reports writer writerEq).2 (by decide)
  rw [writerPending, contents] at deleted size
  rw [writerPending] at upserted
  have two : info.deleted = 2 := deleted.trans (by decide)
  have held : ((Session.start .default).run pagesAtOnce).index.published.size = 2 := by
    rw [← IndexState.size_contents, contents]
    decide
  rw [two, held] at size
  exact ⟨equal, same _ equal, writer, info, next, writerEq, committed, upserted, two,
    Nat.add_right_cancel (size.trans (by decide : _ = 1 + 2))⟩

end QuestionSearch.Index
