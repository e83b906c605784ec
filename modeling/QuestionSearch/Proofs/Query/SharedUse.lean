import QuestionSearch.Proofs.Index.Publishing
import QuestionSearch.Query.Executor

/-!
# Shared use of an index

Several parties use one index, through as many handles as they like. They take its writer, stage,
commit and give the writer back, keep states to read from later, put questions through executors of
their own, and close the index. Nothing here keeps a second writer from living: that there is none
(`Exclusive`) follows from what the index refuses. Once it is closed, it stays so and publishes
nothing any more (`run_of_closed`), and every question is refused (`execute_eq`).
-/

namespace QuestionSearch

open QuestionSearch.Classifier QuestionSearch.Index QuestionSearch.Query

namespace Index.SearchIndex

/-- Whether every call but staging is refused as the index is closed. A commit that is refused
leaves what is staged. -/
structure Unavailable (index : SearchIndex) : Prop where
  state : index.state = .error .closed
  snapshot : index.snapshot = .error .closed
  stats : index.stats = .error .closed
  get (path : String) : index.get? path = .error .closed
  search (plan : QueryPlan Single) (limit : Nat) : index.search plan limit = .error .closed
  takeWriter : index.takeWriter = .error .closed
  commit (writer : Writer) :
    SearchIndex.commit.on (writer, index) = (.error .closed, writer, index)

/-- The writer is given to whoever asks first, unless the index is closed. -/
theorem takeWriter_eq (index : SearchIndex) :
    index.takeWriter =
      if index.isClosed then .error .closed
      else if index.writerHeld then .error .writerLocked
      else .ok (.fresh, { index with writerHeld := true }) := by
  cases closed : index.isClosed <;> simp [takeWriter, ensureOpen, closed, bind, Except.bind]

theorem unavailable_of_closed {index : SearchIndex} (closed : index.isClosed = true) :
    index.Unavailable := by
  have state : index.state = .error .closed := by rw [state_eq, if_pos closed]
  exact
    { state
      snapshot := by rw [SearchIndex.snapshot, state]; rfl
      stats := by rw [SearchIndex.stats, state]; rfl
      get := fun path => by rw [get?, state]; rfl
      search := fun plan limit => by rw [SearchIndex.search, state]; rfl
      takeWriter := by rw [takeWriter_eq, if_pos closed]
      commit := fun _ => commit_of_closed closed }

end Index.SearchIndex

/-- An open index gives an answer to every question, and a closed one only its own fault, whatever
the classifier makes of that fault. -/
theorem Query.Executor.execute_eq (executor : Executor) (index : SearchIndex)
    (orders : DrawnOrders) (question : String) (limit : Nat) :
    let meaning := (executor.interpret index orders question).1
    (executor.execute index orders question limit).1 =
      if index.isClosed then .error (.store .closed)
      else .ok (meaning, .ofHits (index.published.search meaning.plan limit)) := by
  simp only [execute, SearchIndex.search, SearchIndex.state_eq]
  cases index.isClosed <;> rfl

/-- Stages a change. -/
def Index.Change.stageOn (writer : Writer) : Change → Except StoreError Writer
  | .upsert document => writer.upsert document
  | .delete path => writer.delete path
  | .deleteSubtree path => writer.deleteSubtree path

/-- An index and what those who use it hold. -/
structure SharedUse where
  /-- The index. -/
  index : SearchIndex
  /-- All living writers. -/
  writers : List Writer
  /-- The states obtained so far. -/
  obtained : List IndexState
  /-- The executors over the index. -/
  executors : List Executor

/-- What can be done by those who use an index. Writers and executors are named by their places.
A question is put at a moment with orders of hash tables of its own. Looking at the index without
keeping the answer leaves nothing behind, so it is not here. -/
inductive SharedAction
  | takeWriter
  | dropWriter (place : Nat)
  | stage (place : Nat) (change : Change)
  | rollback (place : Nat)
  | commit (place : Nat)
  | read
  | query (place : Nat) (orders : DrawnOrders) (question : String) (limit : Nat)
  | close

namespace SharedUse

/-- A new index, and some executors over it. -/
def start (schema : IndexSchema) (executors : List Executor) : SharedUse :=
  ⟨.ofSchema schema, [], [], executors⟩

/-- Does something to the staged changes of a living writer, if the writer does not refuse it. -/
def onWriter (use : SharedUse) (place : Nat) (staging : Writer → Except StoreError Writer) :
    SharedUse :=
  match use.writers[place]? with
  | none => use
  | some writer =>
    match staging writer with
    | .error _ => use
    | .ok staged => { use with writers := use.writers.set place staged }

/-- Does something. What is refused changes nothing. -/
def step (use : SharedUse) : SharedAction → SharedUse
  | .takeWriter =>
    match use.index.takeWriter with
    | .error _ => use
    | .ok (writer, index) => { use with index, writers := use.writers ++ [writer] }
  | .dropWriter place =>
    if place < use.writers.length then
      { use with index := use.index.dropWriter, writers := use.writers.eraseIdx place }
    else use
  | .stage place change => use.onWriter place change.stageOn
  | .rollback place => use.onWriter place fun writer => .ok writer.rollback
  | .commit place =>
    match use.writers[place]? with
    | none => use
    | some writer =>
      let (_, writer, index) := SearchIndex.commit.on (writer, use.index)
      { use with index, writers := use.writers.set place writer }
  | .read =>
    match use.index.state with
    | .error _ => use
    | .ok state => { use with obtained := use.obtained ++ [state] }
  | .query place orders question limit =>
    match use.executors[place]? with
    | none => use
    | some executor =>
      let executor := (executor.execute use.index orders question limit).2
      { use with executors := use.executors.set place executor }
  | .close => { use with index := use.index.close }

/-- Does several things in order. -/
def run (use : SharedUse) (actions : List SharedAction) : SharedUse :=
  actions.foldl step use

/-! ## What a step does -/

/-- What an action can do to the index and to the number of living writers. -/
inductive Effect (use : SharedUse) : SharedAction → SharedUse → Prop
  | kept {action : SharedAction} {next : SharedUse} (notClose : action ≠ .close)
      (index : next.index = use.index) (writers : next.writers.length = use.writers.length) :
      Effect use action next
  | taken {next : SharedUse} (isOpen : use.index.isClosed = false)
      (free : use.index.writerHeld = false)
      (index : next.index = { use.index with writerHeld := true })
      (writers : next.writers.length = use.writers.length + 1) : Effect use .takeWriter next
  | dropped {place : Nat} {next : SharedUse} (index : next.index = use.index.dropWriter)
      (writers : next.writers.length + 1 = use.writers.length) :
      Effect use (.dropWriter place) next
  | committed {place : Nat} {next : SharedUse} (isOpen : use.index.isClosed = false)
      (changes : List Change)
      (index : next.index =
        { use.index with published := (use.index.published.commit use.index.schema changes).2 })
      (writers : next.writers.length = use.writers.length) : Effect use (.commit place) next
  | closed {next : SharedUse} (index : next.index = use.index.close)
      (writers : next.writers = use.writers) : Effect use .close next

theorem effect_onWriter {action : SharedAction} (notClose : action ≠ .close) (use : SharedUse)
    (place : Nat) (staging : Writer → Except StoreError Writer) :
    Effect use action (use.onWriter place staging) := by
  rw [onWriter]
  split
  · exact .kept notClose rfl rfl
  · split
    · exact .kept notClose rfl rfl
    · exact .kept notClose rfl List.length_set

theorem effect_step (use : SharedUse) (action : SharedAction) :
    Effect use action (use.step action) := by
  cases action with
  | takeWriter =>
      rw [step, SearchIndex.takeWriter_eq]
      by_cases isClosed : use.index.isClosed = true
      · rw [if_pos isClosed]
        exact .kept nofun rfl rfl
      · rw [if_neg isClosed]
        by_cases held : use.index.writerHeld = true
        · rw [if_pos held]
          exact .kept nofun rfl rfl
        · rw [if_neg held]
          exact .taken (eq_false_of_ne_true isClosed) (eq_false_of_ne_true held) rfl
            List.length_append
  | dropWriter place =>
      rw [step]
      split
      · rename_i alive
        refine .dropped rfl ?_
        simp only [List.length_eraseIdx_of_lt alive]
        omega
      · exact .kept nofun rfl rfl
  | stage place change => exact effect_onWriter (by simp) use place change.stageOn
  | rollback place => exact effect_onWriter (by simp) use place fun writer => .ok writer.rollback
  | commit place =>
      rw [step]
      split
      · exact .kept nofun rfl rfl
      · rename_i writer _
        cases isClosed : use.index.isClosed with
        | true =>
            rw [SearchIndex.commit_of_closed isClosed]
            exact .kept nofun rfl List.length_set
        | false =>
            rw [SearchIndex.commit_of_open isClosed]
            exact .committed isClosed writer.pending rfl List.length_set
  | read =>
      rw [step]
      split <;> exact .kept nofun rfl rfl
  | query place orders question limit =>
      rw [step]
      split <;> exact .kept nofun rfl rfl
  | close => exact .closed rfl rfl

variable {use next : SharedUse} {action : SharedAction}

/-! ## One writer -/

/-- Whether exactly the taken writer is alive. -/
def Exclusive (use : SharedUse) : Prop := use.writers.length = use.index.writerHeld.toNat

theorem exclusive_start (schema : IndexSchema) (executors : List Executor) :
    (start schema executors).Exclusive := rfl

theorem Effect.exclusive (effect : Effect use action next) (exclusive : use.Exclusive) :
    next.Exclusive := by
  rw [Exclusive] at exclusive ⊢
  cases effect with
  | kept _ index writers => rw [index, writers, exclusive]
  | taken _ free index writers => rw [index, writers, exclusive, free]; rfl
  | dropped index writers =>
      -- Whoever gives a writer back had it, so it was the only one.
      have one := Bool.toNat_le use.index.writerHeld
      have none : next.writers.length = 0 := by omega
      rw [index, none]
      rfl
  | committed _ _ index writers => rw [index, writers, exclusive]
  | closed index writers => rw [index, writers, exclusive]; rfl

theorem exclusive_run (exclusive : use.Exclusive) (actions : List SharedAction) :
    (use.run actions).Exclusive := by
  induction actions generalizing use with
  | nil => exact exclusive
  | cons action rest ih => exact ih ((effect_step use action).exclusive exclusive)

theorem Exclusive.writerHeld_iff (exclusive : use.Exclusive) :
    use.index.writerHeld = true ↔ use.writers ≠ [] := by
  rw [← List.length_pos_iff, exclusive]
  cases use.index.writerHeld <;> decide

/-! ## Closing -/

theorem Effect.isClosed_iff (effect : Effect use action next) :
    next.index.isClosed = true ↔ use.index.isClosed = true ∨ action = .close := by
  cases effect with
  | kept notClose index => simp [index, notClose]
  | taken _ _ index => simp [index]
  | dropped index => simp [index, SearchIndex.dropWriter]
  | committed _ _ index => simp [index]
  | closed index => simp [index, SearchIndex.close]

theorem isClosed_run (use : SharedUse) (actions : List SharedAction) :
    (use.run actions).index.isClosed = true ↔
      use.index.isClosed = true ∨ .close ∈ actions := by
  induction actions generalizing use with
  | nil => simp [run]
  | cons action rest ih =>
      rw [run, List.foldl_cons]
      rw [show rest.foldl step (use.step action) = (use.step action).run rest from rfl, ih,
        (effect_step use action).isClosed_iff, or_assoc, List.mem_cons, eq_comm (a := action)]

theorem Effect.published_of_closed (effect : Effect use action next)
    (closed : use.index.isClosed = true) : next.index.published = use.index.published := by
  cases effect with
  | kept _ index => rw [index]
  | taken isOpen => simp [isOpen] at closed
  | dropped index => rw [index]; rfl
  | committed isOpen => simp [isOpen] at closed
  | closed index => rw [index]; rfl

/-- A closed index is never opened again, and what it published last is what it stays with. -/
theorem run_of_closed (closed : use.index.isClosed = true) (actions : List SharedAction) :
    (use.run actions).index.isClosed = true ∧
      (use.run actions).index.published = use.index.published := by
  refine ⟨(isClosed_run use actions).mpr (Or.inl closed), ?_⟩
  induction actions generalizing use with
  | nil => rfl
  | cons action rest ih =>
      have effect := effect_step use action
      exact (ih (effect.isClosed_iff.mpr (Or.inl closed))).trans (effect.published_of_closed closed)

/-- A commit that is refused leaves everything as it is, also what is staged. -/
theorem step_commit_of_closed (closed : use.index.isClosed = true) (place : Nat) :
    use.step (.commit place) = use := by
  rw [step]
  split
  · rfl
  · rename_i writer alive
    obtain ⟨lt, rfl⟩ := List.getElem?_eq_some_iff.mp alive
    rw [SearchIndex.commit_of_closed closed]
    dsimp only
    rw [List.set_getElem_self]

/-! ## Obtained states -/

/-- The states that an action obtains. -/
def reads (use : SharedUse) : SharedAction → List IndexState
  | .read => use.index.state.toOption.toList
  | _ => []

theorem obtained_onWriter (use : SharedUse) (place : Nat)
    (staging : Writer → Except StoreError Writer) :
    (use.onWriter place staging).obtained = use.obtained := by
  rw [onWriter]
  split
  · rfl
  · split <;> rfl

theorem obtained_step (use : SharedUse) (action : SharedAction) :
    (use.step action).obtained = use.obtained ++ use.reads action := by
  cases action with
  | read =>
      rw [step, reads]
      cases use.index.state with
      | error fault => exact (List.append_nil _).symm
      | ok state => rfl
  | stage place change => simp only [step, reads, obtained_onWriter, List.append_nil]
  | rollback place => simp only [step, reads, obtained_onWriter, List.append_nil]
  | takeWriter =>
      simp only [step, reads, List.append_nil]
      split <;> rfl
  | dropWriter place =>
      simp only [step, reads, List.append_nil]
      split <;> rfl
  | commit place =>
      simp only [step, reads, List.append_nil]
      split <;> rfl
  | query place orders question limit =>
      simp only [step, reads, List.append_nil]
      split <;> rfl
  | close => exact (List.append_nil _).symm

/-- What was obtained stays in place. -/
theorem obtained_prefix_run (use : SharedUse) (actions : List SharedAction) :
    use.obtained <+: (use.run actions).obtained := by
  induction actions generalizing use with
  | nil => exact List.prefix_rfl
  | cons action rest ih =>
      exact List.IsPrefix.trans ⟨use.reads action, (use.obtained_step action).symm⟩
        (ih (use.step action))

/-- Every obtained state was the published one of an open index when it was read. -/
theorem exists_read_of_mem_obtained {actions : List SharedAction} {state : IndexState}
    (member : state ∈ (use.run actions).obtained) :
    state ∈ use.obtained ∨ ∃ earlier later, actions = earlier ++ .read :: later ∧
      (use.run earlier).index.state = .ok state := by
  induction actions generalizing use with
  | nil => exact Or.inl member
  | cons action rest ih =>
      rcases ih member with before | ⟨earlier, later, split, found⟩
      · rw [obtained_step, List.mem_append] at before
        rcases before with before | now
        · exact Or.inl before
        · cases action with
          | read =>
              refine Or.inr ⟨[], rest, rfl, ?_⟩
              rw [reads] at now
              cases found : use.index.state with
              | error fault =>
                  rw [found] at now
                  cases now
              | ok published =>
                  rw [found] at now
                  exact (List.mem_singleton.mp now).symm ▸ found
          | _ => cases now
      · exact Or.inr ⟨action :: earlier, later, by rw [split, List.cons_append], found⟩

/-- However an index is used, at most one writer is alive, and the next one is given out exactly
while the index is open and no writer is alive. An index is closed from the first closing on. Then
every call on it is refused, what it published last stays for good, and a commit leaves what is
staged. Every obtained state is what was published when it was read, before any closing, and stays
as it is. A question is refused with the fault of the index exactly if the index is closed, and
otherwise it is answered from what is published, whoever puts it. -/
theorem close_is_final (schema : IndexSchema) (executors : List Executor)
    (actions : List SharedAction) :
    let now := (start schema executors).run actions
    now.writers.length ≤ 1 ∧
    (now.index.takeWriter =
      if now.index.isClosed then .error .closed
      else if now.writers = [] then .ok (.fresh, { now.index with writerHeld := true })
      else .error .writerLocked) ∧
    (now.index.isClosed = true ↔ .close ∈ actions) ∧
    (.close ∈ actions → ∀ later,
      let reached := now.run later
      reached.index.Unavailable ∧ reached.index.isClosed = true ∧
        reached.index.published = now.index.published ∧
        ∀ place, reached.step (.commit place) = reached) ∧
    (∀ later, now.obtained <+: (now.run later).obtained) ∧
    (∀ state ∈ now.obtained, ∃ earlier later, actions = earlier ++ .read :: later ∧
      .close ∉ earlier ∧ state = ((start schema executors).run earlier).index.published) ∧
    ∀ (executor : Executor) (orders : DrawnOrders) (question : String) (limit : Nat),
      let meaning := (executor.interpret now.index orders question).1
      (executor.execute now.index orders question limit).1 =
        if now.index.isClosed then .error (.store .closed)
        else .ok (meaning, .ofHits (now.index.published.search meaning.plan limit)) := by
  intro now
  have exclusive : now.Exclusive := exclusive_run (exclusive_start schema executors) actions
  have isClosed (done : List SharedAction) :
      ((start schema executors).run done).index.isClosed = true ↔ .close ∈ done := by
    rw [isClosed_run]
    exact or_iff_right Bool.false_ne_true
  refine ⟨?_, ?_, isClosed actions, fun closing later => ?_, now.obtained_prefix_run,
    fun state member => ?_, fun executor orders question limit =>
      executor.execute_eq now.index orders question limit⟩
  · rw [exclusive]
    exact Bool.toNat_le _
  · rw [SearchIndex.takeWriter_eq]
    cases held : now.index.writerHeld with
    | true => rw [if_pos rfl, if_neg (exclusive.writerHeld_iff.mp held)]
    | false =>
        have none : now.writers = [] := List.length_eq_zero_iff.mp (by rw [exclusive, held]; rfl)
        rw [if_neg Bool.false_ne_true, if_pos none]
  · obtain ⟨closed, published⟩ := run_of_closed ((isClosed actions).mpr closing) later
    exact ⟨SearchIndex.unavailable_of_closed closed, closed, published,
      step_commit_of_closed closed⟩
  · rcases exists_read_of_mem_obtained member with before | ⟨earlier, later, split, found⟩
    · cases before
    · rw [SearchIndex.state_eq] at found
      refine ⟨earlier, later, split, ?_⟩
      by_cases closed : ((start schema executors).run earlier).index.isClosed = true
      · rw [if_pos closed] at found
        cases found
      · rw [if_neg closed] at found
        exact ⟨fun closing => closed ((isClosed earlier).mpr closing),
          (Except.ok.inj found).symm⟩

/-- A second writer is refused. The first one still holds what it staged when a commit comes after
the closing. -/
example : ((start .default []).run [.takeWriter, .takeWriter, .stage 0 (.delete "/a"), .close,
    .commit 0]).writers = [⟨[.delete "/a"]⟩] := by
  decide +kernel

end SharedUse

end QuestionSearch
