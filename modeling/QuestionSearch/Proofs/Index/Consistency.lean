import QuestionSearch.Proofs.Index.Ledger

/-!
# Consistency of what is published

A published state says the same thing several times: the key of a document is its path, its terms
are those that the schema gives it, and the list of all documents is that of the table. All of this
is kept by commits (`Consistent.commit`). Hence a state is known once its documents are, and two
indexes with the same documents answer alike, whatever led there (`published_consistent`).
-/

namespace QuestionSearch.Index

open QuestionSearch.Query

/-- Whether each document stands under its own path, with the terms that a schema gives it. -/
def Indexed (schema : IndexSchema) (documents : Table IndexedDocument) : Prop :=
  ∀ path indexed, documents.get? path = some indexed →
    indexed.document.path = path ∧ indexed.terms = schema.terms indexed.document

namespace Indexed

variable {schema : IndexSchema} {documents : Table IndexedDocument}

theorem insert (indexed : Indexed schema documents) (document : Document) :
    Indexed schema (documents.insert document.path ⟨document, schema.terms document⟩) := by
  intro path entry found
  rw [Table.get?_insert] at found
  split at found
  · rename_i same
    obtain rfl := Option.some.inj found
    exact ⟨same.symm, rfl⟩
  · exact indexed path entry found

theorem filterKeys (indexed : Indexed schema documents) (keeps : String → Bool) :
    Indexed schema (documents.filterKeys keeps) := by
  intro path entry found
  rw [Table.get?_filterKeys] at found
  split at found
  · exact indexed path entry found
  · cases found

theorem apply {batch : Batch} (indexed : Indexed schema batch.documents) (change : Change) :
    Indexed schema (batch.apply schema change).documents := by
  cases change with
  | upsert document => exact indexed.insert document
  | delete path =>
      rw [Batch.apply]
      split
      · exact indexed.filterKeys _
      · exact indexed
  | deleteSubtree path => exact indexed.filterKeys _

theorem foldl_apply {batch : Batch} (indexed : Indexed schema batch.documents)
    (changes : List Change) :
    Indexed schema (changes.foldl (Batch.apply schema) batch).documents := by
  induction changes generalizing batch with
  | nil => exact indexed
  | cons change rest ih => exact ih (indexed.apply change)

/-- The terms of documents are known once the documents are. -/
theorem eq_of_documents_eq {others : Table IndexedDocument} (indexed : Indexed schema documents)
    (othersIndexed : Indexed schema others)
    (same : documents.map IndexedDocument.document = others.map IndexedDocument.document) :
    documents = others := by
  refine Table.ext_get? fun path => ?_
  have found : (documents.get? path).map IndexedDocument.document =
      (others.get? path).map IndexedDocument.document := by
    rw [← Table.get?_map, ← Table.get?_map, same]
  cases foundHere : documents.get? path with
  | none =>
      rw [foundHere, Option.map_none, eq_comm, Option.map_eq_none_iff] at found
      exact found.symm
  | some entry =>
      rw [foundHere, Option.map_some, eq_comm, Option.map_eq_some_iff] at found
      obtain ⟨other, foundThere, sameDocument⟩ := found
      -- Both entries have one document, and the schema leaves no choice of its terms.
      have terms := (indexed path entry foundHere).2
      have otherTerms := (othersIndexed path other foundThere).2
      obtain ⟨document, documentTerms⟩ := entry
      obtain ⟨otherDocument, otherDocumentTerms⟩ := other
      dsimp only at sameDocument terms otherTerms
      rw [foundThere, terms, otherTerms, sameDocument]

end Indexed

namespace IndexState

/-- Whether a state says the same thing everywhere. -/
structure Consistent (schema : IndexSchema) (state : IndexState) : Prop where
  /-- The documents stand under their paths, with their terms. -/
  indexed : Indexed schema state.documents
  /-- The list of the documents is that of the table. -/
  corpus : state.corpus = state.documents.values.map IndexedDocument.document

namespace Consistent

variable {schema : IndexSchema} {state : IndexState}

theorem empty (schema : IndexSchema) : IndexState.empty.Consistent schema :=
  ⟨fun _ _ found => absurd found (by simp [IndexState.empty]), rfl⟩

theorem commit (consistent : state.Consistent schema) (changes : List Change) :
    (state.commit schema changes).2.Consistent schema := by
  refine ⟨?_, corpus_commit consistent.corpus⟩
  rw [documents_commit]
  exact consistent.indexed.foldl_apply changes

theorem mem_corpus_iff (consistent : state.Consistent schema) {document : Document} :
    document ∈ state.corpus ↔ state.get? document.path = some document := by
  rw [consistent.corpus, List.mem_map, get?, Option.map_eq_some_iff]
  constructor
  · rintro ⟨entry, member, rfl⟩
    obtain ⟨path, found⟩ := Table.mem_values_iff.mp member
    rw [(consistent.indexed path entry found).1]
    exact ⟨entry, found, rfl⟩
  · rintro ⟨entry, found, rfl⟩
    exact ⟨entry, Table.mem_values_iff.mpr ⟨_, found⟩, rfl⟩

theorem exists_indexed (consistent : state.Consistent schema) {document : Document}
    (listed : document ∈ state.corpus) :
    ∃ indexed ∈ state.documents.values, indexed.document = document ∧
      indexed.terms = schema.terms document := by
  rw [consistent.corpus, List.mem_map] at listed
  obtain ⟨indexed, member, rfl⟩ := listed
  obtain ⟨path, found⟩ := Table.mem_values_iff.mp member
  exact ⟨indexed, member, rfl, (consistent.indexed path indexed found).2⟩

theorem path_eq_of_get? (consistent : state.Consistent schema) {path : String}
    {document : Document} (found : state.get? path = some document) : document.path = path := by
  obtain ⟨entry, entryFound, rfl⟩ := Option.map_eq_some_iff.mp found
  exact (consistent.indexed path entry entryFound).1

/-- The documents are listed in the order of their paths. -/
theorem ascending (consistent : state.Consistent schema) :
    state.corpus.Pairwise fun first second => first.path < second.path := by
  have paths : state.corpus.map Document.path = state.documents.keys := by
    rw [consistent.corpus, Table.values, Table.keys, List.map_map, List.map_map]
    exact List.map_congr_left fun entry member =>
      (consistent.indexed entry.1 entry.2 (Table.get?_eq_some_iff.mpr member)).1
  rw [← List.pairwise_map, paths, Table.keys, List.pairwise_map]
  exact state.documents.ascending

theorem length_corpus (consistent : state.Consistent schema) :
    state.corpus.length = state.size := by
  rw [consistent.corpus, List.length_map, Table.values, List.length_map]
  rfl

/-- A state is known once it is known which documents are listed. -/
theorem documents_eq {other : IndexState} (consistent : state.Consistent schema)
    (otherConsistent : other.Consistent schema)
    (same : ∀ document, document ∈ state.corpus ↔ document ∈ other.corpus) :
    state.documents = other.documents := by
  refine consistent.indexed.eq_of_documents_eq otherConsistent.indexed ?_
  refine Table.ext_get? fun path => ?_
  rw [Table.get?_map, Table.get?_map]
  change state.get? path = other.get? path
  refine Option.ext fun document => ?_
  constructor
  · intro found
    obtain rfl := consistent.path_eq_of_get? found
    have listed := (same document).mp (consistent.mem_corpus_iff.mpr found)
    exact otherConsistent.mem_corpus_iff.mp listed
  · intro found
    obtain rfl := otherConsistent.path_eq_of_get? found
    have listed := (same document).mpr (otherConsistent.mem_corpus_iff.mpr found)
    exact consistent.mem_corpus_iff.mp listed

end Consistent

end IndexState

/-- The answer to a search is known once the documents are. -/
theorem IndexState.search_congr {R : Type} [Add R] [Mul R] [Div R] [Analytic R] [Ranked R]
    {state other : IndexState} (same : state.documents = other.documents) (plan : QueryPlan R)
    (limit : Nat) : state.search plan limit = other.search plan limit := by
  obtain ⟨_, documents, _, _⟩ := state
  obtain ⟨_, _, _, _⟩ := other
  obtain rfl : documents = _ := same
  rfl

/-! ## Paths -/

/-- Whether the changes in the books are of paths that start at the root. -/
structure Ledger.Rooted (ledger : Ledger) : Prop where
  /-- The staged changes are. -/
  staged : ∀ changes, ledger.staged = some changes →
    ∀ change ∈ changes, isAbsolute change.path = true
  /-- The committed changes are. -/
  committed : ∀ change ∈ ledger.committed, isAbsolute change.path = true

namespace Ledger.Rooted

variable {ledger : Ledger}

theorem stage (rooted : ledger.Rooted) (change : Change) : (ledger.stage change).Rooted := by
  rw [Ledger.stage]
  split
  · rename_i absolute
    refine ⟨fun changes staged => ?_, rooted.committed⟩
    obtain ⟨before, beforeEq, rfl⟩ := Option.map_eq_some_iff.mp staged
    exact List.forall_mem_append.mpr
      ⟨rooted.staged before beforeEq, List.forall_mem_singleton.mpr absolute⟩
  · exact rooted

theorem enter (rooted : ledger.Rooted) (action : Action) : (ledger.enter action).Rooted := by
  have nothing {changes : List Change} (staged : some [] = some changes) :
      ∀ change ∈ changes, isAbsolute change.path = true := by
    obtain rfl := Option.some.inj staged
    exact fun _ absent => absurd absent List.not_mem_nil
  cases action with
  | upsert document => exact rooted.stage _
  | delete path => exact rooted.stage _
  | deleteSubtree path => exact rooted.stage _
  | takeWriter =>
      rw [Ledger.enter]
      split
      · exact ⟨fun _ => nothing, rooted.committed⟩
      · exact rooted
  | dropWriter => exact ⟨fun _ staged => absurd staged (by simp [Ledger.enter]), rooted.committed⟩
  | rollback =>
      refine ⟨fun changes staged => ?_, rooted.committed⟩
      obtain ⟨before, _, rfl⟩ := Option.map_eq_some_iff.mp staged
      exact nothing rfl
  | commit =>
      rw [Ledger.enter]
      split
      · exact rooted
      · rename_i changes staged
        split
        · refine ⟨fun _ => nothing, ?_⟩
          rw [Ledger.committed, List.flatten_append, List.flatten_singleton]
          exact List.forall_mem_append.mpr ⟨rooted.committed, rooted.staged changes staged⟩
        · exact rooted
  | close => exact ⟨rooted.staged, rooted.committed⟩

theorem ofActions (actions : List Action) : (Ledger.ofActions actions).Rooted := by
  have kept {ledger : Ledger} (rooted : ledger.Rooted) :
      (actions.foldl Ledger.enter ledger).Rooted := by
    induction actions generalizing ledger with
    | nil => exact rooted
    | cons action rest ih => exact ih (rooted.enter action)
  exact kept ⟨fun _ staged => absurd staged (by simp [start]),
    fun _ absent => absurd absent List.not_mem_nil⟩

end Ledger.Rooted

theorem isAbsolute_of_applyTo {change : Change} (absolute : isAbsolute change.path = true)
    {contents : Table Document}
    (rooted : ∀ path, contents.contains path = true → isAbsolute path = true) {path : String}
    (bound : (change.applyTo contents).contains path = true) : isAbsolute path = true := by
  cases change with
  | upsert document =>
      rw [Change.applyTo, Table.contains, Table.get?_insert] at bound
      split at bound
      · rename_i same
        exact same ▸ absolute
      · exact rooted path bound
  | delete root =>
      rw [Change.applyTo, Table.erase, Table.contains_filterKeys, Bool.and_eq_true] at bound
      exact rooted path bound.2
  | deleteSubtree root =>
      rw [Change.applyTo, Table.contains_filterKeys, Bool.and_eq_true] at bound
      exact rooted path bound.2

theorem isAbsolute_of_foldl_applyTo {changes : List Change}
    (absolute : ∀ change ∈ changes, isAbsolute change.path = true) {contents : Table Document}
    (rooted : ∀ path, contents.contains path = true → isAbsolute path = true) {path : String}
    (bound : (changes.foldl Change.applyTo contents).contains path = true) :
    isAbsolute path = true := by
  induction changes generalizing contents with
  | nil => exact rooted path bound
  | cons change rest ih =>
      obtain ⟨first, later⟩ := List.forall_mem_cons.mp absolute
      exact ih later (fun _ => isAbsolute_of_applyTo first rooted) bound

/-! ## Sessions from their start -/

namespace Session

theorem consistent_act {session : Session} {schema : IndexSchema}
    (sameSchema : session.index.schema = schema)
    (consistent : session.index.published.Consistent schema) (action : Action) :
    (session.act action).index.published.Consistent schema := by
  cases drained : session.drained? action with
  | none => rwa [published_act_of_not_drained drained]
  | some changes =>
      rw [published_act_of_drained drained, sameSchema]
      exact consistent.commit changes

theorem consistent_run {session : Session} {schema : IndexSchema}
    (sameSchema : session.index.schema = schema)
    (consistent : session.index.published.Consistent schema) (actions : List Action) :
    (session.run actions).index.published.Consistent schema := by
  induction actions generalizing session with
  | nil => exact consistent
  | cons action rest ih =>
      exact ih ((session.index_act action).1.trans sameSchema)
        (consistent_act sameSchema consistent action)

/-- Whatever is done to an index, what it publishes is consistent. -/
theorem consistent_run_start (schema : IndexSchema) (actions : List Action) :
    ((start schema).run actions).index.published.Consistent schema :=
  consistent_run (rfl : (start schema).index.schema = schema) (.empty schema) actions

theorem isAbsolute_of_get? {schema : IndexSchema} {actions : List Action} {path : String}
    {document : Document}
    (found : ((start schema).run actions).index.published.get? path = some document) :
    isAbsolute path = true := by
  have bound : ((start schema).run actions).index.published.contents.contains path = true := by
    rw [IndexState.contents, Table.contains, Table.get?_map]
    exact Option.isSome_iff_exists.mpr ⟨document, found⟩
  rw [(booked_run_start schema actions).contents] at bound
  exact isAbsolute_of_foldl_applyTo (Ledger.Rooted.ofActions actions).committed
    (fun _ unbound => absurd unbound (by simp [Table.contains])) bound

end Session

/-- Whatever is done to an index, each of its documents stands under its own path, which starts at
the root, with the terms that the schema gives it. The snapshot lists just these documents in
strictly ascending order of their paths, and all numbers agree with it. If two sessions on indexes
of one schema end with the same documents, their snapshots list them alike and all searches are
answered alike. -/
theorem published_consistent (schema : IndexSchema) (actions : List Action) :
    let reached := (Session.start schema).run actions
    let state := reached.index.published
    (∀ path indexed, state.documents.get? path = some indexed →
        indexed.document.path = path ∧ isAbsolute path = true ∧
          indexed.terms = schema.terms indexed.document) ∧
      (∀ document, document ∈ state.snapshot.documents ↔
        ∃ path, state.get? path = some document) ∧
      (state.snapshot.documents.Pairwise fun first second => first.path < second.path) ∧
      (state.size = state.snapshot.documents.length ∧
        state.stats.documents = state.snapshot.documents.length ∧
        state.stats.generation = state.generation ∧
        state.snapshot.generation = state.generation) ∧
      ∀ others : List Action,
        let compared := (Session.start schema).run others
        (∀ document, document ∈ compared.index.published.snapshot.documents ↔
            document ∈ state.snapshot.documents) →
          compared.index.published.snapshot.documents = state.snapshot.documents ∧
            (∀ (plan : QueryPlan Single) (limit : Nat),
              compared.index.published.search plan limit = state.search plan limit) ∧
            (compared.index.isClosed = reached.index.isClosed →
              compared.index.snapshot.map Snapshot.documents =
                  reached.index.snapshot.map Snapshot.documents ∧
                ∀ (plan : QueryPlan Single) (limit : Nat),
                  compared.index.search plan limit = reached.index.search plan limit) := by
  intro reached state
  have consistentAfter (actions : List Action) :
      ((Session.start schema).run actions).index.published.Consistent schema :=
    Session.consistent_run (rfl : (Session.start schema).index.schema = schema) (.empty schema)
      actions
  have consistent : state.Consistent schema := consistentAfter actions
  have sizes : state.snapshot.documents.length = state.size := consistent.length_corpus
  refine ⟨?_, ?_, consistent.ascending, ⟨sizes.symm, sizes.symm, rfl, rfl⟩, ?_⟩
  · intro path indexed found
    obtain ⟨own, terms⟩ := consistent.indexed path indexed found
    exact ⟨own, Session.isAbsolute_of_get? (congrArg (Option.map _) found), terms⟩
  · intro document
    rw [show state.snapshot.documents = state.corpus from rfl, consistent.mem_corpus_iff]
    constructor
    · exact fun found => ⟨_, found⟩
    · rintro ⟨path, found⟩
      rwa [consistent.path_eq_of_get? found]
  · intro others compared same
    have documents : compared.index.published.documents = state.documents :=
      (consistentAfter others).documents_eq consistent same
    have corpus : compared.index.published.corpus = state.corpus := by
      rw [(consistentAfter others).corpus, consistent.corpus, documents]
    have searches (plan : QueryPlan Single) (limit : Nat) :
        compared.index.published.search plan limit = state.search plan limit :=
      IndexState.search_congr documents plan limit
    refine ⟨corpus, searches, fun closed => ⟨?_, fun plan limit => ?_⟩⟩
    · rw [SearchIndex.snapshot, SearchIndex.snapshot, SearchIndex.state_eq, SearchIndex.state_eq,
        closed]
      split
      · rfl
      · exact congrArg Except.ok corpus
    · rw [SearchIndex.search, SearchIndex.search, SearchIndex.state_eq, SearchIndex.state_eq,
        closed]
      split
      · rfl
      · exact congrArg Except.ok (searches plan limit)

theorem published_consistent_pages :
    let reached := (Session.start .default).run pagesAtOnce
    let compared := (Session.start .default).run pagesOneByOne
    reached.index.published.snapshot.documents = [blankPage "/news", blankPage "/news/old"] ∧
      reached.index.published.generation = 1 ∧ compared.index.published.generation = 2 ∧
      ∀ (plan : QueryPlan Single) (limit : Nat),
        compared.index.search plan limit = reached.index.search plan limit := by
  intro reached compared
  have here : reached.index.published.snapshot.documents =
      [blankPage "/news", blankPage "/news/old"] := by decide
  have there : compared.index.published.snapshot.documents =
      [blankPage "/news", blankPage "/news/old"] := by decide
  obtain ⟨_, _, _, _, alike⟩ := published_consistent .default pagesAtOnce
  have same (document : Document) :
      document ∈ compared.index.published.snapshot.documents ↔
        document ∈ reached.index.published.snapshot.documents := by rw [here, there]
  exact ⟨here, by decide, by decide, ((alike pagesOneByOne same).2.2 (by decide)).2⟩

end QuestionSearch.Index
