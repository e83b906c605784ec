import QuestionSearch.Pipeline
import QuestionSearch.Proofs.Content.Walk
import QuestionSearch.Proofs.Index.Publishing

/-!
# Following content

Bringing an index from tree to tree by what differs leaves it as indexing the last tree would, up to
equality of properties: it has one document for each node, at the path of the node, and no other
(`follow_mirrors`). A step publishes a new generation exactly if the two trees differ.
-/

namespace QuestionSearch

open QuestionSearch.Content QuestionSearch.Grammar QuestionSearch.Index

/-- Whether documents are those of the nodes of a tree, one for each. -/
structure Mirrors (documents : List Document) (tree : ContentNode) : Prop where
  /-- No two documents have one path. -/
  nodup : (documents.map Document.path).Nodup
  /-- Every node has a document at its path. -/
  exists_document : ∀ address node, tree.at? address = some node →
    ∃ document ∈ documents, document.path = joinedPath address ∧ Describes document node
  /-- Every document is at the path of a node. -/
  exists_address : ∀ document ∈ documents,
    ∃ address, (tree.at? address).isSome ∧ document.path = joinedPath address
  /-- No two nodes have one path. -/
  injective : ∀ address other, (tree.at? address).isSome → (tree.at? other).isSome →
    joinedPath address = joinedPath other → address = other

/-- Whether an index is at rest and its documents are those of a tree. -/
structure IndexShows (index : SearchIndex) (tree : Option ContentNode) : Prop where
  /-- The index is open. -/
  isOpen : index.isClosed = false
  /-- Its writer is free. -/
  isFree : index.writerHeld = false
  /-- All documents stand under their own paths. -/
  keyed : Keyed index.published.documents
  /-- The documents are those of the nodes. -/
  shows : Shows index.published.documents [] tree
  /-- The corpus lists the documents. -/
  corpus : index.published.corpus =
    index.published.documents.values.map IndexedDocument.document

theorem indexShows_ofSchema (schema : IndexSchema) : IndexShows (.ofSchema schema) none where
  isOpen := rfl
  isFree := rfl
  keyed := fun _ _ found => by cases found
  shows := fun _ _ => .none
  corpus := rfl

namespace IndexShows

variable {index : SearchIndex} {tree : ContentNode}

theorem path_eq {before : Option ContentNode} (shown : IndexShows index before)
    {entry : String × IndexedDocument} (member : entry ∈ index.published.documents.entries) :
    entry.2.document.path = entry.1 ∧
      ∃ address, IsAddress address ∧ entry.1 = joinedPath address :=
  shown.keyed entry.1 entry.2 (Table.get?_eq_some_iff.mpr member)

theorem mem_corpus_iff {before : Option ContentNode} (shown : IndexShows index before)
    {document : Document} :
    document ∈ index.published.corpus ↔
      ∃ entry ∈ index.published.documents.entries, entry.2.document = document := by
  simp [shown.corpus, Table.values]

theorem mirrors (shown : IndexShows index (some tree)) (wellFormed : tree.WellFormed) :
    Mirrors index.published.corpus tree where
  nodup := by
    have paths : index.published.corpus.map Document.path =
        index.published.documents.entries.map Prod.fst := by
      rw [shown.corpus, Table.values, List.map_map, List.map_map]
      exact List.map_congr_left fun entry member => (shown.path_eq member).1
    rw [paths, List.nodup_iff_pairwise_ne, List.pairwise_map]
    refine index.published.documents.ascending.imp fun {first second} before same => ?_
    exact String.lt_irrefl _ (same ▸ before)
  exists_document := by
    intro address node found
    have named : IsAddress address := wellFormed.isAddress (by simp [found])
    have held := shown.shows address named
    rw [Option.bind_some, found, List.nil_append] at held
    cases documentEq : documentAt index.published.documents address with
    | none =>
        rw [documentEq] at held
        cases held
    | some document =>
        rw [documentEq] at held
        obtain ⟨indexed, indexedEq, rfl⟩ := Option.map_eq_some_iff.mp documentEq
        have member := Table.get?_eq_some_iff.mp indexedEq
        cases held with
        | some describes =>
            exact ⟨indexed.document, shown.mem_corpus_iff.mpr ⟨_, member, rfl⟩,
              (shown.path_eq member).1, describes⟩
  exists_address := by
    intro document member
    obtain ⟨⟨path, indexed⟩, entryMem, rfl⟩ := shown.mem_corpus_iff.mp member
    obtain ⟨pathEq, address, named, rfl⟩ := shown.path_eq entryMem
    have held := shown.shows address named
    rw [Option.bind_some, List.nil_append, documentAt, Table.get?_eq_some_iff.mpr entryMem,
      Option.map_some] at held
    refine ⟨address, ?_, pathEq⟩
    cases nodeEq : tree.at? address with
    | none =>
        rw [nodeEq] at held
        cases held
    | some node => rfl
  injective := fun _ _ found otherFound same =>
    joinedPath_inj (wellFormed.isAddress found) (wellFormed.isAddress otherFound) same

end IndexShows

/-! ## One step -/

/-- Publishing what a walk from the root stages brings the index to the tree, and publishes a new
generation unless the root is what it was. -/
theorem publish_site {index : SearchIndex} {site : Site} (valid : site.Valid)
    (root : site.address = []) (shown : IndexShows index site.before) :
    ∃ summary next,
      Pipeline.publish index (fun writer => walk [site.frame] (.start writer)) =
        .ok (summary, next) ∧
      IndexShows next (some site.after) ∧
      (site.Same → next.published.generation = index.published.generation) ∧
      (¬ site.Same → next.published.generation = index.published.generation + 1) := by
  obtain ⟨changes, summary, walked, quiet, brings⟩ := walk_sites index.schema
    (List.forall_mem_singleton.mpr valid) (List.pairwise_singleton _ site) (.start .fresh)
  rw [List.forall_mem_singleton] at quiet
  rw [List.map_singleton] at walked
  have brought := brings ⟨index.published.documents, 0, 0⟩ shown.keyed
    (List.forall_mem_singleton.mpr (root.symm ▸ shown.shows))
  have shows := brought.shows site (List.mem_singleton_self site)
  rw [root] at shows
  refine ⟨summary,
    { index with published := (index.published.commit index.schema changes).2 }, ?_, ?_, ?_, ?_⟩
  · rw [Pipeline.publish_of_staged shown.isOpen shown.isFree walked]
    rfl
  · refine ⟨shown.isOpen, shown.isFree, ?_, ?_, IndexState.corpus_commit shown.corpus⟩
    · rw [IndexState.documents_commit]
      exact brought.keyed
    · rw [IndexState.documents_commit]
      exact shows
  · intro same
    rw [quiet.mpr same, IndexState.commit_nil]
  · intro different
    exact IndexState.generation_commit (mt quiet.mp different)

/-! ## A sequence of trees -/

namespace Pipeline

/-- Brings a pipeline from tree to tree. -/
def follow (pipeline : Pipeline) (before : ContentNode) :
    List ContentNode → Except StoreError Pipeline
  | [] => .ok pipeline
  | after :: rest => do
    let (_, next) ← pipeline.update before after
    next.follow after rest

/-- Opening a pipeline over a tree indexes the tree. -/
theorem ofContent_shows (grammar : GrammarModel Float) (settings : Settings) {tree : ContentNode}
    (wellFormed : tree.WellFormed) :
    ∃ pipeline, ofContent grammar settings tree = .ok pipeline ∧
      IndexShows pipeline.index (some tree) ∧ pipeline.index.published.generation = 1 := by
  have valid : Site.Valid ⟨[], none, tree⟩ :=
    ⟨isAddress_nil, fun _ absent => absurd absent (by simp), wellFormed⟩
  obtain ⟨summary, next, published, shown, _, renewed⟩ :=
    publish_site valid rfl (indexShows_ofSchema settings.schema)
  have new : ¬ Site.Same ⟨[], none, tree⟩ := by simp [Site.Same]
  rw [Site.frame, joinedPath_nil] at published
  refine ⟨⟨next, .ofSettings grammar settings.classifier settings.planning settings.limit, summary⟩,
    ?_, shown, renewed new⟩
  simp only [ofContent, indexTree, published, bind, Except.bind]

/-- Updating a pipeline from the tree it shows to another one shows that one. -/
theorem update_shows {pipeline : Pipeline} {before after : ContentNode}
    (shown : IndexShows pipeline.index (some before)) (beforeFormed : before.WellFormed)
    (afterFormed : after.WellFormed) :
    ∃ summary next, pipeline.update before after = .ok (summary, next) ∧
      IndexShows next.index (some after) ∧
      next.index.published.generation =
        pipeline.index.published.generation + if before.equals after then 0 else 1 := by
  have valid : Site.Valid ⟨[], some before, after⟩ :=
    ⟨isAddress_nil, fun _ found => Option.some.inj found ▸ beforeFormed, afterFormed⟩
  obtain ⟨summary, next, published, nextShown, kept, renewed⟩ := publish_site valid rfl shown
  have same : Site.Same ⟨[], some before, after⟩ ↔ before.equals after = true := by
    simp [Site.Same]
  refine ⟨summary, { pipeline with index := next }, ?_, nextShown, ?_⟩
  · rw [Site.frame, joinedPath_nil] at published
    simp only [update, applyDiff, published, bind, Except.bind]
  · rw [same] at kept renewed
    split
    · rename_i equal
      exact kept equal
    · rename_i different
      exact renewed different

theorem follow_shows {pipeline : Pipeline} {first : ContentNode} {rest : List ContentNode}
    (shown : IndexShows pipeline.index (some first))
    (wellFormed : ∀ tree ∈ first :: rest, tree.WellFormed) :
    ∃ reached, pipeline.follow first rest = .ok reached ∧
      IndexShows reached.index (some ((first :: rest).getLast (List.cons_ne_nil _ _))) ∧
      reached.index.published.generation =
        pipeline.index.published.generation +
          ((first :: rest).zip rest).countP fun step => !step.1.equals step.2 := by
  induction rest generalizing pipeline first with
  | nil => exact ⟨pipeline, rfl, shown, by simp⟩
  | cons second rest ih =>
      obtain ⟨firstFormed, restFormed⟩ := List.forall_mem_cons.mp wellFormed
      have secondFormed := restFormed second List.mem_cons_self
      obtain ⟨summary, next, updated, nextShown, generation⟩ :=
        update_shows shown firstFormed secondFormed
      obtain ⟨reached, followed, reachedShown, steps⟩ := ih nextShown restFormed
      refine ⟨reached, ?_, ?_, ?_⟩
      · simp only [follow, updated, bind, Except.bind, followed]
      · rwa [List.getLast_cons (List.cons_ne_nil _ _)]
      · rw [steps, generation, List.zip_cons_cons, List.countP_cons]
        cases first.equals second <;> simp [Nat.add_assoc, Nat.add_comm]

/-- Whatever trees an index follows, from the first one on, nothing fails, and after the last step
it has one document for each node of the last tree and no other. The generation is one more than the
number of steps at which the two trees differ. The sequence may end at any step, so this holds after
each. -/
theorem follow_mirrors (grammar : GrammarModel Float) (settings : Settings) (first : ContentNode)
    (rest : List ContentNode) (wellFormed : ∀ tree ∈ first :: rest, tree.WellFormed) :
    ∃ opened reached snapshot, ofContent grammar settings first = .ok opened ∧
      opened.follow first rest = .ok reached ∧ reached.index.snapshot = .ok snapshot ∧
      Mirrors snapshot.documents ((first :: rest).getLast (List.cons_ne_nil _ _)) ∧
      snapshot.generation =
        1 + ((first :: rest).zip rest).countP fun step => !step.1.equals step.2 := by
  obtain ⟨opened, openedEq, openedShown, one⟩ :=
    ofContent_shows grammar settings (wellFormed first List.mem_cons_self)
  obtain ⟨reached, followed, shown, steps⟩ := follow_shows openedShown wellFormed
  refine ⟨opened, reached, reached.index.published.snapshot, openedEq, followed, ?_,
    shown.mirrors (wellFormed _ (List.getLast_mem _)), ?_⟩
  · simp [SearchIndex.snapshot, SearchIndex.state, SearchIndex.ensureOpen, shown.isOpen, bind,
      Except.bind, Except.map]
  · rw [← one]
    exact steps

/-- A page with a title that changes and a page that goes. -/
def siteBefore : ContentNode :=
  .node [] [("news", .node [("title", .text "Today")] []), ("old", .empty)]

/-- The page with its new title. -/
def siteAfter : ContentNode :=
  .node [] [("news", .node [("title", .text "Tomorrow")] [])]

theorem follow_mirrors_site : ∃ opened reached snapshot,
    ofContent ⟨0, #[], ⟨∅, []⟩, #[], .empty, #[]⟩ .default siteBefore = .ok opened ∧
      opened.follow siteBefore [siteAfter, siteAfter] = .ok reached ∧
      reached.index.snapshot = .ok snapshot ∧ Mirrors snapshot.documents siteAfter ∧
      snapshot.generation = 2 := by
  have news : IsName "news" := ⟨by decide, by decide⟩
  have old : IsName "old" := ⟨by decide, by decide⟩
  have before : siteBefore.WellFormed :=
    ⟨trivial, List.pairwise_pair.mpr (by decide), news, ⟨⟨trivial, trivial⟩, .nil, trivial⟩, old,
      ⟨trivial, .nil, trivial⟩, trivial⟩
  have after : siteAfter.WellFormed :=
    ⟨trivial, List.pairwise_singleton _ _, news, ⟨⟨trivial, trivial⟩, .nil, trivial⟩, trivial⟩
  have wellFormed : ∀ tree ∈ [siteBefore, siteAfter, siteAfter], tree.WellFormed := by
    simp only [List.forall_mem_cons, before, after, true_and]
    exact fun _ absent => absurd absent List.not_mem_nil
  obtain ⟨opened, reached, snapshot, openedEq, followed, snapshotEq, mirrors, generation⟩ :=
    follow_mirrors ⟨0, #[], ⟨∅, []⟩, #[], .empty, #[]⟩ .default siteBefore [siteAfter, siteAfter]
      wellFormed
  exact ⟨opened, reached, snapshot, openedEq, followed, snapshotEq, mirrors,
    generation.trans (by decide)⟩

end Pipeline

end QuestionSearch
