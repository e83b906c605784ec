import Mathlib.Data.List.Dedup
import QuestionSearch.Proofs.Content.Incremental

/-!
# One document for each path

Indexing a tree stages one document for each node, in the order in which the nodes are visited
(`indexTree_eq`). Names are not checked, so several nodes may share a path, and then the last one of
them is what an empty index publishes there. Hence there are as many documents as nodes exactly if
no path is shared. Addresses without slashes share a path only if they differ by empty names at the
front, so a tree without such names has a document for each node (`publish_nodes`).
-/

namespace QuestionSearch.Content

open QuestionSearch.Index QuestionSearch.Json

namespace ContentNode

/-! ## Nodes of a tree -/

mutual

/-- All nodes of a tree with their addresses, each before those below it. -/
def nodes : ContentNode → List (List String × ContentNode)
  | node properties children => ([], node properties children) :: nodesUnder children

/-- All nodes at and below some children. -/
def nodesUnder : List (String × ContentNode) → List (List String × ContentNode)
  | [] => []
  | (name, child) :: rest =>
    child.nodes.map (fun entry => (name :: entry.1, entry.2)) ++ nodesUnder rest

end

mutual

/-- Whether the children of each node ascend. -/
def Ordered : ContentNode → Prop
  | node _ children => AscendingEntries children ∧ ChildrenOrdered children

/-- Whether some children are ordered themselves. -/
def ChildrenOrdered : List (String × ContentNode) → Prop
  | [] => True
  | (_, child) :: rest => child.Ordered ∧ ChildrenOrdered rest

end

theorem childrenOrdered_iff {children : List (String × ContentNode)} :
    ChildrenOrdered children ↔ ∀ entry ∈ children, entry.2.Ordered := by
  induction children with
  | nil => simp [ChildrenOrdered]
  | cons entry rest ih => simp [ChildrenOrdered, ih]

theorem childrenOrdered_sortEntries {children : List (String × ContentNode)}
    (ordered : ChildrenOrdered children) : ChildrenOrdered (sortEntries children) := by
  have kept (sorted : List (String × ContentNode)) (sortedOrdered : ChildrenOrdered sorted) :
      ChildrenOrdered (children.foldl
        (fun sorted entry => insertEntry entry.1 entry.2 sorted) sorted) := by
    induction children generalizing sorted with
    | nil => exact sortedOrdered
    | cons entry rest ih =>
        obtain ⟨entryOrdered, restOrdered⟩ := ordered
        refine ih restOrdered _ (childrenOrdered_iff.mpr fun other member => ?_)
        rcases mem_insertEntry member with rfl | member
        · exact entryOrdered
        · exact childrenOrdered_iff.mp sortedOrdered other member
  exact kept [] trivial

theorem ordered_ofParts {parts : Parts}
    (children : ∀ children, parts.children = some children →
      AscendingEntries children ∧ ChildrenOrdered children) : (ofParts parts).Ordered := by
  obtain ⟨properties, _ | given⟩ := parts
  · exact ⟨.nil, trivial⟩
  · exact children given rfl

mutual

/-- What data describe is ordered. -/
theorem ordered_of_ofData? : (data : Data) → ∀ {tree}, ofData? data = some tree → tree.Ordered
  | .record entries, tree, read => by
      obtain ⟨parts, found, rfl⟩ := Option.map_eq_some_iff.mp read
      exact ordered_ofParts (ordered_of_partsOfEntries? entries found)
  | .list [], tree, read => by
      obtain rfl := Option.some.inj read
      exact ⟨.nil, trivial⟩
  | .list [_], tree, read => by
      obtain ⟨properties, _, rfl⟩ := Option.map_eq_some_iff.mp read
      exact ⟨.nil, trivial⟩
  | .list [_, data], tree, read => by
      obtain ⟨properties, _, read⟩ := Option.bind_eq_some_iff.mp read
      obtain ⟨children, found, read⟩ := Option.bind_eq_some_iff.mp read
      obtain rfl := Option.some.inj read
      exact ordered_of_childrenOfData? data found

theorem ordered_of_partsOfEntries? : (entries : List (String × Data)) → ∀ {parts},
    partsOfEntries? entries = some parts → ∀ children, parts.children = some children →
      AscendingEntries children ∧ ChildrenOrdered children
  | [], parts, read => by
      obtain rfl := Option.some.inj read
      exact fun _ absent => by cases absent
  | (key, data) :: rest, parts, read => by
      obtain ⟨before, found, read⟩ := Option.bind_eq_some_iff.mp read
      have beforeOrdered := ordered_of_partsOfEntries? rest found
      split at read
      · obtain ⟨properties, _, read⟩ := Option.bind_eq_some_iff.mp read
        split at read
        · cases read
        · obtain rfl := Option.some.inj read
          exact beforeOrdered
      · split at read
        · obtain ⟨given, givenRead, read⟩ := Option.bind_eq_some_iff.mp read
          split at read
          · cases read
          · obtain rfl := Option.some.inj read
            rintro children same
            obtain rfl := Option.some.inj same
            exact ordered_of_childrenOfData? data givenRead
        · obtain rfl := Option.some.inj read
          exact beforeOrdered

theorem ordered_of_childrenOfData? : (data : Data) → ∀ {children},
    childrenOfData? data = some children → AscendingEntries children ∧ ChildrenOrdered children
  | .record entries, children, read => by
      obtain ⟨given, found, rfl⟩ := Option.map_eq_some_iff.mp read
      exact ⟨ascending_sortEntries given,
        childrenOrdered_sortEntries (ordered_of_childrenOfEntries? entries found)⟩

theorem ordered_of_childrenOfEntries? : (entries : List (String × Data)) → ∀ {children},
    childrenOfEntries? entries = some children → ChildrenOrdered children
  | [], children, read => by
      obtain rfl := Option.some.inj read
      trivial
  | (name, data) :: rest, children, read => by
      obtain ⟨child, childRead, read⟩ := Option.bind_eq_some_iff.mp read
      obtain ⟨others, othersRead, read⟩ := Option.bind_eq_some_iff.mp read
      obtain rfl := Option.some.inj read
      exact ⟨ordered_of_ofData? data childRead, ordered_of_childrenOfEntries? rest othersRead⟩

end

theorem ordered_of_ofJson? {text : String} {tree : ContentNode} (read : ofJson? text = some tree) :
    tree.Ordered := by
  obtain ⟨data, _, read⟩ := Option.bind_eq_some_iff.mp read
  exact ordered_of_ofData? data read

mutual

/-- There are as many nodes as are counted. -/
theorem length_nodes : (tree : ContentNode) → tree.nodes.length = tree.nodeCount
  | node properties children => by
      rw [nodes, List.length_cons, length_nodesUnder children, nodeCount, Nat.add_comm]

theorem length_nodesUnder : (children : List (String × ContentNode)) →
    (nodesUnder children).length = nodeCounts children
  | [] => rfl
  | (name, child) :: rest => by
      rw [nodesUnder, List.length_append, List.length_map, length_nodes child,
        length_nodesUnder rest, nodeCounts]

end

theorem mem_nodesUnder_iff {children : List (String × ContentNode)} {address : List String}
    {found : ContentNode} :
    (address, found) ∈ nodesUnder children ↔
      ∃ name child rest, (name, child) ∈ children ∧ address = name :: rest ∧
        (rest, found) ∈ child.nodes := by
  induction children with
  | nil => simp [nodesUnder]
  | cons entry others ih =>
      obtain ⟨name, child⟩ := entry
      rw [nodesUnder, List.mem_append, ih, List.mem_map]
      constructor
      · rintro (⟨⟨rest, other⟩, member, same⟩ | ⟨other, otherChild, rest, member, same⟩)
        · obtain ⟨rfl, rfl⟩ := Prod.mk.inj same
          exact ⟨name, child, rest, List.mem_cons_self, rfl, member⟩
        · exact ⟨other, otherChild, rest, List.mem_cons_of_mem _ member, same⟩
      · rintro ⟨other, otherChild, rest, member, rfl, found⟩
        rcases List.mem_cons.mp member with same | member
        · obtain ⟨rfl, rfl⟩ := Prod.mk.inj same
          exact Or.inl ⟨(rest, _), found, rfl⟩
        · exact Or.inr ⟨other, otherChild, rest, member, rfl, found⟩

/-- In an ordered tree the nodes are those that are found at their addresses. -/
theorem mem_nodes_iff {tree : ContentNode} (ordered : tree.Ordered) {address : List String}
    {found : ContentNode} : (address, found) ∈ tree.nodes ↔ tree.at? address = some found := by
  induction address generalizing tree with
  | nil =>
      obtain ⟨properties, children⟩ := tree
      simp [nodes, at?, mem_nodesUnder_iff, eq_comm]
  | cons name rest ih =>
      obtain ⟨properties, children⟩ := tree
      obtain ⟨ascending, childrenOrdered⟩ := ordered
      have childOrdered := childrenOrdered_iff.mp childrenOrdered
      rw [nodes, List.mem_cons, mem_nodesUnder_iff, at?, Option.bind_eq_some_iff]
      constructor
      · rintro (root | ⟨_, child, _, member, same, below⟩)
        · cases root
        · obtain ⟨rfl, rfl⟩ := List.cons.inj same
          exact ⟨child, (lookupEntry_eq_some_iff ascending).mpr member,
            (ih (childOrdered _ member)).mp below⟩
      · rintro ⟨child, looked, below⟩
        have member := mem_of_lookupEntry looked
        exact Or.inr ⟨name, child, rest, member, rfl, (ih (childOrdered _ member)).mpr below⟩

mutual

/-- In an ordered tree no address is that of two nodes. -/
theorem nodup_addresses : (tree : ContentNode) → tree.Ordered →
    (tree.nodes.map Prod.fst).Nodup
  | node properties children, ordered => by
      rw [nodes, List.map_cons, List.nodup_cons]
      refine ⟨fun member => ?_, nodup_addressesUnder children ordered.1 ordered.2⟩
      obtain ⟨⟨_, found⟩, member, rfl⟩ := List.mem_map.mp member
      obtain ⟨_, _, _, _, absurd, _⟩ := mem_nodesUnder_iff.mp member
      cases absurd

theorem nodup_addressesUnder : (children : List (String × ContentNode)) →
    AscendingEntries children → ChildrenOrdered children →
      ((nodesUnder children).map Prod.fst).Nodup
  | [], _, _ => List.nodup_nil
  | (name, child) :: rest, ascending, ordered => by
      obtain ⟨above, restAscending⟩ := List.pairwise_cons.mp ascending
      rw [nodesUnder, List.map_append, List.nodup_append, List.map_map]
      refine ⟨?_, nodup_addressesUnder rest restAscending ordered.2, ?_⟩
      · have addresses : Prod.fst ∘ (fun entry : List String × ContentNode =>
            (name :: entry.1, entry.2)) = List.cons name ∘ Prod.fst := rfl
        rw [addresses, ← List.map_map]
        exact (nodup_addresses child ordered.1).map (List.cons_injective)
      · intro address member other otherMember same
        obtain ⟨entry, _, rfl⟩ := List.mem_map.mp member
        obtain ⟨⟨_, found⟩, below, rfl⟩ := List.mem_map.mp otherMember
        obtain ⟨otherName, otherChild, _, listed, split, _⟩ := mem_nodesUnder_iff.mp below
        have before := above (otherName, otherChild) listed
        obtain ⟨rfl, _⟩ := List.cons.inj (same.trans split)
        exact String.lt_irrefl _ before

end

/-- The document of a node at an address. -/
def documentOf (entry : List String × ContentNode) : Document :=
  ⟨pathAlong entry.1, entry.2.fields⟩

mutual

/-- Without a tree before, a walk stages the documents of all nodes. -/
theorem changesAt_none (above : List String) : (tree : ContentNode) →
    changesAt (pathAlong above) none tree =
      tree.nodes.map fun entry => .upsert (documentOf (above ++ entry.1, entry.2))
  | node properties children => by
      rw [changesAt, changesBelow_none above children, nodes, List.map_cons, List.append_nil]
      rfl

theorem changesBelow_none (above : List String) : (children : List (String × ContentNode)) →
    changesBelow (pathAlong above) none children =
      (nodesUnder children).map fun entry => .upsert (documentOf (above ++ entry.1, entry.2))
  | [] => rfl
  | (name, child) :: rest => by
      rw [changesBelow, ← pathAlong_concat, Option.bind_none,
        changesAt_none (above ++ [name]) child, changesBelow_none above rest, nodesUnder,
        List.map_append, List.map_map]
      simp only [Function.comp_def, List.append_assoc, List.singleton_append]

end

/-- Indexing a tree stages the documents of all nodes, and nothing else. -/
theorem indexTree_eq (writer : Writer) (tree : ContentNode) :
    indexTree writer tree =
      .ok ⟨⟨writer.pending ++ (tree.nodes.map documentOf).map .upsert⟩,
        ⟨tree.nodeCount, tree.nodeCount, 0⟩⟩ := by
  have staged : Frame.changesFrom ⟨"/", none, tree⟩ = (tree.nodes.map documentOf).map .upsert := by
    rw [List.map_map]
    exact changesAt_none [] tree
  have absolute : ∀ frame ∈ [(⟨"/", none, tree⟩ : Frame)], isAbsolute frame.path = true :=
    List.forall_mem_singleton.mpr (by simp [isAbsolute])
  have upserted : ((tree.nodes.map documentOf).map Change.upsert).countP Change.isUpsert =
      tree.nodeCount := by
    rw [List.countP_map, ← length_nodes, ← List.length_map documentOf]
    exact congrFun List.countP_true _
  have deleted : ((tree.nodes.map documentOf).map Change.upsert).countP
      (fun change => !change.isUpsert) = 0 := by
    rw [List.countP_map]
    exact congrFun List.countP_false _
  rw [indexTree, walk_eq absolute, List.flatMap_singleton, staged]
  simp only [Staged.add, Staged.start, DiffSummary.add, nodesBelow, upserted, deleted, Nat.zero_add,
    Nat.add_zero]

end ContentNode

end QuestionSearch.Content

namespace QuestionSearch

open QuestionSearch.Content QuestionSearch.Index

/-! ## Documents of an empty index -/

/-- A table has as many entries as there are different keys. -/
theorem Table.size_eq_length_dedup {α : Type} {table : Table α} {keys : List String}
    (bound : ∀ key, table.contains key = true ↔ key ∈ keys) :
    table.size = keys.dedup.length := by
  have same : table.keys.Perm keys.dedup := by
    refine (List.perm_ext_iff_of_nodup table.nodup_keys keys.nodup_dedup).mpr fun key => ?_
    rw [Table.mem_keys_iff, bound, List.mem_dedup]
  rw [← same.length_eq, Table.keys, List.length_map]
  rfl

/-- An empty index publishes one document for each path that was staged. -/
theorem Index.IndexState.size_commit_upserts {schema : IndexSchema} {documents : List Document} :
    (IndexState.empty.commit schema (documents.map .upsert)).2.size =
      (documents.map Document.path).dedup.length := by
  rw [← size_contents, contents_commit_upserts]
  exact Table.size_eq_length_dedup fun path => Change.contains_foldl_upsert

/-- Where no path is staged twice, every staged document is the last one at its path. -/
theorem getLast?_filter_of_nodup {documents : List Document}
    (nodup : (documents.map Document.path).Nodup) {document : Document}
    (member : document ∈ documents) :
    (documents.filter fun other => other.path = document.path).getLast? = some document := by
  -- Documents of one path are the same document, and no document stands twice.
  have alone : documents.filter (fun other => other.path = document.path) = [document] := by
    have same : documents.filter (fun other => other.path = document.path) =
        documents.filter (fun other => other = document) := by
      refine List.filter_congr fun other otherMember => decide_eq_decide.mpr ⟨?_, congrArg _⟩
      exact List.inj_on_of_nodup_map nodup otherMember member
    rw [same, List.filter_eq, (nodup.of_map _).count, if_pos member]
    rfl
  rw [alone]
  rfl

/-- Take a tree that is read from JSON. Its nodes are those found at their addresses, each once, and
as many as are counted. Indexing the tree and committing that to an empty index cannot fail. What is
staged are the documents of all nodes, with the fields of the node at the path made on the way to
it. Of nodes that share their path the last one is published, so there are as many documents as
nodes exactly if none share it. They do not if no name has a slash and no child of the root has the
empty name: then the path of a node is the names on the way to it after slashes, and each node has
its own document there. -/
theorem publish_nodes {text : String} {tree : ContentNode}
    (read : ContentNode.ofJson? text = some tree) (schema : IndexSchema) :
    let staged := tree.nodes.map ContentNode.documentOf
    (∀ address node, (address, node) ∈ tree.nodes ↔ tree.at? address = some node) ∧
    (tree.nodes.map Prod.fst).Nodup ∧ tree.nodes.length = tree.nodeCount ∧
    indexTree .fresh tree = .ok ⟨⟨staged.map .upsert⟩, ⟨tree.nodeCount, tree.nodeCount, 0⟩⟩ ∧
    ∃ index,
      Pipeline.publish (.ofSchema schema) (fun writer => indexTree writer tree) =
        .ok (⟨tree.nodeCount, tree.nodeCount, 0⟩, index) ∧
      (∀ path, index.published.get? path =
        (staged.filter fun document => document.path = path).getLast?) ∧
      (index.published.size = tree.nodeCount ↔ (staged.map Document.path).Nodup) ∧
      ((∀ address, (tree.at? address).isSome → IsPlain address) →
        index.published.size = tree.nodeCount ∧
        ∀ address node, tree.at? address = some node →
          index.published.get? (joinedPath address) = some ⟨joinedPath address, node.fields⟩) := by
  intro staged
  have ordered := ContentNode.ordered_of_ofJson? read
  have memNodes {address : List String} {node : ContentNode} :
      (address, node) ∈ tree.nodes ↔ tree.at? address = some node :=
    ContentNode.mem_nodes_iff ordered
  have length : (staged.map Document.path).length = tree.nodeCount := by
    rw [List.length_map, List.length_map, ContentNode.length_nodes]
  have indexed := ContentNode.indexTree_eq .fresh tree
  have published : Pipeline.publish (.ofSchema schema) (fun writer => indexTree writer tree) = _ :=
    Pipeline.publish_of_staged rfl rfl indexed
  have sizeIff : (IndexState.empty.commit schema (staged.map .upsert)).2.size = tree.nodeCount ↔
      (staged.map Document.path).Nodup := by
    rw [IndexState.size_commit_upserts, ← length]
    constructor
    · intro same
      rw [← (List.dedup_sublist _).eq_of_length same]
      exact List.nodup_dedup _
    · intro nodup
      rw [nodup.dedup]
  refine ⟨fun _ _ => memNodes, ContentNode.nodup_addresses tree ordered,
    ContentNode.length_nodes tree, indexed, _, published, IndexState.get?_commit_upserts, sizeIff,
    ?_⟩
  intro plain
  have plainMember {address : List String} {node : ContentNode}
      (member : (address, node) ∈ tree.nodes) : IsPlain address :=
    plain address (Option.isSome_iff_exists.mpr ⟨node, memNodes.mp member⟩)
  have nodup : (staged.map Document.path).Nodup := by
    have paths : staged.map Document.path = (tree.nodes.map Prod.fst).map pathAlong := by
      rw [List.map_map, List.map_map]
      rfl
    rw [paths]
    refine (ContentNode.nodup_addresses tree ordered).map_on fun address listed other otherListed =>
      ?_
    obtain ⟨entry, member, rfl⟩ := List.mem_map.mp listed
    obtain ⟨otherEntry, otherMember, rfl⟩ := List.mem_map.mp otherListed
    exact (plainMember member).pathAlong_inj (plainMember otherMember)
  refine ⟨sizeIff.mpr nodup, fun address node found => ?_⟩
  have member := memNodes.mpr found
  have last := getLast?_filter_of_nodup nodup (List.mem_map_of_mem member)
  rw [ContentNode.documentOf, (plainMember member).pathAlong_eq] at last
  exact (IndexState.get?_commit_upserts _).trans last

/-- The tree of a root with one child and another one below that. -/
def pagesJson : String := "[\x7b\x7d,\x7b\"a\":[\x7b\x7d,\x7b\"b\":[]\x7d]\x7d]"

/-- Each of the three nodes has its document. -/
theorem publish_nodes_pages : ∃ tree index, ContentNode.ofJson? pagesJson = some tree ∧
    (∀ address, (tree.at? address).isSome → IsPlain address) ∧
    Pipeline.publish (.ofSchema .default) (fun writer => indexTree writer tree) =
      .ok (⟨3, 3, 0⟩, index) ∧
    index.published.size = 3 ∧ (index.published.get? "/a/b").isSome := by
  have addresses : (ContentNode.ofJson? pagesJson).map (fun tree => tree.nodes.map Prod.fst) =
      some [[], ["a"], ["a", "b"]] := by decide +kernel
  obtain ⟨tree, read, addresses⟩ := Option.map_eq_some_iff.mp addresses
  obtain ⟨memNodes, _, length, _, index, published, _, _, documents⟩ := publish_nodes read .default
  have three : tree.nodeCount = 3 := by rw [← length, ← List.length_map Prod.fst, addresses]; rfl
  have plain (address : List String) (found : (tree.at? address).isSome) : IsPlain address := by
    obtain ⟨node, found⟩ := Option.isSome_iff_exists.mp found
    have listed : address ∈ tree.nodes.map Prod.fst :=
      List.mem_map_of_mem ((memNodes address node).mpr found)
    rw [addresses] at listed
    have all : ∀ address ∈ [[], ["a"], ["a", "b"]],
        (∀ name ∈ address, '/' ∉ name.toList) ∧ address.head? ≠ some "" := by decide
    exact ⟨(all address listed).1, (all address listed).2⟩
  have below : ["a", "b"] ∈ tree.nodes.map Prod.fst := by simp [addresses]
  obtain ⟨⟨address, node⟩, member, rfl⟩ := List.mem_map.mp below
  obtain ⟨size, held⟩ := documents plain
  rw [three] at published size
  refine ⟨tree, index, read, plain, published, size, ?_⟩
  rw [show "/a/b" = joinedPath ["a", "b"] by decide, held _ node ((memNodes _ node).mp member)]
  rfl

/-- The tree of a root with a child that has the empty name. -/
def unnamedJson : String := "\x7b\"children\":\x7b\"\":\x7b\x7d\x7d\x7d"

/-- The tree of a node below a child and another child that is named like the way to it. -/
def slashedJson : String :=
  "\x7b\"children\":\x7b\"a\":[\x7b\x7d,\x7b\"b\":\x7b\x7d\x7d],\"a/b\":\x7b\x7d\x7d\x7d"

/-- How many nodes are counted in a tree that is read from JSON, and how many documents indexing it
gives. -/
def nodesAndDocuments? (text : String) : Option (Nat × Nat) := do
  let tree ← ContentNode.ofJson? text
  let (_, index) ←
    (Pipeline.publish (.ofSchema .default) fun writer => indexTree writer tree).toOption
  some (tree.nodeCount, index.published.size)

/-- A child without a name shares the path of the root, and a slash in a name makes up for a node on
the way. In both trees two nodes share one document. -/
theorem shared_document :
    nodesAndDocuments? unnamedJson = some (2, 1) ∧ pathAlong [""] = pathAlong [] ∧
      nodesAndDocuments? slashedJson = some (4, 3) ∧ pathAlong ["a/b"] = pathAlong ["a", "b"] := by
  decide +kernel

end QuestionSearch
