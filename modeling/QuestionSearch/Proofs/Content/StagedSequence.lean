import QuestionSearch.Proofs.Content.NodePaths

/-!
# The sequence that a walk stages

From the root a walk cannot fail, whatever the names of the nodes are and whatever is staged already
(`stageTree_eq`). It adds what the recursion on the tree gives: at each node the children that are
gone in the order of their names, the node itself if it is new or changed, and then its children in
the order of their names (`changesAt_eq`). The numbers of the summary are those of the nodes, in
whatever order they are counted (`countStacked_eq`), and of the staged changes.
-/

namespace QuestionSearch.Content

open QuestionSearch.Index QuestionSearch.Json

namespace ContentNode

/-- The child of a name. -/
def child? (content : ContentNode) (name : String) : Option ContentNode :=
  lookupEntry name content.children

theorem Ordered.ascending {content : ContentNode} (ordered : content.Ordered) :
    AscendingEntries content.children := by
  cases content
  exact ordered.1

theorem Ordered.pairwise_names {content : ContentNode} (ordered : content.Ordered) :
    (content.children.map Prod.fst).Pairwise (· < ·) :=
  List.pairwise_map.mpr ordered.ascending

theorem nodeCounts_eq_sum (children : List (String × ContentNode)) :
    nodeCounts children = (children.map fun child => child.2.nodeCount).sum := by
  induction children with
  | nil => rfl
  | cons child rest ih => rw [nodeCounts, ih, List.map_cons, List.sum_cons]

theorem nodeCount_eq (content : ContentNode) :
    content.nodeCount = 1 + (content.children.map fun child => child.2.nodeCount).sum := by
  cases content
  rw [nodeCount, nodeCounts_eq_sum, children]

/-- Counts the nodes at and below those on a stack. The first one is taken off, and its children are
put on one by one, so that the last of them is taken next. -/
def countStacked : List ContentNode → Nat
  | [] => 0
  | content :: rest => 1 + countStacked (content.children.reverse.map Prod.snd ++ rest)
termination_by stack => (stack.map nodeCount).sum
decreasing_by
  rw [List.map_cons, List.sum_cons, nodeCount_eq]
  simp only [List.map_append, List.map_map, List.map_reverse, List.sum_append, List.sum_reverse,
    Function.comp_def]
  omega

/-- The order in which nodes are counted does not matter. -/
theorem countStacked_eq (stack : List ContentNode) :
    countStacked stack = (stack.map nodeCount).sum := by
  fun_induction countStacked stack with
  | case1 => rfl
  | case2 content rest ih =>
      rw [ih, List.map_cons, List.sum_cons, nodeCount_eq content]
      simp only [List.map_append, List.map_map, List.map_reverse, List.sum_append,
        List.sum_reverse, Function.comp_def]
      omega

end ContentNode

/-! ## One node -/

namespace Frame

variable {frame : Frame}

theorem mem_vanished_iff_child? {name : String} :
    name ∈ frame.vanished ↔
      ((frame.before.bind fun before => before.child? name).isSome = true ∧
        frame.after.child? name = none) := by
  rw [mem_vanished_iff]
  cases frame.before <;> simp [ContentNode.child?]

theorem pairwise_vanished (ordered : ∀ before ∈ frame.before, before.Ordered) :
    frame.vanished.Pairwise (· < ·) := by
  rw [vanished]
  cases known : frame.before with
  | none => exact .nil
  | some before => exact (ordered before known).pairwise_names.filter _

/-- A node is changed unless there was one with the same properties. -/
theorem isChanged_eq (frame : Frame) :
    frame.isChanged = !(frame.before.any fun old =>
      Value.equalsEntries old.properties frame.after.properties) := by
  rw [isChanged]
  cases frame.before <;> rfl

end Frame

/-- What the recursion stages at one node and below it. -/
theorem changesAt_eq (path : String) (before : Option ContentNode) (after : ContentNode) :
    changesAt path before after =
      (⟨path, before, after⟩ : Frame).vanished.map
          (fun name => Change.deleteSubtree (childPath path name)) ++
        (if before.any fun old => Value.equalsEntries old.properties after.properties then []
          else [.upsert ⟨path, after.fields⟩]) ++
        after.children.flatMap fun child =>
          changesAt (childPath path child.1) (before.bind fun old => old.child? child.1)
            child.2 := by
  have whole := Frame.changesFrom_eq ⟨path, before, after⟩
  rw [Frame.changes, Frame.removals, Frame.isChanged_eq, Frame.children, List.flatMap_map] at whole
  refine whole.trans ?_
  congr 2
  dsimp only
  cases before.any fun old => Value.equalsEntries old.properties after.properties <;> rfl

/-! ## Whole trees -/

/-- Stages the changes to a tree from the one before, if there was one. -/
def stageTree (writer : Writer) (before : Option ContentNode) (after : ContentNode) :
    Except StoreError Staged :=
  match before with
  | none => indexTree writer after
  | some old => applyDiff writer old after

/-- A walk from the root does not fail. It visits all nodes and stages what the recursion gives. -/
theorem stageTree_eq (writer : Writer) (before : Option ContentNode) (after : ContentNode) :
    stageTree writer before after =
      .ok ⟨⟨writer.pending ++ changesAt "/" before after⟩,
        ⟨after.nodeCount, (changesAt "/" before after).countP Change.isUpsert,
          (changesAt "/" before after).countP fun change => !change.isUpsert⟩⟩ := by
  have walked : stageTree writer before after = walk [⟨"/", before, after⟩] (.start writer) := by
    cases before <;> rfl
  have absolute : ∀ frame ∈ [(⟨"/", before, after⟩ : Frame)], isAbsolute frame.path = true :=
    List.forall_mem_singleton.mpr (by simp [isAbsolute])
  rw [walked, walk_eq absolute, List.flatMap_singleton]
  simp only [Staged.add, Staged.start, DiffSummary.add, nodesBelow, Frame.changesFrom,
    Nat.zero_add, Nat.add_zero]

/-- Whatever the names of the nodes are and whatever is staged already, comparing a tree with the
one before, or indexing it as new, does not fail, and it adds the sequence of the recursion to what
is staged. The recursion stages at each node the removal of the children that are gone in the order
of their names, then the node if it is new or its properties differ, and then what its children give
in the order of their names. The summary counts all nodes, which are as many when they are counted
from a stack, and the staged changes, by which the pending changes grow. A new tree is staged node
by node, and nothing is removed. -/
theorem walk_stages_recursion :
    (∀ (path : String) (before : Option ContentNode) (after : ContentNode),
      (∀ old ∈ before, old.Ordered) → after.Ordered → ∃ gone : List String,
        gone.Pairwise (· < ·) ∧ (after.children.map Prod.fst).Pairwise (· < ·) ∧
        (∀ name, name ∈ gone ↔
          (before.bind fun old => old.child? name).isSome = true ∧ after.child? name = none) ∧
        changesAt path before after =
          gone.map (fun name => Change.deleteSubtree (childPath path name)) ++
            (if before.any fun old => Value.equalsEntries old.properties after.properties then []
              else [.upsert ⟨path, after.fields⟩]) ++
            after.children.flatMap fun child =>
              changesAt (childPath path child.1) (before.bind fun old => old.child? child.1)
                child.2) ∧
    ∀ (writer : Writer) (before : Option ContentNode) (after : ContentNode), ∃ staged,
      stageTree writer before after = .ok staged ∧
      staged.writer.pending = writer.pending ++ changesAt "/" before after ∧
      staged.summary.visited = after.nodeCount ∧
      ContentNode.countStacked [after] = after.nodeCount ∧
      staged.summary.upserted = (changesAt "/" before after).countP Change.isUpsert ∧
      staged.summary.deleted =
        (changesAt "/" before after).countP (fun change => !change.isUpsert) ∧
      staged.writer.pendingCount =
        writer.pendingCount + staged.summary.upserted + staged.summary.deleted ∧
      (before = none →
        staged.summary.upserted = staged.summary.visited ∧ staged.summary.deleted = 0) := by
  refine ⟨fun path before after beforeOrdered afterOrdered => ?_, fun writer before after => ?_⟩
  · exact ⟨(⟨path, before, after⟩ : Frame).vanished, Frame.pairwise_vanished beforeOrdered,
      afterOrdered.pairwise_names, fun _ => Frame.mem_vanished_iff_child?,
      changesAt_eq path before after⟩
  · have staged := stageTree_eq writer before after
    refine ⟨_, staged, rfl, rfl, ?_, rfl, rfl, ?_, ?_⟩
    · rw [ContentNode.countStacked_eq, List.map_singleton, List.sum_singleton]
    · have counted := (changesAt "/" before after).length_eq_countP_add_countP Change.isUpsert
      simp only [Bool.not_eq_true, Bool.decide_eq_false] at counted
      rw [Writer.pendingCount, List.length_append, counted, Nat.add_assoc]
      rfl
    · rintro rfl
      have summary := congrArg Staged.summary
        (Except.ok.inj (staged.symm.trans (ContentNode.indexTree_eq writer after)))
      exact ⟨congrArg DiffSummary.upserted summary, congrArg DiffSummary.deleted summary⟩

/-- A tree with a child whose name has a slash in it. -/
def slashedTree : ContentNode :=
  .node [] [("a", .empty), ("b/c", .node [] [("d", .empty)])]

/-- A tree that lacks two nodes of the other one and has a child without a name. -/
def namelessTree : ContentNode :=
  .node [("t", .text "x")] [("", .node [] [("e", .empty)]), ("b/c", .empty)]

/-- The child without a name is staged at the path of the root. -/
theorem walk_stages_recursion_nameless :
    (∀ old ∈ some slashedTree, old.Ordered) ∧ namelessTree.Ordered ∧
      (∃ gone : List String, "a" ∈ gone ∧ "b/c" ∉ gone ∧
        changesAt "/" (some slashedTree) namelessTree =
          gone.map (fun name => Change.deleteSubtree (childPath "/" name)) ++
            [.upsert ⟨"/", namelessTree.fields⟩] ++
            namelessTree.children.flatMap fun child =>
              changesAt (childPath "/" child.1) (slashedTree.child? child.1) child.2) ∧
      ∃ staged, stageTree ⟨[.delete "/z"]⟩ (some slashedTree) namelessTree = .ok staged ∧
        staged.writer.pending =
          [.delete "/z", .deleteSubtree "/a", .upsert ⟨"/", .ofList [("t", "x")]⟩,
            .upsert ⟨"/", .empty⟩, .upsert ⟨"/e", .empty⟩, .deleteSubtree "/b/c/d"] ∧
        staged.summary.visited = 4 ∧ staged.summary.upserted = 3 ∧ staged.summary.deleted = 2 := by
  have beforeOrdered : ∀ old ∈ some slashedTree, old.Ordered := by
    rintro _ ⟨⟩
    refine ⟨List.pairwise_pair.mpr (by decide), ⟨.nil, trivial⟩, ?_, trivial⟩
    exact ⟨List.pairwise_singleton _ _, ⟨.nil, trivial⟩, trivial⟩
  have afterOrdered : namelessTree.Ordered := by
    refine ⟨List.pairwise_pair.mpr (by decide), ?_, ⟨.nil, trivial⟩, trivial⟩
    exact ⟨List.pairwise_singleton _ _, ⟨.nil, trivial⟩, trivial⟩
  obtain ⟨recursion, stages⟩ := walk_stages_recursion
  obtain ⟨gone, _, _, gone_iff, sequence⟩ :=
    recursion "/" (some slashedTree) namelessTree beforeOrdered afterOrdered
  obtain ⟨staged, found, pending, visited, _, upserted, deleted, _⟩ :=
    stages ⟨[.delete "/z"]⟩ (some slashedTree) namelessTree
  refine ⟨beforeOrdered, afterOrdered, ⟨gone, (gone_iff "a").mpr ⟨by decide, rfl⟩, ?_, sequence⟩,
    staged, found, pending.trans ?_, visited.trans rfl, upserted.trans ?_, deleted.trans ?_⟩
  · exact fun present => nomatch ((gone_iff "b/c").mp present).2
  all_goals decide +kernel

end QuestionSearch.Content
