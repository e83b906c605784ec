import QuestionSearch.Content.Diff
import QuestionSearch.Proofs.Index.Contents

/-!
# Walks as recursions

A walk keeps a stack, but what it stages is given by a recursion on the tree: what the visit of a
node stages, and then what its children give in order (`changesAt`). As all paths on the way start
at the root, no visit fails (`visit_eq`), and neither does a walk (`walk_eq`). Its summary counts
the nodes and the staged changes.
-/

namespace QuestionSearch.Content

open QuestionSearch.Index

/-- The path of a child starts at the root if that of its parent does. -/
theorem isAbsolute_childPath {parent : String} (absolute : isAbsolute parent = true)
    (name : String) : isAbsolute (childPath parent name) = true := by
  rw [childPath]
  split
  · simp [isAbsolute]
  · have start : parent.toList.head? = some '/' := by simpa [isAbsolute] using absolute
    simp [isAbsolute, List.head?_append, start]

/-- Counts some more visited nodes and staged changes. -/
def DiffSummary.add (summary : DiffSummary) (visited : Nat) (changes : List Change) :
    DiffSummary where
  visited := summary.visited + visited
  upserted := summary.upserted + changes.countP Change.isUpsert
  deleted := summary.deleted + changes.countP fun change => !change.isUpsert

theorem DiffSummary.add_append (summary : DiffSummary) (visited more : Nat)
    (changes later : List Change) :
    (summary.add visited changes).add more later =
      summary.add (visited + more) (changes ++ later) := by
  simp [add, Nat.add_assoc]

/-- Stages several changes and counts them, with some visited nodes. -/
def Staged.add (staged : Staged) (visited : Nat) (changes : List Change) : Staged :=
  ⟨⟨staged.writer.pending ++ changes⟩, staged.summary.add visited changes⟩

theorem Staged.add_append (staged : Staged) (visited more : Nat) (changes later : List Change) :
    (staged.add visited changes).add more later =
      staged.add (visited + more) (changes ++ later) := by
  simp [add, DiffSummary.add_append]

namespace Frame

/-- The removals that a visit stages. -/
def removals (frame : Frame) : List Change :=
  frame.vanished.map fun name => .deleteSubtree (childPath frame.path name)

/-- What a visit stages. -/
def changes (frame : Frame) : List Change :=
  frame.removals ++ if frame.isChanged then [.upsert frame.document] else []

variable {frame : Frame}

theorem stageRemoval_eq (absolute : isAbsolute frame.path = true) (staged : Staged)
    (name : String) :
    frame.stageRemoval staged name =
      .ok (staged.add 0 [.deleteSubtree (childPath frame.path name)]) := by
  simp [stageRemoval, Writer.deleteSubtree, isAbsolute_childPath absolute name, Writer.stage,
    Staged.add, DiffSummary.add, Change.isUpsert, bind, Except.bind]

theorem foldlM_stageRemoval_eq (absolute : isAbsolute frame.path = true) (names : List String)
    (staged : Staged) :
    names.foldlM frame.stageRemoval staged =
      .ok (staged.add 0 (names.map fun name => .deleteSubtree (childPath frame.path name))) := by
  induction names generalizing staged with
  | nil => simp [Staged.add, DiffSummary.add, pure, Except.pure]
  | cons name rest ih =>
      rw [List.foldlM_cons, stageRemoval_eq absolute]
      refine (ih _).trans ?_
      rw [Staged.add_append]
      rfl

/-- A visit at a path from the root does not fail. -/
theorem visit_eq (absolute : isAbsolute frame.path = true) (staged : Staged) :
    frame.visit staged = .ok (staged.add 1 frame.changes) := by
  rw [visit, foldlM_stageRemoval_eq absolute, changes]
  cases frame.isChanged with
  | false => simp [Staged.add, DiffSummary.add, removals, bind, Except.bind]
  | true =>
      have upserts : frame.document.path = frame.path := rfl
      simp [Staged.add, DiffSummary.add, removals, Writer.upsert, Writer.stage, upserts, absolute,
        Change.isUpsert, bind, Except.bind, Nat.add_assoc, List.countP_append]

end Frame

/-! ## Whole trees -/

mutual

/-- What a walk stages for a node and all below it, given the node at its path before. -/
def changesAt (path : String) (before : Option ContentNode) : ContentNode → List Change
  | .node properties children =>
    (⟨path, before, .node properties children⟩ : Frame).changes ++
      changesBelow path before children

/-- What a walk stages for some children of a node and all below them. -/
def changesBelow (path : String) (before : Option ContentNode) :
    List (String × ContentNode) → List Change
  | [] => []
  | (name, child) :: rest =>
    changesAt (childPath path name)
        (before.bind fun before => lookupEntry name before.children) child ++
      changesBelow path before rest

end

/-- What a walk stages for a frame. -/
def Frame.changesFrom (frame : Frame) : List Change := changesAt frame.path frame.before frame.after

theorem Frame.changesFrom_eq (frame : Frame) :
    frame.changesFrom = frame.changes ++ frame.children.flatMap Frame.changesFrom := by
  obtain ⟨path, before, properties, children⟩ := frame
  rw [Frame.changesFrom, changesAt]
  congr 1
  rw [Frame.children, ContentNode.children]
  induction children with
  | nil => rfl
  | cons child rest ih =>
      rw [changesBelow, List.map_cons, List.flatMap_cons, ih]
      rfl

/-- A walk over frames at paths from the root does not fail. It visits every node and stages what
the recursion gives. -/
theorem walk_eq {frames : List Frame} (absolute : ∀ frame ∈ frames, isAbsolute frame.path = true)
    (staged : Staged) :
    walk frames staged =
      .ok (staged.add (nodesBelow frames) (frames.flatMap Frame.changesFrom)) := by
  fun_induction walk frames staged with
  | case1 staged => simp [Staged.add, DiffSummary.add, nodesBelow]
  | case2 staged frame rest ih =>
      obtain ⟨frameAbsolute, restAbsolute⟩ := List.forall_mem_cons.mp absolute
      have childrenAbsolute : ∀ child ∈ frame.children, isAbsolute child.path = true := by
        intro child member
        obtain ⟨entry, _, rfl⟩ := List.mem_map.mp member
        exact isAbsolute_childPath frameAbsolute entry.1
      have below := nodesBelow_children frame
      rw [Frame.visit_eq frameAbsolute]
      refine (ih _ (List.forall_mem_append.mpr ⟨childrenAbsolute, restAbsolute⟩)).trans ?_
      rw [Staged.add_append, List.flatMap_append, List.flatMap_cons, frame.changesFrom_eq,
        List.append_assoc, nodesBelow_append, nodesBelow, ← below, Nat.add_assoc]

end QuestionSearch.Content
