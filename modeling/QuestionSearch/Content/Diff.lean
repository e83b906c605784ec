import QuestionSearch.Content.Node
import QuestionSearch.Index.Writer

/-!
# Indexing content trees

A content tree is compared with the one before it, and the changes that lead from one to the other
are staged. The walk keeps the nodes that are still to visit on a stack. It visits each node of the
new tree once: vanished children go with all below them, and a new or changed node is put in place.
-/

namespace QuestionSearch.Content

open QuestionSearch.Index QuestionSearch.Json

/-- What a walk staged. -/
structure DiffSummary where
  /-- How many nodes of the new tree there are. -/
  visited : Nat
  /-- How many documents were put in place. -/
  upserted : Nat
  /-- How many removals were staged. -/
  deleted : Nat
deriving DecidableEq, Repr

/-- A node to visit. -/
structure Frame where
  /-- Its path. -/
  path : String
  /-- The node at this path in the tree before, if there was one. -/
  before : Option ContentNode
  /-- The node. -/
  after : ContentNode

/-- Changes staged on a writer, and their counts. -/
structure Staged where
  /-- The writer. -/
  writer : Writer
  /-- What was staged. -/
  summary : DiffSummary

/-- The path of a child. -/
def childPath (parent name : String) : String :=
  if parent = "/" then "/" ++ name else parent ++ "/" ++ name

namespace Frame

/-- The frames of the children, in the order of their names. -/
def children (frame : Frame) : List Frame :=
  frame.after.children.map fun child =>
    { path := childPath frame.path child.1
      before := frame.before.bind fun before => lookupEntry child.1 before.children
      after := child.2 }

/-- The names of the children that are gone, in order. -/
def vanished (frame : Frame) : List String :=
  match frame.before with
  | none => []
  | some before =>
    (before.children.map Prod.fst).filter fun name =>
      (lookupEntry name frame.after.children).isNone

/-- Whether the node is new or its properties differ. -/
def isChanged (frame : Frame) : Bool :=
  match frame.before with
  | none => true
  | some before => !Value.equalsEntries before.properties frame.after.properties

/-- The document of the node. -/
def document (frame : Frame) : Document := ⟨frame.path, frame.after.fields⟩

/-- Stages the removal of a child that is gone. -/
def stageRemoval (frame : Frame) (staged : Staged) (name : String) : Except StoreError Staged := do
  let writer ← staged.writer.deleteSubtree (childPath frame.path name)
  .ok ⟨writer, { staged.summary with deleted := staged.summary.deleted + 1 }⟩

/-- Stages the changes of one node. -/
def visit (frame : Frame) (staged : Staged) : Except StoreError Staged := do
  let counted : Staged :=
    ⟨staged.writer, { staged.summary with visited := staged.summary.visited + 1 }⟩
  let staged ← frame.vanished.foldlM frame.stageRemoval counted
  if frame.isChanged then
    let writer ← staged.writer.upsert frame.document
    .ok ⟨writer, { staged.summary with upserted := staged.summary.upserted + 1 }⟩
  else .ok staged

end Frame

/-- The number of nodes at and below some frames. -/
def nodesBelow : List Frame → Nat
  | [] => 0
  | frame :: rest => frame.after.nodeCount + nodesBelow rest

theorem nodesBelow_append (left right : List Frame) :
    nodesBelow (left ++ right) = nodesBelow left + nodesBelow right := by
  induction left with
  | nil => simp [nodesBelow]
  | cons frame rest ih => simp [nodesBelow, ih, Nat.add_assoc]

/-- The frames of the children hold all nodes below a node, but not the node. -/
theorem nodesBelow_children (frame : Frame) :
    1 + nodesBelow frame.children = frame.after.nodeCount := by
  obtain ⟨path, before, properties, children⟩ := frame
  simp only [Frame.children, ContentNode.children, ContentNode.nodeCount]
  congr 1
  induction children with
  | nil => rfl
  | cons child rest ih => simp [nodesBelow, ContentNode.nodeCounts, ih]

/-- Visits the frames of a stack and all below them. -/
def walk (frames : List Frame) (staged : Staged) : Except StoreError Staged :=
  match frames with
  | [] => .ok staged
  | frame :: rest => do
    let staged ← frame.visit staged
    walk (frame.children ++ rest) staged
termination_by nodesBelow frames
decreasing_by
  have hchildren := nodesBelow_children frame
  rw [nodesBelow_append, nodesBelow]
  omega

/-- Nothing staged on a writer yet. -/
def Staged.start (writer : Writer) : Staged := ⟨writer, ⟨0, 0, 0⟩⟩

/-- Stages the changes that lead from one tree to another. -/
def applyDiff (writer : Writer) (before after : ContentNode) : Except StoreError Staged :=
  walk [⟨"/", some before, after⟩] (.start writer)

/-- Stages all nodes of a tree as new. -/
def indexTree (writer : Writer) (tree : ContentNode) : Except StoreError Staged :=
  walk [⟨"/", none, tree⟩] (.start writer)

end QuestionSearch.Content
