import QuestionSearch.Index.State

/-!
# Documents by path

What staged changes do to the documents of an index, whatever the terms of these are. A batch
applies them one after the other (`contents_commit`), and what it reports is what they do: the
number of documents that were put in place, and that of documents that really went
(`report_commit`). Together with the documents that are new at their path this balances the size
(`size_foldl_applyTo`). Of documents put in place at one path the last one stays
(`get?_commit_upserts`).
-/

namespace QuestionSearch.Index

namespace Change

/-- The path that a change is about. -/
def path : Change → String
  | upsert document => document.path
  | delete path => path
  | deleteSubtree path => path

/-- Whether a change puts a document in place. -/
def isUpsert : Change → Bool
  | upsert _ => true
  | delete _ => false
  | deleteSubtree _ => false

/-- The documents by path after a change. -/
def applyTo (contents : Table Document) : Change → Table Document
  | upsert document => contents.insert document.path document
  | delete path => contents.erase path
  | deleteSubtree path => contents.filterKeys fun candidate => !isWithin candidate path

/-- How many documents a change takes away: those of paths that are bound before and not after. -/
def removed (change : Change) (contents : Table Document) : Nat :=
  contents.keys.countP fun path => !(change.applyTo contents).contains path

/-- How many documents a change puts at a path that has none. -/
def added (change : Change) (contents : Table Document) : Nat :=
  if change.isUpsert && !contents.contains change.path then 1 else 0

/-- The sum of what some changes count, each in the documents that it finds. -/
def sumAlong (count : Change → Table Document → Nat) : Table Document → List Change → Nat
  | _, [] => 0
  | contents, change :: rest =>
    count change contents + sumAlong count (change.applyTo contents) rest

section Counts

variable {contents : Table Document}

theorem removed_upsert (document : Document) : (upsert document).removed contents = 0 := by
  refine List.countP_eq_zero.mpr fun path member => ?_
  have bound := Table.mem_keys_iff.mp member
  simp only [applyTo, Table.contains, Table.get?_insert] at bound ⊢
  split
  · simp
  · simp [bound]

theorem countP_not_contains_filterKeys (keeps : String → Bool) :
    (contents.keys.countP fun path => !(contents.filterKeys keeps).contains path) =
      contents.keys.countP fun path => !keeps path := by
  refine List.countP_congr fun path member => ?_
  rw [Table.contains_filterKeys, Table.mem_keys_iff.mp member, Bool.and_true]

theorem removed_delete (path : String) :
    (delete path).removed contents = if contents.contains path then 1 else 0 := by
  have counted : (delete path).removed contents = contents.keys.count path := by
    rw [removed, applyTo, Table.erase, countP_not_contains_filterKeys, List.count]
    exact List.countP_congr fun key _ => by simp
  rw [counted, contents.nodup_keys.count]
  simp only [Table.mem_keys_iff]

end Counts

/-- Of the documents before and after a change, all that went count as removed and all that are new
as added. -/
theorem size_applyTo (change : Change) (contents : Table Document) :
    (change.applyTo contents).size + change.removed contents =
      contents.size + change.added contents := by
  cases change with
  | upsert document =>
      rw [removed_upsert, applyTo, Table.size_insert, added]
      cases held : contents.contains document.path <;> simp [isUpsert, path, held]
  | delete path =>
      rw [removed, applyTo, Table.erase, countP_not_contains_filterKeys, Table.size_filterKeys]
      simp [added, isUpsert]
  | deleteSubtree path =>
      rw [removed, applyTo, countP_not_contains_filterKeys, Table.size_filterKeys]
      simp [added, isUpsert]

theorem size_foldl_applyTo (contents : Table Document) (changes : List Change) :
    (changes.foldl applyTo contents).size + sumAlong removed contents changes =
      contents.size + sumAlong added contents changes := by
  induction changes generalizing contents with
  | nil => rfl
  | cons change rest ih =>
      have step := change.size_applyTo contents
      have later := ih (change.applyTo contents)
      simp only [List.foldl_cons, sumAlong]
      omega

end Change

/-! ## Batches -/

namespace Batch

/-- The documents of a batch by path. -/
def contents (batch : Batch) : Table Document := batch.documents.map IndexedDocument.document

theorem size_contents (batch : Batch) : batch.contents.size = batch.documents.size :=
  Table.size_map _ _

theorem contents_apply (schema : IndexSchema) (batch : Batch) (change : Change) :
    (batch.apply schema change).contents = change.applyTo batch.contents := by
  cases change with
  | upsert document => exact Table.map_insert _ _ _ _
  | delete path =>
      rw [apply, Change.applyTo]
      split
      · exact Table.map_filterKeys _ _ _
      · rename_i unbound
        refine (Table.erase_eq_self ?_).symm
        rwa [contents, Table.contains_map, ← Bool.not_eq_true]
  | deleteSubtree path => exact Table.map_filterKeys _ _ _

theorem upserted_apply (schema : IndexSchema) (batch : Batch) (change : Change) :
    (batch.apply schema change).upserted =
      batch.upserted + if change.isUpsert then 1 else 0 := by
  cases change with
  | upsert document => rfl
  | delete path =>
      rw [apply]
      split <;> rfl
  | deleteSubtree path => rfl

theorem deleted_apply (schema : IndexSchema) (batch : Batch) (change : Change) :
    (batch.apply schema change).deleted = batch.deleted + change.removed batch.contents := by
  cases change with
  | upsert document =>
      rw [Change.removed_upsert]
      rfl
  | delete path =>
      rw [Change.removed_delete, contents, Table.contains_map, apply]
      split <;> rfl
  | deleteSubtree path =>
      -- The report is the difference of two sizes, which is what the balance of a change is about.
      have balance := (Change.deleteSubtree path).size_applyTo batch.contents
      rw [← contents_apply schema, size_contents, size_contents] at balance
      simp only [Change.added, Change.isUpsert, Bool.false_and, Bool.false_eq_true, if_false,
        apply] at balance ⊢
      omega

theorem contents_foldl_apply (schema : IndexSchema) (batch : Batch) (changes : List Change) :
    (changes.foldl (apply schema) batch).contents =
      changes.foldl Change.applyTo batch.contents := by
  induction changes generalizing batch with
  | nil => rfl
  | cons change rest ih => rw [List.foldl_cons, List.foldl_cons, ih, contents_apply]

theorem counts_foldl_apply (schema : IndexSchema) (batch : Batch) (changes : List Change) :
    (changes.foldl (apply schema) batch).upserted =
        batch.upserted + changes.countP Change.isUpsert ∧
      (changes.foldl (apply schema) batch).deleted =
        batch.deleted + Change.sumAlong Change.removed batch.contents changes := by
  induction changes generalizing batch with
  | nil => exact ⟨rfl, rfl⟩
  | cons change rest ih =>
      obtain ⟨upserted, deleted⟩ := ih (batch.apply schema change)
      rw [List.foldl_cons, upserted, deleted, upserted_apply, deleted_apply, contents_apply,
        List.countP_cons, Change.sumAlong]
      omega

end Batch

namespace IndexState

variable {schema : IndexSchema} {state : IndexState} {changes : List Change}

/-- The documents of a state by path. -/
def contents (state : IndexState) : Table Document :=
  state.documents.map IndexedDocument.document

theorem size_contents (state : IndexState) : state.contents.size = state.size :=
  Table.size_map _ _

theorem contents_commit :
    (state.commit schema changes).2.contents = changes.foldl Change.applyTo state.contents := by
  cases changes with
  | nil => rfl
  | cons change rest => exact Batch.contents_foldl_apply schema ⟨state.documents, 0, 0⟩ _

/-- A commit reports how many documents its changes put in place, and how many they took away. -/
theorem report_commit (schema : IndexSchema) (state : IndexState) (changes : List Change) :
    (state.commit schema changes).1.upserted = changes.countP Change.isUpsert ∧
      (state.commit schema changes).1.deleted =
        Change.sumAlong Change.removed state.contents changes := by
  cases changes with
  | nil => exact ⟨rfl, rfl⟩
  | cons change rest =>
      obtain ⟨upserted, deleted⟩ :=
        Batch.counts_foldl_apply schema ⟨state.documents, 0, 0⟩ (change :: rest)
      exact ⟨upserted.trans (Nat.zero_add _), deleted.trans (Nat.zero_add _)⟩

end IndexState

/-! ## Documents put in place -/

namespace Change

/-- Of several documents put in place one after the other, the last one at a path stays. -/
theorem get?_foldl_upsert (documents : List Document) (contents : Table Document)
    (path : String) :
    ((documents.map upsert).foldl applyTo contents).get? path =
      (documents.filter fun document => document.path = path).getLast?.or (contents.get? path) := by
  induction documents generalizing contents with
  | nil => rfl
  | cons document rest ih =>
      rw [List.map_cons, List.foldl_cons, ih, applyTo, Table.get?_insert, List.filter_cons]
      by_cases same : document.path = path
      · cases later : (rest.filter fun document => document.path = path).getLast? with
        | none => simp [same, later, List.getLast?_cons]
        | some last => simp [same, later, List.getLast?_cons]
      · simp [same, Ne.symm same]

/-- Exactly the paths of documents that were put in place are bound. -/
theorem contains_foldl_upsert {documents : List Document} {path : String} :
    ((documents.map upsert).foldl applyTo .empty).contains path = true ↔
      path ∈ documents.map Document.path := by
  rw [Table.contains, get?_foldl_upsert, Table.get?_empty, Option.or_none,
    List.getLast?_isSome, List.mem_map]
  simp [List.filter_eq_nil_iff]

end Change

namespace IndexState

variable {schema : IndexSchema} {documents : List Document}

theorem contents_commit_upserts :
    (empty.commit schema (documents.map .upsert)).2.contents =
      (documents.map Change.upsert).foldl Change.applyTo .empty :=
  contents_commit

/-- An empty index publishes the last document that was staged at a path. -/
theorem get?_commit_upserts (path : String) :
    (empty.commit schema (documents.map .upsert)).2.get? path =
      (documents.filter fun document => document.path = path).getLast? := by
  rw [get?, ← Table.get?_map]
  change (empty.commit schema (documents.map .upsert)).2.contents.get? path = _
  rw [contents_commit_upserts, Change.get?_foldl_upsert, Table.get?_empty, Option.or_none]

end IndexState

end QuestionSearch.Index
