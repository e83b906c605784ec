import QuestionSearch.Proofs.Content.Trees

/-!
# Documents of nodes

What the documents of an index say about a content tree, by the addresses of its nodes, and what a
staged change does to that: a document changes at its own address only, and a removed subtree goes
with exactly the addresses that begin with its own.
-/

namespace QuestionSearch.Content

open QuestionSearch.Index QuestionSearch.Json

/-- Whether a document has the fields of a node, or of one whose properties are equal. -/
def Describes (document : Document) (content : ContentNode) : Prop :=
  ∃ properties, Value.equalsEntries properties content.properties = true ∧
    document.fields = (ContentNode.node properties []).fields

/-- The document at the path of an address. -/
def documentAt (documents : Table IndexedDocument) (address : List String) : Option Document :=
  (documents.get? (joinedPath address)).map IndexedDocument.document

/-- Whether the documents at and below an address are those of a node, or there is no node and no
document. -/
def Shows (documents : Table IndexedDocument) (address : List String)
    (content : Option ContentNode) : Prop :=
  ∀ below, IsAddress below →
    Option.Rel Describes (documentAt documents (address ++ below))
      (content.bind fun content => content.at? below)

/-- Whether all documents stand under their own paths, which are those of addresses. -/
def Keyed (documents : Table IndexedDocument) : Prop :=
  ∀ path indexed, documents.get? path = some indexed →
    indexed.document.path = path ∧ ∃ address, IsAddress address ∧ path = joinedPath address

theorem describes_self {path : String} {content : ContentNode} (wellFormed : content.WellFormed) :
    Describes ⟨path, content.fields⟩ content :=
  ⟨content.properties, Value.equalsEntries_self wellFormed.properties, rfl⟩

theorem Describes.trans {document : Document} {before after : ContentNode}
    (describes : Describes document before)
    (same : Value.equalsEntries before.properties after.properties = true) :
    Describes document after := by
  obtain ⟨properties, equal, fields⟩ := describes
  exact ⟨properties, Value.equalsEntries_trans equal same, fields⟩

section Changes

variable {schema : IndexSchema} {batch : Batch} {address query : List String}

theorem documentAt_upsert (named : IsAddress address) (queried : IsAddress query)
    (fields : Table String) :
    documentAt (batch.apply schema (.upsert ⟨joinedPath address, fields⟩)).documents query =
      if query = address then some ⟨joinedPath address, fields⟩
      else documentAt batch.documents query := by
  simp only [documentAt, Batch.apply, Table.get?_insert]
  by_cases same : query = address
  · simp [same]
  · have different : joinedPath query ≠ joinedPath address := mt (joinedPath_inj queried named) same
    simp [same, different]

theorem documentAt_deleteSubtree (named : IsAddress address) (queried : IsAddress query) :
    documentAt (batch.apply schema (.deleteSubtree (joinedPath address))).documents query =
      if address <+: query then none else documentAt batch.documents query := by
  simp only [documentAt, Batch.apply, Table.get?_filterKeys]
  by_cases within : address <+: query
  · simp [within, (isWithin_joinedPath_iff queried named).mpr within]
  · have outside : isWithin (joinedPath query) (joinedPath address) = false := by
      rw [Bool.eq_false_iff]
      exact mt (isWithin_joinedPath_iff queried named).mp within
    simp [within, outside]

theorem keyed_upsert (keyed : Keyed batch.documents) (named : IsAddress address)
    (fields : Table String) :
    Keyed (batch.apply schema (.upsert ⟨joinedPath address, fields⟩)).documents := by
  intro path indexed found
  simp only [Batch.apply, Table.get?_insert] at found
  split at found
  · rename_i same
    obtain rfl := Option.some.inj found
    exact ⟨same.symm, address, named, same⟩
  · exact keyed path indexed found

theorem keyed_deleteSubtree (keyed : Keyed batch.documents) (root : String) :
    Keyed (batch.apply schema (.deleteSubtree root)).documents := by
  intro path indexed found
  simp only [Batch.apply, Table.get?_filterKeys] at found
  split at found
  · exact keyed path indexed found
  · cases found

/-- Removing several subtrees removes what lies in one of them. -/
theorem documentAt_removals {roots : List (List String)}
    (named : ∀ root ∈ roots, IsAddress root) (queried : IsAddress query) :
    documentAt ((roots.map fun root => Change.deleteSubtree (joinedPath root)).foldl
        (Batch.apply schema) batch).documents query =
      if ∃ root ∈ roots, root <+: query then none else documentAt batch.documents query := by
  induction roots generalizing batch with
  | nil => simp
  | cons root rest ih =>
      obtain ⟨rootNamed, restNamed⟩ := List.forall_mem_cons.mp named
      rw [List.map_cons, List.foldl_cons, ih restNamed,
        documentAt_deleteSubtree rootNamed queried]
      by_cases within : root <+: query
      · simp [within]
      · simp [within]

theorem keyed_removals (keyed : Keyed batch.documents) (roots : List (List String)) :
    Keyed ((roots.map fun root => Change.deleteSubtree (joinedPath root)).foldl
      (Batch.apply schema) batch).documents := by
  induction roots generalizing batch with
  | nil => exact keyed
  | cons root rest ih => exact ih (keyed_deleteSubtree keyed _)

end Changes

end QuestionSearch.Content
