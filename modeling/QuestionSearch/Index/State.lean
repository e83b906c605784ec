import QuestionSearch.Index.Schema

/-!
# Published states

An index publishes one state after the other. Each has a generation and holds the committed
documents with their terms. Staged changes are applied to a state all at once and give the next
generation.
-/

namespace QuestionSearch.Index

/-- A committed document with its terms. -/
structure IndexedDocument where
  /-- The document. -/
  document : Document
  /-- Its terms by field. -/
  terms : Table FieldTerms
deriving DecidableEq

/-- A staged change. -/
inductive Change
  /-- A document takes its place, whatever was there. -/
  | upsert (document : Document)
  /-- The document at a path goes. -/
  | delete (path : String)
  /-- The documents at a path and below it go. -/
  | deleteSubtree (path : String)
deriving DecidableEq

/-- All documents of a generation. -/
structure Snapshot where
  /-- The generation. -/
  generation : Nat
  /-- The documents in the order of their paths. -/
  documents : List Document
deriving DecidableEq

/-- The numbers of a generation. -/
structure IndexStats where
  /-- How many documents there are. -/
  documents : Nat
  /-- The generation. -/
  generation : Nat
  /-- Whether anything was ever committed. -/
  committed : Bool
deriving DecidableEq, Repr

/-- One published state. -/
structure IndexState where
  /-- How many states were published before. -/
  generation : Nat
  /-- The committed documents by path. -/
  documents : Table IndexedDocument
  /-- The committed documents in the order of their paths. -/
  corpus : List Document
  /-- Whether anything was ever committed. -/
  committed : Bool
deriving DecidableEq

/-- What a commit did. -/
structure CommitInfo where
  /-- The generation that readers see from now on. -/
  generation : Nat
  /-- How many documents were put in place. -/
  upserted : Nat
  /-- How many documents went. -/
  deleted : Nat
deriving DecidableEq, Repr

/-- A text without the slashes at its end. -/
def trimSlashes (path : List Char) : List Char :=
  (path.reverse.dropWhile (· = '/')).reverse

/-- Whether a path is that of a root or lies below it. -/
def isWithin (path root : String) : Bool :=
  root = "/" ||
    let trimmed := trimSlashes root.toList
    path.toList = trimmed || (trimmed ++ ['/']).isPrefixOf path.toList

namespace IndexState

/-- The state before all commits. -/
def empty : IndexState := ⟨0, Table.empty, [], false⟩

/-- The number of committed documents. -/
def size (state : IndexState) : Nat := state.documents.size

/-- Whether no document is committed. -/
def isEmpty (state : IndexState) : Bool := state.documents.entries.isEmpty

/-- The committed document at a path. -/
def get? (state : IndexState) (path : String) : Option Document :=
  (state.documents.get? path).map IndexedDocument.document

/-- All committed documents. -/
def snapshot (state : IndexState) : Snapshot := ⟨state.generation, state.corpus⟩

/-- The numbers of the state. -/
def stats (state : IndexState) : IndexStats :=
  ⟨state.size, state.generation, state.committed⟩

end IndexState

/-- Documents to which changes are being applied, with what was done so far. -/
structure Batch where
  /-- The documents by path. -/
  documents : Table IndexedDocument
  /-- How many documents were put in place. -/
  upserted : Nat
  /-- How many documents went. -/
  deleted : Nat

/-- Applies a change. -/
def Batch.apply (schema : IndexSchema) (batch : Batch) (change : Change) : Batch :=
  match change with
  | .upsert document =>
    { batch with
      documents := batch.documents.insert document.path ⟨document, schema.terms document⟩
      upserted := batch.upserted + 1 }
  | .delete path =>
    if batch.documents.contains path then
      { batch with documents := batch.documents.erase path, deleted := batch.deleted + 1 }
    else batch
  | .deleteSubtree path =>
    let kept := batch.documents.filterKeys fun candidate => !isWithin candidate path
    { batch with
      documents := kept
      deleted := batch.deleted + (batch.documents.size - kept.size) }

/-- The next state after some changes, and what they did. Without changes the state stays. -/
def IndexState.commit (schema : IndexSchema) (state : IndexState) (changes : List Change) :
    CommitInfo × IndexState :=
  if changes.isEmpty then (⟨state.generation, 0, 0⟩, state)
  else
    let batch := changes.foldl (Batch.apply schema) ⟨state.documents, 0, 0⟩
    (⟨state.generation + 1, batch.upserted, batch.deleted⟩,
      { generation := state.generation + 1
        documents := batch.documents
        corpus := batch.documents.values.map IndexedDocument.document
        committed := true })

end QuestionSearch.Index
