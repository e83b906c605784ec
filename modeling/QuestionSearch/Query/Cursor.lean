import QuestionSearch.Call
import QuestionSearch.Decimal.Written
import QuestionSearch.Document

/-!
# Cursors

A cursor hands out ranked hits one after the other and never goes back. Asking past the end fails
and changes nothing.
-/

namespace QuestionSearch.Query

open QuestionSearch.Decimal

/-- A ranked match. -/
structure Hit (R : Type) where
  /-- The path of the document. -/
  path : String
  /-- How well it matches. -/
  score : R
  /-- The fields of the document. -/
  fields : Table String

namespace Hit

/-- A value of a hit by name: its score, its path, or one of its fields. -/
def value? (hit : Hit Single) (name : String) : Option String :=
  if name = scoreField then some (plain32 hit.score)
  else if name = pathField then some hit.path
  else hit.fields.get? name

/-- The hit for printing as JSON. -/
def toJson (hit : Hit Single) : Json.Written :=
  .record [("path", .text hit.path), ("score", .single hit.score), ("fields", hit.fields.toJson)]

end Hit

/-- Why a cursor hands out nothing. -/
inductive CursorError
  /-- All hits have been handed out. -/
  | outOfRange (position length : Nat)
deriving DecidableEq, Repr

/-- The text of a fault. -/
def CursorError.message : CursorError → String
  | .outOfRange position length =>
    "cursor position " ++ toString position ++ " out of range for " ++ toString length ++ " hits"

/-- How far a cursor is. -/
inductive CursorState
  /-- There are hits and none has been handed out. -/
  | notStarted
  /-- Some hits have been handed out but not all. -/
  | iterating
  /-- No hit is left. -/
  | exhausted
deriving DecidableEq, Repr

/-- Hits that are handed out in order. -/
structure Cursor (R : Type) where
  /-- All hits. -/
  hits : List (Hit R)
  /-- How many have been handed out. -/
  position : Nat

namespace Cursor

variable {R : Type}

/-- A cursor that has handed out nothing. -/
def ofHits (hits : List (Hit R)) : Cursor R := ⟨hits, 0⟩

/-- The number of all hits. -/
def length (cursor : Cursor R) : Nat := cursor.hits.length

/-- Whether there are no hits at all. -/
def isEmpty (cursor : Cursor R) : Bool := cursor.hits.isEmpty

/-- Whether a hit is left. -/
def hasNext (cursor : Cursor R) : Bool := cursor.position < cursor.length

/-- The number of hits left. -/
def remaining (cursor : Cursor R) : Nat := cursor.length - cursor.position

/-- The least and the greatest number of hits to come, which are the same. -/
def sizeHint (cursor : Cursor R) : Nat × Nat := (cursor.remaining, cursor.remaining)

/-- How far the cursor is. -/
def state (cursor : Cursor R) : CursorState :=
  if cursor.length ≤ cursor.position then .exhausted
  else if cursor.position = 0 then .notStarted
  else .iterating

/-- Hands out the next hit. -/
def next : Call (Cursor R) CursorError (Hit R) := do
  let cursor ← get
  match cursor.hits[cursor.position]? with
  | none => throw (.outOfRange cursor.position cursor.length)
  | some hit =>
    set { cursor with position := cursor.position + 1 }
    return hit

/-- Hands out the next hit, if there is one. -/
def next? (cursor : Cursor R) : Option (Hit R) × Cursor R :=
  let (outcome, cursor) := next.on cursor
  (outcome.toOption, cursor)

/-- Taking back a hit is not supported and changes nothing. -/
def remove (cursor : Cursor R) : Cursor R := cursor

/-- Hands out so many hits at most. -/
def takeWithin : Nat → Cursor R → List (Hit R) × Cursor R
  | 0, cursor => ([], cursor)
  | steps + 1, cursor =>
    match cursor.next? with
    | (none, cursor) => ([], cursor)
    | (some hit, cursor) =>
      let (hits, cursor) := takeWithin steps cursor
      (hit :: hits, cursor)

/-- Hands out all hits that are left. -/
def drain (cursor : Cursor R) : List (Hit R) × Cursor R :=
  takeWithin (cursor.remaining + 1) cursor

end Cursor

end QuestionSearch.Query
