import QuestionSearch.Data
import QuestionSearch.Single
import QuestionSearch.Table

/-!
# Decoding structured data

Each decoder takes one kind of value from data and fails on any other. A structure is decoded from a
record, whose other keys do not count, or from a list of its fields in order.
-/

namespace QuestionSearch.Data

variable {α : Type}

/-- A text. -/
def text? : Data → Option String
  | .text value => some value
  | _ => none

/-- A natural number. -/
def natural? : Data → Option Nat
  | .integer number => number.toNat?
  | _ => none

/-- A number, as a `Float`. -/
def float? : Data → Option Float
  | .integer number => some (.ofInt number)
  | .float number => some number
  | .nan _ => some (0 / 0)
  | _ => none

/-- A number of single precision. -/
def single? : Data → Option Single
  | .integer number => some (.ofFloat32 (.ofInt number))
  | .float number => some (.ofFloat32 number.toFloat32)
  | .nan negative => some (.nan negative)
  | _ => none

/-- A list, given how to decode its items. -/
def listOf? (decode : Data → Option α) : Data → Option (List α)
  | .list items => items.mapM decode
  | _ => none

/-- A table, given how to decode what its keys are bound to. Of two entries with one key the later
one counts. -/
def tableOf? (decode : Data → Option α) : Data → Option (Table α)
  | .record entries =>
    (entries.mapM fun entry => (decode entry.2).map fun value => (entry.1, value)).map Table.ofList
  | _ => none

/-- What the data of a format may stand for. -/
structure Conventions where
  /-- Whether a list may hold more items than a structure has fields. -/
  longLists : Bool
  /-- Whether data say no more than that a name is meant. -/
  isUnit : Data → Bool

/-- In JSON nothing stands beside a name, and no item of a list may be left over. -/
def Conventions.json : Conventions where
  longLists := false
  isUnit
    | .null => true
    | _ => false

/-- In TOML an empty list or table stands beside a name, and items left over do not count. -/
def Conventions.toml : Conventions where
  longLists := true
  isUnit
    | .list items => items.isEmpty
    | .record entries => entries.isEmpty
    | _ => false

/-- The fields that were given for a structure. -/
abbrev Fields := List (String × Data)

/-- The fields of a record with the given names, none of which it may repeat. A day or a moment is
read as a record without any. -/
def recordFields? (names : List String) : Data → Option Fields
  | .record entries =>
    let known := entries.filter fun entry => names.contains entry.1
    if (known.map Prod.fst).Nodup then some known else none
  | .date => some []
  | _ => none

/-- The fields with the given names, from a record or from a list in their order. -/
def fields? (conventions : Conventions) (names : List String) : Data → Option Fields
  | .list items =>
    if items.length ≤ names.length ∨ conventions.longLists then some (names.zip items) else none
  | data => data.recordFields? names

/-- Decodes a field, if it was given. -/
def Fields.optional? (fields : Fields) (name : String) (decode : Data → Option α) :
    Option (Option α) :=
  match lookupEntry name fields with
  | none => some none
  | some data => (decode data).map some

/-- Decodes a field that must have been given. -/
def Fields.required? (fields : Fields) (name : String) (decode : Data → Option α) : Option α :=
  (lookupEntry name fields).bind decode

/-- Decodes a field that has a default. -/
def Fields.withDefault? (fields : Fields) (name : String) (default : α)
    (decode : Data → Option α) : Option α :=
  (fields.optional? name decode).map fun given => given.getD default

end QuestionSearch.Data
