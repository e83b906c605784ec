import QuestionSearch.Data
import QuestionSearch.Json.Written
import QuestionSearch.Table.Entries

/-!
# JSON values

A JSON value whose records list their keys in ascending order and once each. Equality compares
numbers as numbers, but a whole number never equals one with a point.
-/

namespace QuestionSearch.Json

/-- A JSON value. -/
inductive Value
  /-- Nothing. -/
  | null
  /-- A truth value. -/
  | bool (value : Bool)
  /-- A whole number of at most 64 bits. -/
  | integer (number : Int)
  /-- Any other number. -/
  | float (number : Float)
  /-- A text. -/
  | text (value : String)
  /-- Items in order. -/
  | list (items : List Value)
  /-- Keyed items, ascending. -/
  | record (entries : List (String × Value))
deriving Inhabited

namespace Value

mutual

/-- Whether two values are equal. -/
def equals : Value → Value → Bool
  | .null, .null => true
  | .bool left, .bool right => left == right
  | .integer left, .integer right => left == right
  | .float left, .float right => left == right
  | .text left, .text right => left == right
  | .list left, .list right => equalsItems left right
  | .record left, .record right => equalsEntries left right
  | _, _ => false

/-- Whether two lists are equal item by item. -/
def equalsItems : List Value → List Value → Bool
  | [], [] => true
  | left :: lefts, right :: rights => equals left right && equalsItems lefts rights
  | _, _ => false

/-- Whether two lists of entries are equal entry by entry. -/
def equalsEntries : List (String × Value) → List (String × Value) → Bool
  | [], [] => true
  | (leftKey, left) :: lefts, (rightKey, right) :: rights =>
    leftKey == rightKey && equals left right && equalsEntries lefts rights
  | _, _ => false

end

instance : BEq Value := ⟨equals⟩

mutual

/-- The value that data stand for, if every part of them is readable. -/
def ofData? : Data → Option Value
  | .null => some .null
  | .bool value => some (.bool value)
  | .integer number => some (.integer number)
  | .float number => some (.float number)
  | .nan _ => none
  | .text value => some (.text value)
  | .date => none
  | .list items => (ofItems? items).map .list
  | .record entries => (ofEntries? entries).map fun entries => .record (sortEntries entries)
  | .unreadable => none

/-- The values of some items. -/
def ofItems? : List Data → Option (List Value)
  | [] => some []
  | item :: rest => do
    let value ← ofData? item
    let values ← ofItems? rest
    some (value :: values)

/-- The values of some entries, in the order of the entries. -/
def ofEntries? : List (String × Data) → Option (List (String × Value))
  | [] => some []
  | (key, item) :: rest => do
    let value ← ofData? item
    let values ← ofEntries? rest
    some ((key, value) :: values)

end

mutual

/-- A value ready for printing. -/
def written : Value → Written
  | .null => .null
  | .bool value => .bool value
  | .integer number => .integer number
  | .float number => .double number
  | .text value => .text value
  | .list items => .list (writtenItems items)
  | .record entries => .record (writtenEntries entries)

/-- Items ready for printing. -/
def writtenItems : List Value → List Written
  | [] => []
  | item :: rest => written item :: writtenItems rest

/-- Entries ready for printing. -/
def writtenEntries : List (String × Value) → List (String × Written)
  | [] => []
  | (key, item) :: rest => (key, written item) :: writtenEntries rest

end

/-- The text of a value on one line. -/
def compact (value : Value) : String :=
  value.written.compact

end Value

end QuestionSearch.Json
