import QuestionSearch.Json.Token

/-!
# Reading JSON

Tokens are put together with a stack of the brackets that are open, one token at a time. Brackets
nested deeper than a limit are read over but stand for no value, and neither does a record with an
unreadable key.
-/

namespace QuestionSearch.Json

/-- An open bracket with the parts inside it that are complete, the last one first. -/
inductive Frame
  /-- An open square bracket. -/
  | list (items : List Data)
  /-- An open curly bracket, with the key that waits for its value. -/
  | record (entries : List (Option String × Data)) (key : Option String)

/-- What may come next. -/
inductive Stage
  /-- A value. -/
  | value
  /-- The first item of a list, or its end. -/
  | firstItem
  /-- The first key of a record, or its end. -/
  | firstKey
  /-- A key. -/
  | key
  /-- What separates a key from its value. -/
  | colon
  /-- A separator or the end of what is open. -/
  | afterValue
deriving DecidableEq

/-- How far a text has been read. -/
structure Progress where
  /-- The open brackets, the innermost first. -/
  frames : List Frame
  /-- What may come next. -/
  stage : Stage
  /-- The value outside all brackets. -/
  outcome : Data

namespace Progress

/-- Nothing has been read. -/
def start : Progress := ⟨[], .value, .null⟩

/-- Takes a complete value. -/
def take (progress : Progress) (value : Data) : Progress :=
  match progress.frames with
  | [] => { progress with stage := .afterValue, outcome := value }
  | .list items :: frames =>
    { progress with frames := .list (value :: items) :: frames, stage := .afterValue }
  | .record entries key :: frames =>
    { progress with
      frames := .record ((key, value) :: entries) key :: frames
      stage := .afterValue }

/-- Opens a bracket. -/
def push (progress : Progress) (frame : Frame) (stage : Stage) : Progress :=
  { progress with frames := frame :: progress.frames, stage }

/-- A record, if all its keys are readable. -/
def recordOf (entries : List (Option String × Data)) : Data :=
  match entries.mapM fun (key, value) => key.map fun key => (key, value) with
  | none => .unreadable
  | some entries => .record entries

/-- Closes a list. -/
def closeList? (limit : Nat) (progress : Progress) : Option Progress :=
  match progress.frames with
  | .list items :: frames =>
    some <| take { progress with frames } <|
      if frames.length < limit then .list items.reverse else .unreadable
  | _ => none

/-- Closes a record. -/
def closeRecord? (limit : Nat) (progress : Progress) : Option Progress :=
  match progress.frames with
  | .record entries _ :: frames =>
    some <| take { progress with frames } <|
      if frames.length < limit then recordOf entries.reverse else .unreadable
  | _ => none

/-- Takes a token where a value may come. -/
def takeValue? (progress : Progress) : Token → Option Progress
  | .openList => some (progress.push (.list []) .firstItem)
  | .openRecord => some (progress.push (.record [] none) .firstKey)
  | .atom value => some (progress.take value)
  | .text (some value) => some (progress.take (.text value))
  | .text none => some (progress.take .unreadable)
  | _ => none

/-- Takes a token where a key may come. -/
def takeKey? (progress : Progress) : Token → Option Progress
  | .text key =>
    match progress.frames with
    | .record entries _ :: frames =>
      some { progress with frames := .record entries key :: frames, stage := .colon }
    | _ => none
  | _ => none

/-- Takes a token between values. -/
def takeSeparator? (limit : Nat) (progress : Progress) : Token → Option Progress
  | .comma =>
    match progress.frames with
    | .list _ :: _ => some { progress with stage := .value }
    | .record _ _ :: _ => some { progress with stage := .key }
    | [] => none
  | .closeList => progress.closeList? limit
  | .closeRecord => progress.closeRecord? limit
  | _ => none

/-- Takes one token, if it may come next. -/
def step? (limit : Nat) (progress : Progress) (token : Token) : Option Progress :=
  match progress.stage, token with
  | .value, _ => progress.takeValue? token
  | .firstItem, .closeList => progress.closeList? limit
  | .firstItem, _ => progress.takeValue? token
  | .firstKey, .closeRecord => progress.closeRecord? limit
  | .firstKey, _ => progress.takeKey? token
  | .key, _ => progress.takeKey? token
  | .colon, .colon => some { progress with stage := .value }
  | .colon, _ => none
  | .afterValue, _ => progress.takeSeparator? limit token

/-- The value, if nothing is open or missing. -/
def finish? (progress : Progress) : Option Data :=
  if progress.frames.isEmpty ∧ progress.stage = .afterValue then some progress.outcome else none

end Progress

/-- How many brackets may be open at once in JSON that is read from outside. -/
def nestingLimit : Nat := 127

/-- Reads JSON with at most so many open brackets. -/
def readWithin? (limit : Nat) (text : String) : Option Data := do
  let tokens ← tokens? text
  let progress ← tokens.foldlM (Progress.step? limit) Progress.start
  progress.finish?

/-- Reads JSON. -/
def read? (text : String) : Option Data :=
  readWithin? nestingLimit text

end QuestionSearch.Json
