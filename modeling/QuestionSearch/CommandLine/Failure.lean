import QuestionSearch.Error

/-!
# Failed runs

A run that fails says what it was about and why it did not succeed. Several causes are numbered, and
a cause of several lines is indented as a whole.
-/

namespace QuestionSearch.CommandLine

/-- Why a run fails. -/
structure Failure where
  /-- What failed. -/
  context : String
  /-- Why, the outermost cause first. -/
  causes : List String
deriving DecidableEq, Repr

namespace Failure

/-- A text after a heading, with all its lines but the first indented by so many blanks. -/
def hanging (heading : String) (margin : Nat) (text : String) : String :=
  heading ++ String.ofList
    (text.toList.flatMap fun c => if c = '\n' then c :: List.replicate margin ' ' else [c])

/-- The number of a cause, in a column of five places. -/
def numberHeading (number : Nat) : String :=
  let digits := Nat.toDigits 10 number
  String.ofList (List.replicate (5 - digits.length) ' ' ++ digits) ++ ": "

/-- The lines of causes after some others. -/
def numberedCauses (number : Nat) : List String → List String
  | [] => []
  | cause :: rest => hanging (numberHeading number) 7 cause :: numberedCauses (number + 1) rest

/-- The lines of all causes. A single cause has no number. -/
def causeLines : List String → List String
  | [cause] => [hanging "    " 4 cause]
  | causes => numberedCauses 0 causes

/-- The text of a failure. -/
def message (failure : Failure) : String :=
  "Error: " ++ failure.context ++
    (if failure.causes.isEmpty then ""
    else "\n\nCaused by:\n" ++ String.intercalate "\n" (causeLines failure.causes))

end Failure

end QuestionSearch.CommandLine
