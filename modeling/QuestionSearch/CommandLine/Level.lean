import QuestionSearch.CommandLine.Failure
import QuestionSearch.CommandLine.Invocation
import QuestionSearch.Settings

/-!
# Levels of logging

A level is chosen by its name, in small or capital letters, or by its number. The program does not
run with settings that choose none, unless it is asked to say more anyway.
-/

namespace QuestionSearch.CommandLine

open QuestionSearch.Text

/-- The names of the levels of logging, from the one that says least. -/
def levelNames : List String := ["error", "warn", "info", "debug", "trace"]

/-- The text in small letters, as far as its letters are those of ASCII. -/
def smallLetters (text : String) : String := String.ofList (text.toList.map Char.toLower)

/-- Whether a text chooses a level of logging, by its name or by its number from one. -/
def isLevel (text : String) : Bool :=
  levelNames.contains (smallLetters text) ||
    ((count? text).any fun number => 1 ≤ number && number ≤ levelNames.length)

/-- Why a level of logging is refused. -/
def levelComplaint : String :=
  "error parsing level: expected one of " ++
    String.intercalate ", " (levelNames.map quoted) ++ ", or a number 1-5"

/-- Logging needs a level that exists, unless the run is asked to say more than the settings do. -/
def checkLevel (settings : Settings) (verbose : Bool) : Except Failure Unit :=
  if verbose || isLevel settings.level then .ok ()
  else .error ⟨"Invalid log level " ++ quoted settings.level, [levelComplaint]⟩

end QuestionSearch.CommandLine
