import QuestionSearch.Content.Node
import QuestionSearch.Grammar.Probability
import QuestionSearch.Grammar.Questions
import QuestionSearch.Grammar.Written
import QuestionSearch.Settings

/-!
# Hosts

A host is what a program finds around it: files and the environment. The program asks it in any
monad, so that it runs on a real host as well as on one that is described by functions. This module
also says what the texts of files stand for, and where settings are looked for.
-/

namespace QuestionSearch

open QuestionSearch.Content QuestionSearch.Grammar

/-- Why a path leads to no text. -/
inductive FileFault
  /-- A name on the way stands for nothing. -/
  | noEntry
  /-- A name on the way, but for the last, stands for a file. -/
  | notDirectory
  /-- The path leads to a directory. -/
  | isDirectory
  /-- The path, or a name on the way, is longer than any may be. -/
  | nameTooLong
  /-- The host does not allow it. -/
  | permissionDenied
  /-- The file holds something other than a text. -/
  | notText
  /-- Something else. -/
  | other (reason : String)
deriving DecidableEq, Repr

namespace FileFault

/-- The wording of a fault, with the number that hosts give it. -/
def message : FileFault → String
  | noEntry => "No such file or directory (os error 2)"
  | notDirectory => "Not a directory (os error 20)"
  | isDirectory => "Is a directory (os error 21)"
  | nameTooLong => "File name too long (os error 36)"
  | permissionDenied => "Permission denied (os error 13)"
  | notText => "stream did not contain valid UTF-8"
  | other reason => reason

/-- Whether there is nothing at all at the path. -/
def isAbsence : FileFault → Bool
  | noEntry => true
  | notDirectory => true
  | nameTooLong => true
  | _ => false

end FileFault

/-- The text that is found at a path. -/
abbrev FileRead := Except FileFault String

/-- What a program finds around it. -/
structure Host (m : Type → Type) where
  /-- Looks at a path. -/
  fileAt : String → m FileRead
  /-- The value of a variable of the environment, if it is set. -/
  environment : String → m (Option String)
  /-- The home of the user's account, if there is an account. -/
  accountHome : m (Option String)

/-- The grammar that a text defines. -/
def grammarOfText (text : String) : Except GrammarError (GrammarModel Float) :=
  match GrammarDefinition.ofToml? text with
  | none => .error (.unreadable "not the definition of a grammar")
  | some definition => definition.model

/-- The grammar that is found at a path. -/
def grammarOfFile (path : String) (file : FileRead) : Except GrammarError (GrammarModel Float) := do
  let text ← file.mapError fun fault => .unreadable (path ++ ": " ++ fault.message)
  grammarOfText text

/-- The content tree that is found at a path. -/
def contentOfFile (file : FileRead) : Except SearchError ContentNode := do
  let text ← file.mapError fun fault => .io fault.message
  match ContentNode.ofJson? text with
  | none => .error (.serialization "not a content tree")
  | some content => .ok content

/-- The settings that are found at a path. -/
def settingsOfFile (file : FileRead) : Except SearchError Settings := do
  let text ← file.mapError fun fault => .io fault.message
  match Settings.ofToml? text with
  | none => .error (.config "not the settings of this program")
  | some settings => .ok settings

/-- A path below another one. There is always one slash between them at least, unless nothing stands
before it. -/
def joinPath (base name : String) : String :=
  if base.isEmpty || base.toList.getLast? = some '/' then base ++ name else base ++ "/" ++ name

/-- Whether a path starts at the root. -/
def isAbsolutePath (path : String) : Bool := path.toList.head? = some '/'

/-- Where settings are looked for, given three variables of the environment and the home of the
account: the directory of settings of this program, the one of all programs, and the home. The
directory of all programs only counts if its path is absolute, and there is none without a home. A
home without a name is none, and the one of the account stands in for it. -/
def settingsPath? (own shared home account : Option String) : Option String :=
  match own with
  | some directory => some (joinPath directory "config.toml")
  | none => do
    let named := fun home : String => !home.isEmpty
    let home ← (home.filter named).or (account.filter named)
    let base := (shared.filter isAbsolutePath).getD (joinPath home ".config")
    some (joinPath (joinPath base "nlsearch") "config.toml")

/-- The home of an account in a list of accounts, one in each line. The fields of a line end with
colons, the third is the number of the user, and the sixth the home. -/
def homeOfAccount? (accounts user : String) : Option String :=
  (accounts.splitOn "\n").findSome? fun line =>
    match line.splitOn ":" with
    | _ :: _ :: number :: _ :: _ :: home :: _ => if number = user then some home else none
    | _ => none

namespace Host

variable {m : Type → Type} [Monad m]

/-- Where settings are looked for. -/
def settingsPath? (host : Host m) : m (Option String) := do
  let own ← host.environment "NLSEARCH_CONFIG_DIR"
  let shared ← host.environment "XDG_CONFIG_HOME"
  let home ← host.environment "HOME"
  let account ← host.accountHome
  return QuestionSearch.settingsPath? own shared home account

/-- The settings. A file that is named has to be there. Otherwise there may be one at the usual
place. -/
def settings (host : Host m) (path : Option String) : m (Except SearchError Settings) := do
  match path with
  | some path => return settingsOfFile (← host.fileAt path)
  | none =>
    match ← host.settingsPath? with
    | none => return .ok .default
    | some path =>
      match ← host.fileAt path with
      | .ok text => return settingsOfFile (.ok text)
      | .error fault =>
        return if fault.isAbsence then .ok .default else settingsOfFile (.error fault)

/-- The grammar of a file. -/
def grammarAt (host : Host m) (path : String) : m (Except GrammarError (GrammarModel Float)) := do
  return grammarOfFile path (← host.fileAt path)

/-- The grammar that settings choose. -/
def grammar (host : Host m) (settings : Settings) :
    m (Except GrammarError (GrammarModel Float)) :=
  match settings.grammarPath with
  | some path => host.grammarAt path
  | none => return questionGrammar.model

/-- The content tree of a file. -/
def content (host : Host m) (path : String) : m (Except SearchError ContentNode) := do
  return contentOfFile (← host.fileAt path)

end Host

end QuestionSearch
