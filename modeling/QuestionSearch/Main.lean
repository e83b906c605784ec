import QuestionSearch.CommandLine.Run

/-!
# The program

Asks the machine for files and variables, prints the outcome of the run, and ends with its status.
-/

namespace QuestionSearch

/-- The number of a fault, which may be given as the negative of it. -/
def faultNumber (code : UInt32) : Nat := code.toInt32.toInt.natAbs

/-- What a failed look at a path means. -/
def FileFault.ofError (fault : IO.Error) : FileFault :=
  match fault with
  | .noFileOrDirectory _ _ _ => .noEntry
  | .permissionDenied _ _ _ => .permissionDenied
  | .inappropriateType _ code _ =>
    if faultNumber code = 20 then .notDirectory
    else if faultNumber code = 21 then .isDirectory
    else .other (toString fault)
  | .invalidArgument _ code _ =>
    if faultNumber code = 36 then .nameTooLong else .other (toString fault)
  | _ => .other (toString fault)

/-- Looks at a path on this machine. A file has to be encoded in UTF-8. -/
def lookAt (path : String) : IO FileRead := do
  try
    let bytes ← IO.FS.readBinFile path
    match String.fromUTF8? bytes with
    | some text => return .ok text
    | none => return .error .notText
  catch fault => return .error (.ofError fault)

/-- The number of the user of this process, which stands first after its label. -/
def userNumber? (status : String) : Option String :=
  (status.splitOn "\n").findSome? fun line =>
    match line.splitOn "\t" with
    | "Uid:" :: number :: _ => some number
    | _ => none

/-- The home of the account of this process, if the machine lists its accounts in a file. -/
def lookUpHome : IO (Option String) := do
  try
    let status ← IO.FS.readFile "/proc/self/status"
    let accounts ← IO.FS.readFile "/etc/passwd"
    return (userNumber? status).bind (homeOfAccount? accounts)
  catch _ => return none

/-- This machine. -/
def machine : Host IO where
  fileAt := lookAt
  environment := fun name => IO.getEnv name
  accountHome := lookUpHome

end QuestionSearch

/-- Runs the program with the given arguments. -/
def main (arguments : List String) : IO UInt32 := do
  let outcome ← QuestionSearch.CommandLine.run QuestionSearch.machine arguments
  IO.print outcome.output
  if let some complaint := outcome.complaint then
    IO.eprintln complaint
  return UInt32.ofNat outcome.exit
