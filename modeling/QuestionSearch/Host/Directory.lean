import QuestionSearch.Host

/-!
# Described directories

A host need not be a machine: its working directory can be described by the files below it. A path
is followed from directory to directory. An empty name and a lone dot stay where they are, two dots
go back, and every other name has to stand for a directory, or for a file if it is the last.
-/

namespace QuestionSearch

/-- A working directory, described by the files below it. The place of a file is the list of the
names that lead to it. -/
structure Directory where
  /-- The places of the files with their texts. -/
  files : List (List String × String)
deriving Repr

namespace Directory

/-- The number of bytes of the longest name. -/
def nameLimit : Nat := 255

/-- The number of bytes of the longest path. -/
def pathLimit : Nat := 4095

/-- The place of the root, which is not below the working directory. -/
def root : List String := ["/"]

/-- Where a path starts. -/
def start (path : String) : List String := if isAbsolutePath path then root else []

/-- The directory of files whose paths are given, which only name what they go through. -/
def ofPaths (files : List (String × String)) : Directory :=
  ⟨files.map fun file =>
    (start file.1 ++ (file.1.splitOn "/").filter (· ≠ ""), file.2)⟩

/-- The place that two dots lead to. Nothing lies before the root. -/
def parent (place : List String) : List String :=
  if place = root then root
  else if place.all (· = "..") then place ++ [".."]
  else place.dropLast

/-- Whether a place is that of a directory, which it is if a file lies below it. -/
def isDirectory (directory : Directory) (place : List String) : Bool :=
  directory.files.any fun file => place.isPrefixOf file.1 && place != file.1

/-- The text of the file at a place. -/
def text? (directory : Directory) (place : List String) : Option String :=
  (directory.files.find? fun file => file.1 == place).map Prod.snd

/-- Follows names from the directory at a place. -/
def follow (directory : Directory) (place : List String) : List String → FileRead
  | [] => .error .isDirectory
  | name :: rest =>
    if name = "" || name = "." then directory.follow place rest
    else if name = ".." then directory.follow (parent place) rest
    else if nameLimit < name.utf8ByteSize then .error .nameTooLong
    else if directory.isDirectory (place ++ [name]) then directory.follow (place ++ [name]) rest
    else
      match directory.text? (place ++ [name]) with
      | none => .error .noEntry
      | some text => if rest.isEmpty then .ok text else .error .notDirectory

/-- What is found at a path. -/
def fileAt (directory : Directory) (path : String) : FileRead :=
  if path.isEmpty then .error .noEntry
  else if pathLimit < path.utf8ByteSize then .error .nameTooLong
  else directory.follow (start path) (path.splitOn "/")

end Directory

/-- The host of a described directory, an environment that lists variables with their values, and an
account with a home. -/
def Host.ofDirectory (directory : Directory) (environment : List (String × String))
    (home : Option String) : Host Id where
  fileAt := directory.fileAt
  environment name := (environment.find? fun entry => entry.1 == name).map Prod.snd
  accountHome := home

end QuestionSearch
