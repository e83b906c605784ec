/-!
# Scanning arguments

The arguments of a command are options, words, and at most one subcommand, which takes all arguments
after it. An option has a long name after two hyphens and possibly a short one after one. Its value
follows in the same argument or in the next one, which must not look like an option itself. Short
options without values may share a hyphen. After two lone hyphens everything is a word.
-/

namespace QuestionSearch.CommandLine

/-- What an option is for. -/
inductive OptionKind
  /-- It is given or not. -/
  | flag
  /-- It has a value, which has to pass a test. -/
  | value (accepts : String → Bool)
  /-- It asks for the version instead of running anything. -/
  | version
  /-- It asks for help instead of running anything. -/
  | help

/-- An option of a command. -/
structure OptionSpec where
  /-- Its long name. -/
  long : String
  /-- Its short name. -/
  short : Option Char
  /-- What it is for. -/
  kind : OptionKind

/-- What a command takes. -/
structure CommandSpec where
  /-- Its options. -/
  options : List OptionSpec
  /-- Tests for its words in order. -/
  words : List (String → Bool)
  /-- Its subcommands. -/
  subcommands : List String

/-- Why a command is not run. -/
inductive Stop
  /-- The version is asked for. -/
  | version
  /-- Help is asked for. -/
  | help
  /-- The arguments are wrong. -/
  | refused
deriving DecidableEq, Repr

/-- The arguments of a command. -/
structure Arguments where
  /-- The given options with their values. -/
  options : List (String × String)
  /-- The words in order. -/
  words : List String
  /-- The subcommand with its arguments. -/
  subcommand : Option (String × List String)
deriving DecidableEq, Repr

namespace Arguments

/-- No arguments. -/
def empty : Arguments := ⟨[], [], none⟩

/-- The value of an option. -/
def option? (arguments : Arguments) (long : String) : Option String :=
  (arguments.options.find? fun given => given.1 == long).map Prod.snd

/-- Takes an option with its value. No option is given twice, and the value has to pass its test. -/
def give (arguments : Arguments) (spec : OptionSpec) (value : String) : Except Stop Arguments :=
  match spec.kind with
  | .version => .error .version
  | .help => .error .help
  | .flag =>
    if (arguments.option? spec.long).isSome then .error .refused
    else .ok { arguments with options := arguments.options ++ [(spec.long, value)] }
  | .value accepts =>
    if (arguments.option? spec.long).isSome || !accepts value then .error .refused
    else .ok { arguments with options := arguments.options ++ [(spec.long, value)] }

/-- Takes a word, if one is still expected and it passes its test. -/
def giveWord (arguments : Arguments) (spec : CommandSpec) (word : String) :
    Except Stop Arguments :=
  match spec.words[arguments.words.length]? with
  | none => .error .refused
  | some accepts =>
    if accepts word then .ok { arguments with words := arguments.words ++ [word] }
    else .error .refused

end Arguments

/-- Whether an option has a value. -/
def OptionSpec.takesValue (spec : OptionSpec) : Bool :=
  match spec.kind with
  | .value _ => true
  | _ => false

/-- Takes the short options of an argument. An option that still needs its value is given back. -/
def scanShort (spec : CommandSpec) (arguments : Arguments) :
    List Char → Except Stop (Arguments × Option OptionSpec)
  | [] => .ok (arguments, none)
  | letter :: rest =>
    match spec.options.find? fun option => option.short == some letter with
    | none => .error .refused
    | some option =>
      if option.takesValue then
        match rest with
        | [] => .ok (arguments, some option)
        | '=' :: value => do
          let arguments ← arguments.give option (String.ofList value)
          .ok (arguments, none)
        | value => do
          let arguments ← arguments.give option (String.ofList value)
          .ok (arguments, none)
      else do
        let arguments ← arguments.give option ""
        scanShort spec arguments rest

/-- Takes a long option. An option that still needs its value is given back. -/
def scanLong (spec : CommandSpec) (arguments : Arguments) (text : List Char) :
    Except Stop (Arguments × Option OptionSpec) :=
  let name := String.ofList (text.takeWhile (· ≠ '='))
  match spec.options.find? fun option => option.long == name with
  | none => .error .refused
  | some option =>
    match text.dropWhile (· ≠ '=') with
    | [] =>
      if option.takesValue then .ok (arguments, some option)
      else do
        let arguments ← arguments.give option ""
        .ok (arguments, none)
    | _ :: value =>
      if option.takesValue then do
        let arguments ← arguments.give option (String.ofList value)
        .ok (arguments, none)
      else .error .refused

/-- Scans arguments after those taken already. `waiting` is an option that needs its value, and
`onlyWords` says that two lone hyphens have been seen. -/
def scan (spec : CommandSpec) (taken : Arguments) (waiting : Option OptionSpec)
    (onlyWords : Bool) : List String → Except Stop Arguments
  | [] => if waiting.isSome then .error .refused else .ok taken
  | argument :: rest =>
    if onlyWords then do
      let taken ← taken.giveWord spec argument
      scan spec taken waiting true rest
    else if waiting.isNone && spec.subcommands.contains argument then
      .ok { taken with subcommand := some (argument, rest) }
    else
      match argument.toList with
      | ['-', '-'] =>
        if waiting.isSome then .error .refused else scan spec taken none true rest
      | '-' :: '-' :: text =>
        if waiting.isSome then .error .refused
        else do
          let (taken, waiting) ← scanLong spec taken text
          scan spec taken waiting false rest
      | '-' :: letter :: text =>
        if waiting.isSome then .error .refused
        else do
          let (taken, waiting) ← scanShort spec taken (letter :: text)
          scan spec taken waiting false rest
      | _ =>
        match waiting with
        | some option => do
          let taken ← taken.give option argument
          scan spec taken none false rest
        | none => do
          let taken ← taken.giveWord spec argument
          scan spec taken none false rest

/-- The arguments of a command. -/
def Arguments.read (spec : CommandSpec) (arguments : List String) : Except Stop Arguments :=
  scan spec .empty none false arguments

end QuestionSearch.CommandLine
