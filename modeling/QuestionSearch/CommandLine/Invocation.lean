import QuestionSearch.CommandLine.Arguments
import QuestionSearch.Decimal.Read

/-!
# Invocations

The commands of the program and how they are given. Three options may stand at every level of
commands: the file of settings, the form of the output, and whether to say more. The one given at
the innermost level counts.
-/

namespace QuestionSearch.CommandLine

/-- The forms of output. -/
inductive OutputFormat
  /-- Text for people. -/
  | text
  /-- JSON. -/
  | json
deriving DecidableEq, Repr

/-- The form of a name. -/
def OutputFormat.ofName? (name : String) : Option OutputFormat :=
  if name = "text" then some .text else if name = "json" then some .json else none

/-- A command. -/
inductive Command
  /-- Show the best parse of a question. -/
  | parse (question : String)
  /-- Show the plan for a question about a content tree. -/
  | plan (content question : String)
  /-- Answer a question about a content tree. -/
  | query (content question : String) (limit : Option Nat)
  /-- Print a grammar. -/
  | grammarShow (file : Option String)
  /-- Check a grammar. -/
  | grammarCheck (file : Option String)
  /-- Print the settings. -/
  | configShow
  /-- Print sample settings. -/
  | configInit
  /-- Print where settings are looked for. -/
  | configPath
deriving DecidableEq, Repr

/-- A command with the options of every level. -/
structure Invocation where
  /-- The file of settings, if one is named. -/
  config : Option String
  /-- Whether to say more than the settings do. -/
  verbose : Bool
  /-- The form of the output. -/
  format : OutputFormat
  /-- The command. -/
  command : Command
deriving DecidableEq, Repr

/-- Any text. -/
def anyText (_text : String) : Bool := true

/-- A path has at least one character. -/
def isPath (text : String) : Bool := text ≠ ""

/-- A count of 64 bits, possibly after a plus sign. -/
def count? (text : String) : Option Nat :=
  match text.toList with
  | '-' :: _ => none
  | chars => (Decimal.readInteger? chars).bind fun number =>
    if number < UInt64.size then some number.toNat else none

/-- The options of every level. -/
def sharedOptions : List OptionSpec :=
  [⟨"config", some 'c', .value isPath⟩,
    ⟨"verbose", some 'v', .flag⟩,
    ⟨"format", some 'f', .value fun name => (OutputFormat.ofName? name).isSome⟩,
    ⟨"help", some 'h', .help⟩]

/-- The program itself. -/
def programSpec : CommandSpec :=
  ⟨⟨"version", some 'V', .version⟩ :: sharedOptions, [],
    ["parse", "plan", "query", "grammar", "config", "help"]⟩

/-- The option for the file of a content tree. -/
def contentOption : OptionSpec := ⟨"content", none, .value isPath⟩

/-- The option for the number of hits. -/
def limitOption : OptionSpec := ⟨"limit", some 'l', .value fun text => (count? text).isSome⟩

/-- A command for a question. -/
def questionSpec (options : List OptionSpec) : CommandSpec :=
  ⟨options ++ sharedOptions, [anyText], []⟩

/-- A command with subcommands only. -/
def groupSpec (subcommands : List String) : CommandSpec :=
  ⟨sharedOptions, [], subcommands ++ ["help"]⟩

/-- A command for a file that may be left out. -/
def fileSpec : CommandSpec := ⟨sharedOptions, [isPath], []⟩

/-- A command without arguments of its own. -/
def plainSpec : CommandSpec := ⟨sharedOptions, [], []⟩

/-- The command that prints or checks a grammar. -/
def grammarSpec : CommandSpec := groupSpec ["show", "check"]

/-- The command for settings. -/
def configSpec : CommandSpec := groupSpec ["show", "init", "path"]

/-- The subcommands of a command of the program. Those of the grammar and of the settings have none
themselves. -/
def subcommandsBelow (name : String) : List String :=
  if name = "grammar" then grammarSpec.subcommands
  else if name = "config" then configSpec.subcommands
  else []

/-- Asks for help about the command that a path of names leads to, each of which has to be one of
the subcommands at its place. -/
def helpAbout (subcommands : List String) : List String → Stop
  | [] => .help
  | name :: path =>
    if subcommands.contains name then helpAbout (subcommandsBelow name) path else .refused

/-- The subcommand that has to be given. Help is a subcommand that takes the path of another. -/
def Arguments.required (arguments : Arguments) (spec : CommandSpec) :
    Except Stop (String × List String) :=
  match arguments.subcommand with
  | none => .error .refused
  | some ("help", path) => .error (helpAbout spec.subcommands path)
  | some subcommand => .ok subcommand

/-- The word that has to be given. -/
def Arguments.word (arguments : Arguments) : Except Stop String :=
  match arguments.words with
  | [] => .error .refused
  | word :: _ => .ok word

/-- The value of an option that has to be given. -/
def Arguments.value (arguments : Arguments) (long : String) : Except Stop String :=
  match arguments.option? long with
  | none => .error .refused
  | some value => .ok value

/-- The invocation of a command, given the arguments of all levels, the innermost first. -/
def Invocation.ofLevels (levels : List Arguments) (command : Command) : Invocation where
  config := levels.findSome? fun level => level.option? "config"
  verbose := levels.any fun level => (level.option? "verbose").isSome
  format :=
    ((levels.findSome? fun level => level.option? "format").bind OutputFormat.ofName?).getD .text
  command

/-- The invocation of a subcommand of the grammar command. -/
def grammarInvocation (outer : List Arguments) (given : String × List String) :
    Except Stop Invocation := do
  let arguments ← Arguments.read fileSpec given.2
  let file := arguments.words.head?
  .ok (.ofLevels (arguments :: outer)
    (if given.1 = "show" then .grammarShow file else .grammarCheck file))

/-- The invocation of a subcommand of the settings command. -/
def configInvocation (outer : List Arguments) (given : String × List String) :
    Except Stop Invocation := do
  let arguments ← Arguments.read plainSpec given.2
  .ok (.ofLevels (arguments :: outer)
    (if given.1 = "show" then .configShow
    else if given.1 = "init" then .configInit
    else .configPath))

/-- The invocation that arguments ask for. -/
def Invocation.ofArguments (arguments : List String) : Except Stop Invocation := do
  let program ← Arguments.read programSpec arguments
  let (name, rest) ← program.required programSpec
  if name = "parse" then
    let given ← Arguments.read (questionSpec []) rest
    let question ← given.word
    .ok (.ofLevels [given, program] (.parse question))
  else if name = "plan" then
    let given ← Arguments.read (questionSpec [contentOption]) rest
    let content ← given.value "content"
    let question ← given.word
    .ok (.ofLevels [given, program] (.plan content question))
  else if name = "query" then
    let given ← Arguments.read (questionSpec [contentOption, limitOption]) rest
    let content ← given.value "content"
    let question ← given.word
    .ok (.ofLevels [given, program]
      (.query content question ((given.option? "limit").bind count?)))
  else if name = "grammar" then
    let group ← Arguments.read grammarSpec rest
    let given ← group.required grammarSpec
    grammarInvocation [group, program] given
  else
    let group ← Arguments.read configSpec rest
    let given ← group.required configSpec
    configInvocation [group, program] given

end QuestionSearch.CommandLine
