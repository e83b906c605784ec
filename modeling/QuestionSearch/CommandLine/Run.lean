import QuestionSearch.CommandLine.Level
import QuestionSearch.CommandLine.Report
import QuestionSearch.CommandLine.Usage
import QuestionSearch.Host
import QuestionSearch.Pipeline

/-!
# Runs

A run reads the arguments, then the settings, and then carries out the command. What it finds wrong
first ends it: arguments that cannot be read end it before anything is looked at on the host.
-/

namespace QuestionSearch.CommandLine

open QuestionSearch.Grammar

/-- What a run leaves behind. -/
structure Outcome where
  /-- The exit status: nothing wrong, a failed run, or wrong arguments. -/
  exit : Nat
  /-- What is printed. -/
  output : String
  /-- What is printed about a failure. -/
  complaint : Option String
deriving DecidableEq, Repr

/-- Says what failed. -/
def explain {α : Type} (context : String) (result : Except SearchError α) : Except Failure α :=
  result.mapError fun fault => ⟨context, fault.causes⟩

/-- What a failed reading of settings was about. -/
def settingsContext : Option String → String
  | none => "Failed to load config"
  | some path => "Failed to load config from " ++ path

/-- The answer to a question from a pipeline. -/
def answerQuestion (pipeline : Pipeline) (question : String) (limit : Option Nat) :
    Except Failure Report := do
  let limit := limit.getD pipeline.executor.limit
  let (result, _) := pipeline.executor.execute pipeline.index .ofKeys question limit
  let (meaning, cursor) ← explain "Query execution failed" result
  .ok (queryReport question meaning.plan cursor.drain.1)

/-- What a question means to a pipeline. -/
def explainQuestion (pipeline : Pipeline) (question : String) : Report :=
  planReport (pipeline.executor.interpret pipeline.index .ofKeys question).1

/-- The outcome of a run whose arguments do not ask for a command. -/
def stopOutcome : Stop → Outcome
  | .version => ⟨0, "nlsearch 0.1.0\n", none⟩
  | .help => ⟨0, usage, none⟩
  | .refused => ⟨2, "", some usage⟩

/-- The outcome of a run that carries out a command. -/
def Outcome.ofResult : Except Failure String → Outcome
  | .ok output => ⟨0, output, none⟩
  | .error failure => ⟨1, "", some failure.message⟩

variable {m : Type → Type} [Monad m]

/-- The grammar of a file, or the one that settings choose. -/
def chooseGrammar (host : Host m) (settings : Settings) (file : Option String) :
    ExceptT Failure m (GrammarModel Float) := do
  match file with
  | some path =>
    let grammar ← host.grammarAt path
    MonadExcept.ofExcept
      (grammar.mapError fun fault => ⟨"Invalid grammar " ++ path, [fault.message]⟩)
  | none =>
    let grammar ← host.grammar settings
    MonadExcept.ofExcept (explain "Failed to load grammar" (grammar.mapError .grammar))

/-- The pipeline over the content tree of a file. The tree is read before the grammar. -/
def openPipeline (host : Host m) (settings : Settings) (path : String) :
    ExceptT Failure m Pipeline := do
  let content ← host.content path
  let content ← MonadExcept.ofExcept (explain ("Failed to read content tree " ++ path) content)
  let grammar ← host.grammar settings
  MonadExcept.ofExcept <| explain "Failed to index content tree" do
    let grammar ← grammar.mapError .grammar
    (Pipeline.ofContent grammar settings content).mapError .store

/-- Carries out a command and gives what it prints. -/
def carryOut (host : Host m) (settings : Settings) (invocation : Invocation) :
    ExceptT Failure m String := do
  match invocation.command with
  | .parse question =>
    let grammar ← chooseGrammar host settings none
    return (parseReport grammar question).print invocation.format
  | .plan content question =>
    let pipeline ← openPipeline host settings content
    return (explainQuestion pipeline question).print invocation.format
  | .query content question limit =>
    let pipeline ← openPipeline host settings content
    let report ← MonadExcept.ofExcept (answerQuestion pipeline question limit)
    return report.print invocation.format
  | .grammarShow file =>
    let grammar ← chooseGrammar host settings file
    return (grammarReport grammar.definition).print invocation.format
  | .grammarCheck file =>
    let grammar ← chooseGrammar host settings file
    return (grammarSummary grammar).print invocation.format
  | .configShow => return (settingsReport settings).print invocation.format
  | .configInit => return Settings.sample ++ "\n"
  | .configPath =>
    match ← host.settingsPath? with
    | some path => return path ++ "\n"
    | none => return "Could not determine config directory\n"

/-- Carries out a command after looking at the settings. -/
def obey (host : Host m) (invocation : Invocation) : ExceptT Failure m String := do
  let settings ← host.settings invocation.config
  let settings ← MonadExcept.ofExcept (explain (settingsContext invocation.config) settings)
  MonadExcept.ofExcept (checkLevel settings invocation.verbose)
  carryOut host settings invocation

/-- Runs the program with arguments. -/
def run (host : Host m) (arguments : List String) : m Outcome := do
  match Invocation.ofArguments arguments with
  | .error stop => return stopOutcome stop
  | .ok invocation =>
    let result ← (obey host invocation).run
    return .ofResult result

end QuestionSearch.CommandLine
