import QuestionSearch.Classifier.Cache
import QuestionSearch.Error
import QuestionSearch.Grammar.Parser
import QuestionSearch.Index.Writer
import QuestionSearch.Text.Blank

/-!
# Answering questions

A question is parsed for the word at its end and classified for the type of document asked for. Both
go into a plan, and the plan is run on the index.
-/

namespace QuestionSearch.Query

open QuestionSearch.Classifier QuestionSearch.Grammar QuestionSearch.Index QuestionSearch.Text

/-- How many hits are given unless told otherwise. -/
def defaultLimit : Nat := 100

/-- What a question was taken to mean. -/
structure Meaning where
  /-- The word at its end, if the question has a parse. -/
  fragment : Option String
  /-- The guessed type. -/
  guess : Option (Classification Float)
  /-- The plan made of them. -/
  plan : QueryPlan Single

/-- The word at the end of the best parse of a question. -/
def fragment? {S : Type} [Add S] [LT S] [DecidableLT S] (grammar : GrammarModel S)
    (question : String) : Option String :=
  (grammar.parse? (words question)).map ParseTree.fragment

/-- The index as a source of documents. -/
def momentOf (index : SearchIndex) (orders : DrawnOrders) : Moment where
  generation := index.stats.map IndexStats.generation
  snapshot := index.snapshot
  orders := orders

/-- What is needed to answer questions. -/
structure Executor where
  /-- The grammar of questions. -/
  grammar : GrammarModel Float
  /-- The trained classifier. -/
  cache : ClassifierCache Float
  /-- What plans are made of. -/
  planning : PlanSettings
  /-- How many hits are given unless told otherwise. -/
  limit : Nat

namespace Executor

/-- An executor that has not trained its classifier. -/
def ofSettings (grammar : GrammarModel Float) (classifier : ClassifierSettings)
    (planning : PlanSettings) (limit : Nat) : Executor :=
  ⟨grammar, .ofSettings classifier, planning, limit⟩

/-- Guesses the type of document that a text asks for. -/
def classify (executor : Executor) (index : SearchIndex) (orders : DrawnOrders) (text : String) :
    Option (Classification Float) × Executor :=
  let answer := executor.cache.classify (momentOf index orders) text
  (answer.result, { executor with cache := answer.cache })

/-- What a question means. -/
def interpret (executor : Executor) (index : SearchIndex) (orders : DrawnOrders)
    (question : String) : Meaning × Executor :=
  let fragment := fragment? executor.grammar question
  let (guess, executor) := executor.classify index orders question
  (⟨fragment, guess, executor.planning.plan fragment guess⟩, executor)

/-- Answers a question with so many hits at most, and says what it was taken to mean. The classifier
may be trained even if the index then refuses the search. -/
def execute (executor : Executor) (index : SearchIndex) (orders : DrawnOrders)
    (question : String) (limit : Nat) :
    Except SearchError (Meaning × Cursor Single) × Executor :=
  let (meaning, executor) := executor.interpret index orders question
  match index.search meaning.plan limit with
  | .error fault => (.error (.store fault), executor)
  | .ok hits => (.ok (meaning, .ofHits hits), executor)

end Executor

end QuestionSearch.Query
