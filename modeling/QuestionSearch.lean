import QuestionSearch.Host.Directory
import QuestionSearch.Main
import QuestionSearch.Proofs.Classifier.CachedSessions
import QuestionSearch.Proofs.Content.Incremental
import QuestionSearch.Proofs.Grammar.Parsing
import QuestionSearch.Proofs.Index.Ledger
import QuestionSearch.Proofs.Index.Consistency
import QuestionSearch.Proofs.Classifier.Labels
import QuestionSearch.Proofs.Index.Generations
import QuestionSearch.Proofs.Index.Matches
import QuestionSearch.Proofs.Query.PipelineSessions
import QuestionSearch.Proofs.Grammar.Validation
import QuestionSearch.Proofs.Query.Fragments
import QuestionSearch.Proofs.Query.GuessedTypes
import QuestionSearch.Proofs.Classifier.Agreement
import QuestionSearch.Proofs.Classifier.Trainings
import QuestionSearch.Proofs.Classifier.TrainingHistories
import QuestionSearch.Proofs.Content.NodePaths
import QuestionSearch.Proofs.Index.FieldTerms
import QuestionSearch.Proofs.Query.SharedUse
import QuestionSearch.Proofs.Query.Spacing
import QuestionSearch.Proofs.Query.CursorCalls
import QuestionSearch.Proofs.Text.StableTerms
import QuestionSearch.Proofs.Content.PropertyTerms
import QuestionSearch.Proofs.Content.StagedSequence
import QuestionSearch.Proofs.Grammar.EmptyWord
import QuestionSearch.Proofs.Grammar.GroundedEntries
import QuestionSearch.Proofs.Grammar.FirstTrees
import QuestionSearch.Proofs.Index.RankedSearch
import QuestionSearch.Proofs.Index.Subtrees
import QuestionSearch.Proofs.Content.UnchangedNodes
import QuestionSearch.Proofs.Classifier.ClassCounts
import QuestionSearch.Proofs.Classifier.Posterior
import QuestionSearch.Proofs.Classifier.NearestVote
import QuestionSearch.Proofs.Index.ScoreRewards
import QuestionSearch.Proofs.Grammar.LookupTables
import QuestionSearch.Proofs.Grammar.ChartAccess
import QuestionSearch.Proofs.Grammar.QuietPasses
