import QuestionSearch.Proofs.Classifier.Votes

/-!
# Similarities

What nearest neighbours answer depends on the similarities of a text to the labelled ones, and on
nothing else (`voters_learntFrom`). Rounded similarities may depend on the orders of hash tables. If
those of a text do not, then neither does the answer (`assign_learntFrom_eq`). This is so for a text
of one term among texts in which no term is repeated (`orderFree_of_one_term`). In exact arithmetic
orders never matter.
-/

namespace QuestionSearch.Classifier

open QuestionSearch.Text

variable {R : Type} [Add R] [Mul R] [Div R] [Analytic R]

/-- How like each other two texts are, if both have terms. -/
def similarity? (order asked : VectorOrder) (known text : String) : Option R :=
  (TermVector.ofText? order known).bind fun vector =>
    (TermVector.ofText? asked text).map vector.cosine

/-- Whether the similarities of a text to the labelled ones are the same in all orders. -/
def OrderFree (R : Type) [Add R] [Mul R] [Div R] [Analytic R] (labelled : List LabelledText)
    (text : String) : Prop :=
  ∀ known ∈ labelled, ∀ order asked other again : VectorOrder,
    (similarity? order asked known.text text : Option R) =
      similarity? other again known.text text

/-! ## One term -/

namespace TermVector

omit [Div R] in
theorem cosine_eq_of_size_le_one {left right other again : TermVector R}
    (leftSame : left.weights = other.weights) (rightSame : right.weights = again.weights)
    (small : right.weights.size ≤ 1) : left.cosine right = other.cosine again := by
  rw [rightSame] at small
  rw [cosine, cosine, leftSame, rightSame]
  by_cases smaller : other.weights.size ≤ again.weights.size
  · have leftSmall := smaller.trans small
    simp only [smaller, if_true, leftSame, rightSame, Table.entriesBy_of_size_le_one leftSmall]
  · simp only [smaller, if_false, leftSame, rightSame, Table.entriesBy_of_size_le_one small]

/-- The frequencies of terms that are not repeated are all one. -/
theorem valuesBy_of_nodup {text : String} (nodup : (analyze text).Nodup) (order : HashOrder) :
    (termFrequencies text).valuesBy order = List.replicate (termFrequencies text).size 1 := by
  have perm := (termFrequencies text).perm_valuesBy order
  refine List.eq_replicate_iff.mpr ⟨?_, fun frequency member => ?_⟩
  · rw [perm.length_eq, Table.values, List.length_map, Table.size]
  · obtain ⟨term, counted⟩ := Table.mem_values_iff.mp (perm.mem_iff.mp member)
    rw [termFrequencies, get?_tally] at counted
    split at counted
    · rename_i occurs
      rw [← Option.some.inj counted, List.count_eq_one_of_mem nodup occurs]
    · cases counted

/-- The weights of a text in which no term is repeated are the same in all orders. -/
theorem ofText?_of_nodup {text : String} (nodup : (analyze text).Nodup) (order : VectorOrder) :
    (ofText? order text : Option (TermVector R)) =
      (ofText? .ofKeys text).map fun vector => ⟨vector.weights, order.weights⟩ := by
  rw [ofText?, ofText?, valuesBy_of_nodup nodup, valuesBy_of_nodup nodup]
  split <;> rfl

end TermVector

theorem orderFree_of_one_term {labelled : List LabelledText} {text term : String}
    (one : analyze text = [term]) (nodup : ∀ known ∈ labelled, (analyze known.text).Nodup) :
    OrderFree R labelled text := by
  intro known member order asked other again
  have knownFree := TermVector.ofText?_of_nodup (R := R) (nodup known member)
  have textNodup : (analyze text).Nodup := by simp [one]
  have textFree := TermVector.ofText?_of_nodup (R := R) textNodup
  have oneTerm : (termFrequencies text).size = 1 := by
    rw [termFrequencies, one]
    rfl
  rw [similarity?, similarity?, knownFree order, knownFree other, textFree asked, textFree again]
  cases (TermVector.ofText? .ofKeys known.text : Option (TermVector R)) with
  | none => rfl
  | some vector =>
      cases question : (TermVector.ofText? .ofKeys text : Option (TermVector R)) with
      | none => rfl
      | some asked =>
          have small := (TermVector.size_of_ofText? question).trans_le oneTerm.le
          exact congrArg some (TermVector.cosine_eq_of_size_le_one rfl rfl small)

/-! ## Texts that are like a text -/

variable [LT R] [DecidableLT R]

/-- The labelled texts that are like a text in order, with how like it they are. -/
def alikeOf (orders : Nat → VectorOrder) (asked : VectorOrder) (labelled : List LabelledText)
    (text : String) : List (Neighbour R) :=
  labelled.zipIdx.filterMap fun known =>
    (similarity? (orders known.2) asked known.1.text text).bind fun similarity =>
      if Analytic.natural 0 < similarity then some ⟨known.1.label, similarity⟩ else none

variable {orders : Nat → VectorOrder} {asked : VectorOrder} {labelled : List LabelledText}
  {text : String}

theorem pos_of_mem_alikeOf {alike : Neighbour R}
    (member : alike ∈ alikeOf orders asked labelled text) :
    Analytic.natural 0 < alike.similarity := by
  obtain ⟨known, -, found⟩ := List.mem_filterMap.mp member
  obtain ⟨similarity, -, kept⟩ := Option.bind_eq_some_iff.mp found
  split at kept
  · rename_i pos
    rwa [← Option.some.inj kept]
  · cases kept

theorem alikeOf_eq_of_orderFree (free : OrderFree R labelled text)
    (orders others : Nat → VectorOrder) (asked again : VectorOrder) :
    (alikeOf orders asked labelled text : List (Neighbour R)) =
      alikeOf others again labelled text := by
  refine List.filterMap_congr fun known listed => ?_
  rw [free known.1 (List.fst_mem_of_mem_zipIdx listed)]

/-! ## Answers -/

variable [Ranked R]

namespace NearestNeighbours

/-- The trained texts that vote on a text, the nearest first. -/
def voters (classifier : NearestNeighbours R) (asked : VectorOrder) (text : String) :
    List (Neighbour R) :=
  match TermVector.ofText? asked text with
  | none => []
  | some question => classifier.neighbours question

theorem assign_eq {classifier : NearestNeighbours R} (trained : classifier.isTrained = true)
    (asked : VectorOrder) (text : String) :
    classifier.assign asked text = .ok (winner? (classifier.voters asked text)) := by
  rw [assign, if_pos trained, voters]
  cases (TermVector.ofText? asked text : Option (TermVector R)) <;> rfl

theorem voters_learntFrom (learner : NearestNeighbours R) :
    (learner.learntFrom orders labelled).voters asked text =
      (rankDescending Neighbour.similarity (alikeOf orders asked labelled text)).take
        learner.k := by
  rw [voters, alikeOf]
  cases question : (TermVector.ofText? asked text : Option (TermVector R)) with
  | none => simp [similarity?, question, rankDescending]
  | some asked =>
      refine congrArg (List.take learner.k ∘ rankDescending Neighbour.similarity) ?_
      rw [learntFrom, examplesOf, List.filterMap_filterMap]
      refine List.filterMap_congr fun known _ => ?_
      rw [similarity?, question]
      cases (TermVector.ofText? (orders known.2) known.1.text : Option (TermVector R)) <;> rfl

theorem assign_learntFrom (learner : NearestNeighbours R) :
    (learner.learntFrom orders labelled).assign asked text =
      .ok (winner? ((rankDescending Neighbour.similarity
        (alikeOf orders asked labelled text)).take learner.k)) := by
  rw [assign_eq rfl, voters_learntFrom]

end NearestNeighbours

omit [Add R] [Mul R] [Div R] [Analytic R] [LT R] [DecidableLT R] [Ranked R] in
theorem kind_eq_nearest {settings : ClassifierSettings} {learner : NearestNeighbours R}
    (chosen : TextClassifier.ofSettings? settings = some (.nearest learner)) :
    settings.kind = .nearest := by
  rw [TextClassifier.ofSettings?] at chosen
  split at chosen
  · rename_i nearest
    exact nearest
  · cases chosen
  · cases chosen

/-- What a classifier answers depends on orders through similarities only. -/
theorem assign_learntFrom_eq [Sub R] {settings : ClassifierSettings} {learner : TextClassifier R}
    (chosen : TextClassifier.ofSettings? settings = some learner)
    (free : settings.kind = .nearest → OrderFree R labelled text)
    (orders others : Nat → VectorOrder) (asked again : VectorOrder) :
    (learner.learntFrom orders labelled).assign asked text =
      (learner.learntFrom others labelled).assign again text := by
  cases learner with
  | nearest learner =>
      have alike := alikeOf_eq_of_orderFree (free (kind_eq_nearest chosen)) orders others asked
        again
      calc
        _ = (learner.learntFrom orders labelled).assign asked text := rfl
        _ = (learner.learntFrom others labelled).assign again text := by
          rw [learner.assign_learntFrom, learner.assign_learntFrom, alike]
  | bayes learner => rfl

end QuestionSearch.Classifier
