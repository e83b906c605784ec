import QuestionSearch.Proofs.Classifier.ClassCounts
import QuestionSearch.Proofs.Classifier.Cosines

/-!
# The vote of the nearest

A trained classifier asks the labelled texts that are like a text, the nearest first and of equally
near ones the earlier one, as many as may vote (`areNearest_take`). Its guess is the class that
wins their vote, in floating-point as well as in exact arithmetic, and in exact arithmetic the score
is the share of the votes for this class (`nearest_decide`).
-/

namespace QuestionSearch.Classifier

open QuestionSearch.Text

section Nearest

variable {R : Type} [Add R] [Mul R] [Div R] [LT R] [DecidableLT R] [Analytic R]

/-- Whether some voters are the first ones of some texts, as many as may vote: greater similarities
come first, and of equal ones the earlier text. -/
def AreNearest (alike : List (Neighbour R)) (count : Nat) (voters : List (Neighbour R)) : Prop :=
  ∃ ranked : List (Neighbour R × Nat), ranked.Perm alike.zipIdx ∧
    (ranked.Pairwise fun first second => second.1.similarity < first.1.similarity ∨
      first.1.similarity = second.1.similarity ∧ first.2 < second.2) ∧
    voters = (ranked.take count).map Prod.fst

omit [Mul R] [Div R] [DecidableLT R] [Add R] [Analytic R] in
theorem AreNearest.mem {alike voters : List (Neighbour R)} {count : Nat}
    (nearest : AreNearest alike count voters) {voter : Neighbour R} (member : voter ∈ voters) :
    voter ∈ alike := by
  obtain ⟨ranked, perm, -, rfl⟩ := nearest
  obtain ⟨indexed, indexedMem, rfl⟩ := List.mem_map.mp member
  exact List.fst_mem_of_mem_zipIdx (perm.mem_iff.mp (List.mem_of_mem_take indexedMem))

variable [Ranked R]

omit [Mul R] [Div R] [DecidableLT R] in
theorem areNearest_take {IsVote : R → Prop} (laws : VoteLaws R IsVote)
    {alike : List (Neighbour R)} (pos : ∀ text ∈ alike, Analytic.natural 0 < text.similarity)
    (count : Nat) :
    AreNearest alike count ((rankDescending Neighbour.similarity alike).take count) := by
  have perm := perm_rankDescending (fun text : Neighbour R × Nat => text.1.similarity)
    alike.zipIdx
  have ordered : alike.zipIdx.Pairwise fun first second => first.2 < second.2 := by
    rw [← List.pairwise_map, List.zipIdx_map_snd]
    exact List.pairwise_lt_range'
  have posIndexed {text : Neighbour R × Nat}
      (member : text ∈ rankDescending (fun text => text.1.similarity) alike.zipIdx) :
      Analytic.natural 0 < text.1.similarity :=
    pos _ (List.fst_mem_of_mem_zipIdx (perm.mem_iff.mp member))
  refine ⟨rankDescending (fun text => text.1.similarity) alike.zipIdx, perm, ?_, ?_⟩
  · refine (pairwise_rankDescending laws.ranks ordered).imp_of_mem
      fun firstMem secondMem => ?_
    exact Or.imp_left (laws.lt_of_not_atMost (posIndexed firstMem) (posIndexed secondMem))
  · rw [List.map_take, map_rankDescending Neighbour.similarity Prod.fst, List.zipIdx_map_fst]

namespace NearestNeighbours

/-- Whether an answer to a text is the vote of the nearest of the texts that are like it. -/
structure AnswersByVote (alike : List (Neighbour R)) (count : Nat) (voters : List (Neighbour R))
    (answer : Option (Classification R)) : Prop where
  /-- The nearest ones vote. -/
  nearest : AreNearest alike count voters
  /-- There is a guess if and only if there are such texts. -/
  eq_none_iff : answer = none ↔ alike = []
  /-- The guess is the class that wins. -/
  wins : ∀ guess, answer = some guess → Wins voters guess.label

omit [Mul R] [Div R] [DecidableLT R] [Ranked R] in
/-- Where all texts that are like a text are of one class, this is the guess. -/
theorem AnswersByVote.unanimous {alike voters : List (Neighbour R)} {count : Nat}
    {answer : Option (Classification R)} (byVote : AnswersByVote alike count voters answer)
    {label : String} (same : (classesOf alike).toFinset = {label}) :
    ∃ guess, answer = some guess ∧ guess.label = label := by
  have only (other : String) : other ∈ classesOf alike ↔ other = label := by
    rw [← List.mem_toFinset, same, Finset.mem_singleton]
  have like : alike ≠ [] := by
    rintro rfl
    exact List.not_mem_nil ((only label).mpr rfl)
  obtain ⟨guess, won⟩ := Option.ne_none_iff_exists'.mp (mt byVote.eq_none_iff.mp like)
  obtain ⟨voter, member, labelEq⟩ := List.mem_map.mp (byVote.wins guess won).voted
  refine ⟨guess, won, (only guess.label).mp ?_⟩
  rw [← labelEq]
  exact List.mem_map_of_mem (byVote.nearest.mem member)

omit [Mul R] [Div R] [DecidableLT R] [Ranked R] in
/-- One vote is for one class. -/
theorem AnswersByVote.card_classes_eq_one {alike voters : List (Neighbour R)} {count : Nat}
    {answer : Option (Classification R)} (byVote : AnswersByVote alike count voters answer)
    (single : count ≤ 1) {guess : Classification R} (won : answer = some guess) :
    (classesOf voters).toFinset.card = 1 := by
  obtain ⟨ranked, -, -, votersEq⟩ := byVote.nearest
  have atMost : (classesOf voters).toFinset.card ≤ 1 := by
    refine (List.toFinset_card_le _).trans ?_
    rw [classesOf, votersEq, List.length_map, List.length_map, List.length_take]
    exact (min_le_left _ _).trans single
  refine le_antisymm atMost (Finset.card_pos.mpr ⟨guess.label, ?_⟩)
  exact List.mem_toFinset.mpr (byVote.wins guess won).voted

/-- A trained classifier answers by vote. -/
theorem answersByVote_winner? {IsVote : R → Prop} (laws : VoteLaws R IsVote)
    {learner : NearestNeighbours R} (votes : 0 < learner.k) (orders : Nat → VectorOrder)
    (asked : VectorOrder) (labelled : List LabelledText) (text : String) :
    let voters := (learner.learntFrom orders labelled).voters asked text
    AnswersByVote (alikeOf orders asked labelled text) learner.k voters (winner? voters) := by
  intro voters
  have votersEq : voters =
      (rankDescending Neighbour.similarity (alikeOf orders asked labelled text)).take learner.k :=
    learner.voters_learntFrom
  have nearest : AreNearest (alikeOf orders asked labelled text) learner.k voters :=
    votersEq ▸ areNearest_take laws (fun _ => pos_of_mem_alikeOf) learner.k
  refine ⟨nearest, ?_, fun guess won => ?_⟩
  · rw [winner?_eq_none_iff, votersEq, List.take_eq_nil_iff, or_iff_right (Nat.ne_of_gt votes)]
    exact ⟨fun none => List.Perm.nil_eq (none ▸ perm_rankDescending _ _) |>.symm,
      fun none => by simp [none, rankDescending]⟩
  · refine (wins_of_winner? laws.order (fun voter member => ?_) won).1
    exact laws.isVote_of_pos (pos_of_mem_alikeOf (nearest.mem member))

end NearestNeighbours

end Nearest

section Exact

variable (orders : Nat → VectorOrder) (asked : VectorOrder) (labelled : List LabelledText)
  (text : String)

/-- In exact arithmetic the texts that are like a text are those with a positive cosine, in whatever
orders the cosines are computed. -/
theorem alikeOf_real :
    alikeOf orders asked labelled text =
      (labelled.map fun known => (⟨known.label, textCosine known.text text⟩ : Neighbour ℝ)).filter
        fun alike => 0 < alike.similarity := by
  have unlike {known : String} (noTerm : analyze known = [] ∨ analyze text = []) :
      ¬ 0 < textCosine known text := by
    rw [textCosine_pos_iff]
    rcases noTerm with noTerm | noTerm <;> simp [noTerm]
  have kept (known : LabelledText) (order : VectorOrder) :
      ((similarity? order asked known.text text).bind fun similarity =>
          if Analytic.natural 0 < similarity then
            some (⟨known.label, similarity⟩ : Neighbour ℝ) else none) =
        Option.guard (fun alike => 0 < alike.similarity)
          ⟨known.label, textCosine known.text text⟩ := by
    rw [similarity?_real]
    split
    · rename_i noTerm
      simp [Option.guard, unlike noTerm]
    · simp [Option.guard]
  calc
    _ = labelled.zipIdx.filterMap ((fun known => Option.guard (fun alike => 0 < alike.similarity)
          (⟨known.label, textCosine known.text text⟩ : Neighbour ℝ)) ∘ Prod.fst) :=
        List.filterMap_congr fun known _ => kept known.1 (orders known.2)
    _ = _ := by
        rw [← List.filterMap_map, List.zipIdx_map_fst, ← List.filterMap_eq_filter,
          List.filterMap_map]
        rfl

/-- These are the texts that share a term with it. -/
theorem classesOf_alikeOf_real :
    classesOf (alikeOf orders asked labelled text : List (Neighbour ℝ)) =
      (labelled.filter fun known : LabelledText =>
        ∃ term ∈ analyze known.text, term ∈ analyze text).map LabelledText.label := by
  rw [classesOf, alikeOf_real, List.filter_map, List.map_map]
  refine congrArg (List.map _) (List.filter_congr fun known _ => ?_)
  exact decide_eq_decide.mpr textCosine_pos_iff

end Exact

namespace NearestNeighbours

/-- Whatever it was trained on, a classifier answers by the vote of the nearest of the labelled
texts that are like a text, in floating-point as well as in exact arithmetic, and however hash
tables are ordered. In exact arithmetic these are the texts with a positive cosine, and the score of
a guess is its share of all votes, which is an equal share at least, and the whole if all voters are
of one class. -/
theorem nearest_decide (k : Nat) (corpus : List Document) (textField classField : String)
    (orders : Nat → VectorOrder) (asked : VectorOrder) :
    let labelled := labelledTexts corpus textField classField
    (∀ learnt : NearestNeighbours Float,
      (train orders corpus textField classField).on (untrained k) = (.ok (), learnt) →
      ∀ text, ∃ voters answer, learnt.assign asked text = .ok answer ∧
        AnswersByVote (alikeOf orders asked labelled text) (max k 1) voters answer) ∧
      ∀ learnt : NearestNeighbours ℝ,
        (train orders corpus textField classField).on (untrained k) = (.ok (), learnt) → ∀ text,
          alikeOf orders asked labelled text = (labelled.map fun known =>
              (⟨known.label, textCosine known.text text⟩ : Neighbour ℝ)).filter
            (fun alike => 0 < alike.similarity) ∧
          ∃ voters answer, learnt.assign asked text = .ok answer ∧
            AnswersByVote (alikeOf orders asked labelled text) (max k 1) voters answer ∧
            ∀ guess, answer = some guess →
              let classes := (classesOf voters).toFinset
              guess.score =
                  totalFor voters guess.label / (voters.map Neighbour.similarity).sum ∧
                1 / (classes.card : ℝ) ≤ guess.score ∧ guess.score ≤ 1 ∧
                (classes.card = 1 → guess.score = 1) ∧ (k ≤ 1 → guess.score = 1) := by
  intro labelled
  refine ⟨fun learnt trained text => ?_, fun learnt trained text => ?_⟩
  · obtain ⟨-, rfl⟩ := on_train_eq_ok_iff.mp trained
    exact ⟨_, _, assign_eq rfl asked text,
      answersByVote_winner? voteLaws_float (pos_k_untrained k) orders asked labelled text⟩
  · obtain ⟨-, rfl⟩ := on_train_eq_ok_iff.mp trained
    have byVote := answersByVote_winner? voteLaws_real (pos_k_untrained k) orders asked labelled
      text
    refine ⟨alikeOf_real orders asked labelled text, _, _, assign_eq rfl asked text, byVote,
      fun guess won => ?_⟩
    have pos : ∀ voter ∈
        ((untrained k).learntFrom orders labelled : NearestNeighbours ℝ).voters asked text,
        0 < voter.similarity := fun voter member => by
      simpa using pos_of_mem_alikeOf (byVote.nearest.mem member)
    obtain ⟨score, atLeast, atMost⟩ := score_of_winner? pos won
    have whole (one : (classesOf (((untrained k).learntFrom orders labelled :
        NearestNeighbours ℝ).voters asked text)).toFinset.card = 1) : guess.score = 1 := by
      rw [one, Nat.cast_one, div_one] at atLeast
      exact le_antisymm atMost atLeast
    refine ⟨score, atLeast, atMost, whole, fun single => whole ?_⟩
    exact byVote.card_classes_eq_one (max_le single le_rfl) won

theorem on_train_forest (R : Type) [Add R] [Mul R] [Div R] [Analytic R]
    (orders : Nat → VectorOrder) (k : Nat) :
    (train orders forest titleField typeField).on (untrained k : NearestNeighbours R) =
      (.ok (),
        (untrained k).learntFrom orders (labelledTexts forest titleField typeField)) :=
  on_train_eq_ok_iff.mpr ⟨hasTerms_forest, rfl⟩

/-- Something old is like both pages, and so surely a page. -/
theorem nearest_decide_forest :
    (∃ learnt : NearestNeighbours Float,
      (train (fun _ => .ofKeys) forest titleField typeField).on (untrained 1) = (.ok (), learnt) ∧
        ∃ guess, learnt.assign .ofKeys "old" = .ok (some guess) ∧ guess.label = "page") ∧
      ∃ learnt : NearestNeighbours ℝ,
        (train (fun _ => .ofKeys) forest titleField typeField).on (untrained 1) =
            (.ok (), learnt) ∧
          ∃ guess, learnt.assign .ofKeys "old" = .ok (some guess) ∧ guess.label = "page" ∧
            guess.score = 1 := by
  obtain ⟨float, real⟩ := nearest_decide 1 forest titleField typeField (fun _ => .ofKeys) .ofKeys
  refine ⟨⟨_, on_train_forest Float _ 1, ?_⟩, _, on_train_forest ℝ _ 1, ?_⟩
  · obtain ⟨voters, answer, assigned, byVote⟩ := float _ (on_train_forest Float _ 1) "old"
    have pages : (classesOf (alikeOf (fun _ => .ofKeys) .ofKeys
        (labelledTexts forest titleField typeField) "old" : List (Neighbour Float))).toFinset =
          {"page"} := by
      decide +kernel
    obtain ⟨guess, rfl, isPage⟩ := byVote.unanimous pages
    exact ⟨guess, assigned, isPage⟩
  · obtain ⟨alike, voters, answer, assigned, byVote, share⟩ :=
      real _ (on_train_forest ℝ _ 1) "old"
    have pages : (classesOf (alikeOf (fun _ => .ofKeys) .ofKeys
        (labelledTexts forest titleField typeField) "old" : List (Neighbour ℝ))).toFinset =
          {"page"} := by
      rw [classesOf_alikeOf_real]
      decide +kernel
    obtain ⟨guess, rfl, isPage⟩ := byVote.unanimous pages
    obtain ⟨-, -, -, -, whole⟩ := share guess rfl
    exact ⟨guess, assigned, isPage, whole le_rfl⟩

end NearestNeighbours

end QuestionSearch.Classifier
