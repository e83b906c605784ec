import QuestionSearch.Proofs.Classifier.FloatVotes
import QuestionSearch.Proofs.Classifier.Agreement

/-!
# Votes of neighbours

The nearest of the labelled texts that are like a question vote for their classes. Votes are added
up class by class, in the order in which the classes first appear (`counted_foldl_addVote`), so that
the class that leads has a greatest total, and of those with one total it is that of the nearest
voter (`wins_of_leads`). No vote is lost or counted twice (`sum_totals`).
-/

namespace QuestionSearch.Classifier

open Grammar (ScoreOrder)

/-! ## Voters -/

section Totals

variable {R : Type} [Add R] [Analytic R]

/-- The sum of a list from its first term on. -/
def totalOf : List R → R
  | [] => Analytic.natural 0
  | first :: rest => rest.foldl (· + ·) first

theorem totalOf_append_singleton {terms : List R} (some : terms ≠ []) (term : R) :
    totalOf (terms ++ [term]) = totalOf terms + term := by
  cases terms with
  | nil => exact absurd rfl some
  | cons first rest => exact List.foldl_append

/-- The classes of some voters. -/
def classesOf (voters : List (Neighbour R)) : List String := voters.map Neighbour.label

omit [Add R] [Analytic R] in
theorem classesOf_append_singleton (voters : List (Neighbour R)) (voter : Neighbour R) :
    classesOf (voters ++ [voter]) = classesOf voters ++ [voter.label] := List.map_append

/-- The votes for a class. -/
def votesFor (voters : List (Neighbour R)) (label : String) : List R :=
  (voters.filter fun voter => voter.label = label).map Neighbour.similarity

/-- The sum of the votes for a class, nearer voters first. -/
def totalFor (voters : List (Neighbour R)) (label : String) : R := totalOf (votesFor voters label)

omit [Add R] [Analytic R] in
theorem votesFor_ne_nil_iff {voters : List (Neighbour R)} {label : String} :
    votesFor voters label ≠ [] ↔ label ∈ classesOf voters := by
  simp [votesFor, classesOf]

theorem totalFor_append_same {voters : List (Neighbour R)} {voter : Neighbour R}
    (voted : voter.label ∈ classesOf voters) :
    totalFor (voters ++ [voter]) voter.label =
      totalFor voters voter.label + voter.similarity := by
  have votes : votesFor (voters ++ [voter]) voter.label =
      votesFor voters voter.label ++ [voter.similarity] := by
    simp [votesFor]
  rw [totalFor, votes, totalOf_append_singleton (votesFor_ne_nil_iff.mpr voted), totalFor]

theorem totalFor_append_other {voters : List (Neighbour R)} {voter : Neighbour R} {label : String}
    (other : label ≠ voter.label) :
    totalFor (voters ++ [voter]) label = totalFor voters label := by
  simp [totalFor, votesFor, Ne.symm other]

theorem totalFor_append_first {voters : List (Neighbour R)} {voter : Neighbour R}
    (unheard : voter.label ∉ classesOf voters) :
    totalFor (voters ++ [voter]) voter.label = voter.similarity := by
  have none : votesFor voters voter.label = [] :=
    not_not.mp (mt votesFor_ne_nil_iff.mp unheard)
  have votes : votesFor (voters ++ [voter]) voter.label =
      votesFor voters voter.label ++ [voter.similarity] := by
    simp [votesFor]
  rw [totalFor, votes, none]
  rfl

end Totals

namespace NearestNeighbours

section Counting

variable {R : Type} [Add R]

theorem addVote_of_not_mem {votes : List (String × R)} {voter : Neighbour R}
    (unheard : voter.label ∉ votes.map Prod.fst) :
    addVote votes voter = votes ++ [(voter.label, voter.similarity)] := by
  induction votes with
  | nil => rfl
  | cons vote rest ih =>
      rw [List.map_cons, List.mem_cons, not_or] at unheard
      rw [addVote, if_neg (Ne.symm unheard.1), ih unheard.2, List.cons_append]

theorem addVote_of_mem {votes : List (String × R)} {voter : Neighbour R}
    (voted : voter.label ∈ votes.map Prod.fst) :
    ∃ earlier total later, votes = earlier ++ (voter.label, total) :: later ∧
      addVote votes voter = earlier ++ (voter.label, total + voter.similarity) :: later := by
  induction votes with
  | nil => cases voted
  | cons vote rest ih =>
      rw [addVote]
      split
      · rename_i same
        exact ⟨[], vote.2, rest, by rw [← same, List.nil_append], by rw [← same, List.nil_append]⟩
      · rename_i different
        have later := (List.mem_cons.mp voted).resolve_left (Ne.symm different)
        obtain ⟨earlier, total, others, restEq, addedEq⟩ := ih later
        exact ⟨vote :: earlier, total, others, by rw [restEq, List.cons_append],
          by rw [addedEq, List.cons_append]⟩

variable [Analytic R]

/-- Whether votes are counted by class, in the order in which the classes of the voters appear. -/
structure Counted (voters : List (Neighbour R)) (votes : List (String × R)) : Prop where
  /-- Just the classes of the voters are there. -/
  mem_iff : ∀ label, label ∈ votes.map Prod.fst ↔ label ∈ classesOf voters
  /-- Each has all its votes. -/
  total : ∀ vote ∈ votes, vote.2 = totalFor voters vote.1
  /-- A class with a nearer first voter stands before. -/
  ordered : (votes.map Prod.fst).Pairwise fun first second =>
    (classesOf voters).idxOf first < (classesOf voters).idxOf second

namespace Counted

variable {voters : List (Neighbour R)} {votes : List (String × R)}

theorem nodup (counted : Counted voters votes) : (votes.map Prod.fst).Nodup :=
  counted.ordered.imp fun before same => absurd (same ▸ before) (Nat.lt_irrefl _)

/-- A further voter does not change the order of the classes. -/
theorem ordered_append (counted : Counted voters votes) (voter : Neighbour R) :
    (votes.map Prod.fst).Pairwise fun first second =>
      (classesOf (voters ++ [voter])).idxOf first <
        (classesOf (voters ++ [voter])).idxOf second := by
  have place {label : String} (voted : label ∈ votes.map Prod.fst) :
      (classesOf (voters ++ [voter])).idxOf label = (classesOf voters).idxOf label := by
    rw [classesOf_append_singleton,
      List.idxOf_append_of_mem ((counted.mem_iff label).mp voted)]
  refine counted.ordered.imp_of_mem fun firstMem secondMem before => ?_
  rwa [place firstMem, place secondMem]

theorem addVote_of_mem (counted : Counted voters votes) {voter : Neighbour R}
    (voted : voter.label ∈ votes.map Prod.fst) :
    Counted (voters ++ [voter]) (addVote votes voter) := by
  obtain ⟨earlier, total, later, rfl, added⟩ := NearestNeighbours.addVote_of_mem voted
  have labels : (addVote (earlier ++ (voter.label, total) :: later) voter).map Prod.fst =
      (earlier ++ (voter.label, total) :: later).map Prod.fst := by
    simp [added]
  refine ⟨fun label => ?_, fun vote member => ?_, ?_⟩
  · rw [labels, counted.mem_iff, classesOf_append_singleton, List.mem_append,
      List.mem_singleton, or_iff_left_of_imp]
    rintro rfl
    exact (counted.mem_iff _).mp voted
  · have once : voter.label ∉ (earlier ++ later).map Prod.fst := by
      have nodup := counted.nodup
      rw [List.map_append, List.map_cons, List.nodup_middle, ← List.map_append] at nodup
      exact (List.nodup_cons.mp nodup).1
    rw [added, List.mem_append, List.mem_cons, or_left_comm, ← List.mem_append] at member
    rcases member with rfl | elsewhere
    · rw [totalFor_append_same ((counted.mem_iff _).mp voted),
        ← counted.total (voter.label, total) (by simp)]
    · have other : vote.1 ≠ voter.label := fun same =>
        once (same ▸ List.mem_map_of_mem elsewhere)
      rw [totalFor_append_other other]
      refine counted.total vote ?_
      rw [List.mem_append, List.mem_cons, or_left_comm, ← List.mem_append]
      exact Or.inr elsewhere
  · rw [labels]
    exact counted.ordered_append voter

theorem addVote_of_not_mem (counted : Counted voters votes) {voter : Neighbour R}
    (unheard : voter.label ∉ votes.map Prod.fst) :
    Counted (voters ++ [voter]) (addVote votes voter) := by
  have unheard' : voter.label ∉ classesOf voters := mt (counted.mem_iff _).mpr unheard
  rw [NearestNeighbours.addVote_of_not_mem unheard]
  refine ⟨fun label => ?_, fun vote member => ?_, ?_⟩
  · simp only [List.map_append, List.map_cons, List.map_nil, classesOf_append_singleton,
      List.mem_append, counted.mem_iff]
  · rcases List.mem_append.mp member with before | isLast
    · have other : vote.1 ≠ voter.label := fun same =>
        unheard (same ▸ List.mem_map_of_mem before)
      rw [totalFor_append_other other]
      exact counted.total vote before
    · obtain rfl := List.mem_singleton.mp isLast
      exact (totalFor_append_first unheard').symm
  · rw [List.map_append, List.pairwise_append]
    refine ⟨counted.ordered_append voter, List.pairwise_singleton _ _,
      fun first firstMem last lastMem => ?_⟩
    obtain rfl := List.mem_singleton.mp lastMem
    have heard := (counted.mem_iff first).mp firstMem
    rw [classesOf_append_singleton, List.idxOf_append_of_mem heard,
      List.idxOf_append_of_notMem unheard']
    exact Nat.lt_of_lt_of_le (List.idxOf_lt_length_iff.mpr heard) (Nat.le_add_right _ _)

/-- One more voter votes. -/
theorem addVote (counted : Counted voters votes) (voter : Neighbour R) :
    Counted (voters ++ [voter]) (addVote votes voter) := by
  by_cases voted : voter.label ∈ votes.map Prod.fst
  · exact counted.addVote_of_mem voted
  · exact counted.addVote_of_not_mem voted

end Counted

theorem counted_foldl_addVote (voters : List (Neighbour R)) :
    Counted voters (voters.foldl NearestNeighbours.addVote []) := by
  induction voters using List.reverseRecOn with
  | nil => exact ⟨fun _ => Iff.rfl, List.forall_mem_nil _, List.Pairwise.nil⟩
  | append_singleton before voter ih =>
      rw [List.foldl_append]
      exact ih.addVote voter

end Counting

/-! ## Winners -/

section Winning

variable {R : Type} [Add R] [Analytic R] [LT R] {voters : List (Neighbour R)}
  {votes : List (String × R)}

/-- Whether a class wins: no other one has a greater total, and of those whose total is no smaller
it has the nearest voter. -/
structure Wins (voters : List (Neighbour R)) (label : String) : Prop where
  /-- Someone votes for it. -/
  voted : label ∈ classesOf voters
  /-- No class has a greater total. -/
  greatest : ∀ other ∈ classesOf voters, ¬ totalFor voters label < totalFor voters other
  /-- A class whose total is not smaller has no nearer voter. -/
  nearest : ∀ other ∈ classesOf voters, ¬ totalFor voters other < totalFor voters label →
    (classesOf voters).idxOf label ≤ (classesOf voters).idxOf other

theorem wins_of_leads {IsVote : R → Prop} (order : ScoreOrder R IsVote)
    (counted : Counted voters votes) {best : String × R} (leads : Leads votes best) :
    Wins voters best.1 := by
  have ordered : votes.Pairwise fun first second =>
      (classesOf voters).idxOf first.1 < (classesOf voters).idxOf second.1 := by
    have ordered := counted.ordered
    rwa [List.pairwise_map] at ordered
  have bestTotal := counted.total best leads.mem
  have cast {other : String} (voted : other ∈ classesOf voters) :
      ∃ vote ∈ votes, vote.1 = other ∧ vote.2 = totalFor voters other := by
    obtain ⟨vote, member, rfl⟩ := List.mem_map.mp ((counted.mem_iff other).mpr voted)
    exact ⟨vote, member, rfl, counted.total vote member⟩
  refine ⟨(counted.mem_iff _).mp (List.mem_map_of_mem leads.mem), fun other voted => ?_,
    fun other voted notSmaller => ?_⟩
  · obtain ⟨vote, member, rfl, total⟩ := cast voted
    rw [← bestTotal, ← total]
    exact leads.not_lt order member trivial
  · obtain ⟨vote, member, rfl, total⟩ := cast voted
    rw [← bestTotal, ← total] at notSmaller
    exact Nat.not_lt.mp fun before => notSmaller
      (leads.lt_of_before (fun _ _ => Nat.lt_asymm) ordered member trivial before)

omit [Analytic R] in
theorem isVote_foldl_add {IsVote : R → Prop} (order : ScoreOrder R IsVote) {first : R}
    {rest : List R} (isVote : ∀ term ∈ first :: rest, IsVote term) :
    IsVote (rest.foldl (· + ·) first) := by
  induction rest generalizing first with
  | nil => exact isVote first List.mem_cons_self
  | cons second rest ih =>
      rw [List.forall_mem_cons, List.forall_mem_cons] at isVote
      obtain ⟨firstVote, secondVote, restVotes⟩ := isVote
      exact ih (List.forall_mem_cons.mpr ⟨order.isScore_add firstVote secondVote, restVotes⟩)

/-- A total of votes is a vote. -/
theorem isVote_totalFor {IsVote : R → Prop} (order : ScoreOrder R IsVote)
    (isVote : ∀ voter ∈ voters, IsVote voter.similarity) {label : String}
    (voted : label ∈ classesOf voters) : IsVote (totalFor voters label) := by
  have votes : ∀ vote ∈ votesFor voters label, IsVote vote := by
    intro vote member
    obtain ⟨voter, voterMem, rfl⟩ := List.mem_map.mp member
    exact isVote voter (List.mem_filter.mp voterMem).1
  rw [totalFor]
  cases votesEq : votesFor voters label with
  | nil => exact absurd votesEq (votesFor_ne_nil_iff.mpr voted)
  | cons first rest => exact isVote_foldl_add order (votesEq ▸ votes)

variable [Div R] [DecidableLT R]

/-- The class for which some voters decide, scored with its share of all votes. -/
def winner? (voters : List (Neighbour R)) : Option (Classification R) :=
  let votes := voters.foldl addVote []
  (votes.foldl better none).map fun best => ⟨best.1, best.2 / sumOf (votes.map Prod.snd)⟩

theorem winner?_eq_none_iff : winner? voters = none ↔ voters = [] := by
  simp [winner?, foldl_better_eq_none_iff, foldl_addVote_eq_nil_iff]

/-- The winner has its total of the votes. -/
theorem wins_of_winner? {IsVote : R → Prop} (order : ScoreOrder R IsVote)
    (isVote : ∀ voter ∈ voters, IsVote voter.similarity) {guess : Classification R}
    (won : winner? voters = some guess) :
    Wins voters guess.label ∧
      guess.score = totalFor voters guess.label /
        sumOf ((voters.foldl addVote []).map Prod.snd) := by
  have counted := counted_foldl_addVote voters
  obtain ⟨best, found, rfl⟩ := Option.map_eq_some_iff.mp won
  have leads : Leads (voters.foldl addVote []) best := by
    cases votesEq : voters.foldl addVote [] with
    | nil =>
        rw [votesEq] at found
        cases found
    | cons first rest =>
        rw [votesEq, List.foldl_cons, show better none first = some first from rfl,
          foldl_better_some] at found
        rw [← Option.some.inj found]
        refine leads_foldl_better order fun vote member => ?_
        rw [← votesEq] at member
        rw [counted.total vote member]
        exact isVote_totalFor order isVote
          ((counted.mem_iff _).mp (List.mem_map_of_mem member))
  exact ⟨wins_of_leads order counted leads, by rw [← counted.total best leads.mem]⟩

end Winning

/-! ## Exact votes -/

section Exact

variable {voters : List (Neighbour ℝ)}

theorem totalOf_real (terms : List ℝ) : totalOf terms = terms.sum := by
  cases terms with
  | nil => simp [totalOf]
  | cons first rest => rw [totalOf, List.sum_eq_foldl, List.foldl_cons, zero_add]

theorem sum_addVote (votes : List (String × ℝ)) (voter : Neighbour ℝ) :
    ((addVote votes voter).map Prod.snd).sum = (votes.map Prod.snd).sum + voter.similarity := by
  induction votes with
  | nil => simp [addVote]
  | cons vote rest ih =>
      rw [addVote]
      split
      · simp only [List.map_cons, List.sum_cons]
        ring
      · simp only [List.map_cons, List.sum_cons, ih]
        ring

/-- No vote is lost and none is counted twice. -/
theorem sum_foldl_addVote (voters : List (Neighbour ℝ)) :
    ((voters.foldl addVote []).map Prod.snd).sum = (voters.map Neighbour.similarity).sum := by
  induction voters using List.reverseRecOn with
  | nil => rfl
  | append_singleton before voter ih =>
      rw [List.foldl_append, List.foldl_cons, List.foldl_nil, sum_addVote, ih, List.map_append,
        List.sum_append, List.map_singleton, List.sum_singleton]

/-- The totals of all classes add up to all votes. -/
theorem sum_totals (voters : List (Neighbour ℝ)) :
    ∑ label ∈ (classesOf voters).toFinset, totalFor voters label =
      (voters.map Neighbour.similarity).sum := by
  have counted := counted_foldl_addVote voters
  have labels : ((voters.foldl addVote []).map Prod.fst).toFinset =
      (classesOf voters).toFinset := by
    ext label
    rw [List.mem_toFinset, List.mem_toFinset, counted.mem_iff]
  rw [← labels, List.sum_toFinset _ counted.nodup, ← sum_foldl_addVote, List.map_map]
  exact congrArg List.sum (List.map_congr_left fun vote member =>
    (counted.total vote member).symm)

theorem totalFor_pos (pos : ∀ voter ∈ voters, 0 < voter.similarity) {label : String}
    (voted : label ∈ classesOf voters) : 0 < totalFor voters label := by
  rw [totalFor, totalOf_real]
  refine List.sum_pos _ (fun vote member => ?_) (votesFor_ne_nil_iff.mpr voted)
  obtain ⟨voter, voterMem, rfl⟩ := List.mem_map.mp member
  exact pos voter (List.mem_filter.mp voterMem).1

/-- The score of a winner is its share of all votes, and so an equal share at least. -/
theorem score_of_winner? (pos : ∀ voter ∈ voters, 0 < voter.similarity)
    {guess : Classification ℝ} (won : winner? voters = some guess) :
    guess.score = totalFor voters guess.label / (voters.map Neighbour.similarity).sum ∧
      1 / ((classesOf voters).toFinset.card : ℝ) ≤ guess.score ∧ guess.score ≤ 1 := by
  obtain ⟨wins, score⟩ := wins_of_winner? scoreOrder_real (fun _ _ => trivial) won
  rw [sumOf_real, sum_foldl_addVote] at score
  refine ⟨score, ?_⟩
  rw [score, ← sum_totals]
  refine share_of_best (fun label member => totalFor_pos pos (List.mem_toFinset.mp member))
    (List.mem_toFinset.mpr wins.voted) fun label member => ?_
  exact not_lt.mp (wins.greatest label (List.mem_toFinset.mp member))

end Exact

end NearestNeighbours

end QuestionSearch.Classifier
