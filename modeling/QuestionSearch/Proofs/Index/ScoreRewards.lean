import QuestionSearch.Proofs.Index.RankedSearch
import QuestionSearch.Proofs.RoundedArithmetic

/-!
# What scores reward

No term is had by more documents than there are, so that one plus the logarithm of what a term is
weighted by stays above zero (`inverseFrequency_pos`) and its square falls as more documents have
the term (`inverseFrequency_sq_lt`). A match of a clause with a positive boost thus always adds to a
score (`clauseScore_pos`). Also where results are rounded, documents with more occurrences of a term
in fields that are no longer score no less (`roundedScore_le`), since to multiply by a weight twice
keeps the order of numbers whatever the sign of the weight is (`monotone_weighTwice`).
-/

namespace QuestionSearch.Index

open QuestionSearch.Query

/-! ## Rare terms -/

namespace IndexSchema

variable {schema otherSchema : IndexSchema} {corpus compared : List Document}

theorem documentFrequency_le_length {R : Type} (clause : Clause R) :
    schema.documentFrequency corpus clause ≤ corpus.length :=
  List.countP_le_length

theorem inverseFrequency_real (clause : Clause ℝ) :
    schema.inverseFrequency corpus clause =
      1 + Real.log (corpus.length / (schema.documentFrequency corpus clause + 1)) := by
  simp [inverseFrequency]

/-- The documents are at least half as many as one more than those that have a term. -/
theorem half_le_length_div (some : 0 < corpus.length) (clause : Clause ℝ) :
    1 / 2 ≤ (corpus.length : ℝ) / (schema.documentFrequency corpus clause + 1) := by
  have atMost : (schema.documentFrequency corpus clause : ℝ) ≤ corpus.length :=
    Nat.cast_le.mpr (schema.documentFrequency_le_length clause)
  have atLeast : (1 : ℝ) ≤ corpus.length := Nat.one_le_cast.mpr some
  rw [div_le_div_iff₀ two_pos (by positivity)]
  linarith

/-- The weight of a term is positive. -/
theorem inverseFrequency_pos (some : 0 < corpus.length) (clause : Clause ℝ) :
    0 < schema.inverseFrequency corpus clause := by
  have atLeast : Real.log (1 / 2) ≤
      Real.log (corpus.length / (schema.documentFrequency corpus clause + 1)) :=
    Real.log_le_log one_half_pos (half_le_length_div some clause)
  have half : -1 < Real.log (1 / 2) := by
    rw [one_div, Real.log_inv]
    linarith [Real.log_two_lt_d9]
  rw [inverseFrequency_real]
  linarith

/-- The square of the weight is smaller where more of as many documents have a term. -/
theorem inverseFrequency_sq_lt {clause other : Clause ℝ}
    (size : compared.length = corpus.length)
    (rarer : schema.documentFrequency corpus clause <
      otherSchema.documentFrequency compared other) :
    otherSchema.inverseFrequency compared other ^ 2 <
      schema.inverseFrequency corpus clause ^ 2 := by
  have some : 0 < compared.length :=
    (Nat.zero_le _).trans_lt (rarer.trans_le (otherSchema.documentFrequency_le_length other))
  refine pow_lt_pow_left₀ ?_ (inverseFrequency_pos some other).le two_ne_zero
  rw [inverseFrequency_real, inverseFrequency_real, ← size]
  have documents : (0 : ℝ) < compared.length := Nat.cast_pos.mpr some
  refine add_lt_add_right (Real.log_lt_log (by positivity) ?_) 1
  exact div_lt_div_of_pos_left documents (by positivity)
    (add_lt_add_left (Nat.cast_lt.mpr rarer) 1)

/-! ## Positive scores -/

/-- What a match of a clause with a positive boost adds to a score is positive. -/
theorem clauseScore_pos {document : Document} {clause : Clause ℝ} (some : 0 < corpus.length)
    (has : schema.hasTerm document clause = true) (boost : 0 < clause.boost) :
    0 < schema.clauseScore corpus document clause := by
  have rarity : 0 < schema.inverseFrequency corpus clause := inverseFrequency_pos some clause
  have frequency : 0 < √(schema.termFrequency document clause : ℝ) :=
    Real.sqrt_pos.mpr (Nat.cast_pos.mpr (of_decide_eq_true has))
  have length : 0 < √(schema.fieldLength document clause : ℝ) :=
    Real.sqrt_pos.mpr (Nat.cast_pos.mpr (fieldLength_pos_of_hasTerm has))
  simp only [clauseScore, sqrt_real, natural_real, Nat.cast_one]
  positivity

/-- A document that matches a plan with positive boosts has a positive score. -/
theorem planScore_pos {document : Document} {plan : QueryPlan ℝ} (some : 0 < corpus.length)
    (has : plan.any (schema.hasTerm document) = true)
    (boosts : ∀ clause ∈ plan, 0 < clause.boost) :
    0 < schema.planScore corpus plan document := by
  rw [planScore, sumOf_real]
  refine List.sum_pos _ (fun added member => ?_) ?_
  · obtain ⟨clause, clauseMem, rfl⟩ := List.mem_map.mp member
    obtain ⟨asked, clauseHas⟩ := List.mem_filter.mp clauseMem
    exact clauseScore_pos some clauseHas (boosts clause asked)
  · obtain ⟨clause, asked, clauseHas⟩ := List.any_eq_true.mp has
    exact List.ne_nil_of_mem (List.mem_map_of_mem (List.mem_filter.mpr ⟨asked, clauseHas⟩))

end IndexSchema

/-! ## Repeated terms and short fields -/

/-- A number weighted twice, rounded each time. -/
def weighTwice (round : ℝ → ℝ) (weight number : ℝ) : ℝ :=
  round (round (number * weight) * weight)

theorem monotone_weighTwice {round : ℝ → ℝ} (monotone : Monotone round) (weight : ℝ) :
    Monotone (weighTwice round weight) := by
  intro less more below
  -- A negative weight turns the order around, and then around again.
  rcases le_total 0 weight with nonneg | nonpos
  · exact monotone (mul_le_mul_of_nonneg_right
      (monotone (mul_le_mul_of_nonneg_right below nonneg)) nonneg)
  · exact monotone (mul_le_mul_of_nonpos_right
      (monotone (mul_le_mul_of_nonpos_right below nonpos)) nonpos)

/-- The rounded score of a match with the boost and the weight of its clause, how often the term
occurs, and how many terms the field has. -/
noncomputable def roundedScore (round : ℝ → ℝ) (boost weight : ℝ) (frequency length : Nat) : ℝ :=
  round (round (weighTwice round weight (round (boost * round √(round frequency))) *
    round (1 / round √(round length))))

section Rounded

variable {R : Type} [Add R] [Mul R] [Div R] [Analytic R] {IsFinite : R → Prop} {value : R → ℝ}
  {round : ℝ → ℝ} (rounds : RoundsMonotonically R IsFinite value round)

include rounds

theorem weighTwice_zero (weight : ℝ) : weighTwice round weight 0 = 0 := by
  rw [weighTwice, zero_mul, rounds.round_zero, zero_mul, rounds.round_zero]

/-- More occurrences in a field that is no longer do not bring a score nearer to zero. -/
theorem roundedScore_le (weight : ℝ) {boost : ℝ} {less more long short : Nat}
    (frequencies : less ≤ more) (lengths : short ≤ long) (some : 1 ≤ short) :
    (0 ≤ boost →
      roundedScore round boost weight less long ≤ roundedScore round boost weight more short) ∧
      (boost ≤ 0 →
        roundedScore round boost weight more short ≤
          roundedScore round boost weight less long) := by
  have loudness := rounds.round_sqrt_le frequencies
  have silence : 0 ≤ round √(round less) := rounds.round_nonneg (Real.sqrt_nonneg _)
  have shorter : round (1 / round √(round long)) ≤ round (1 / round √(round short)) :=
    rounds.monotone (one_div_le_one_div_of_le (one_pos.trans_le (rounds.one_le_round_sqrt some))
      (rounds.round_sqrt_le lengths))
  have norm : 0 ≤ round (1 / round √(round long)) :=
    rounds.round_nonneg (one_div_nonneg.mpr
      (zero_le_one.trans (rounds.one_le_round_sqrt (some.trans lengths))))
  have twice := monotone_weighTwice rounds.monotone weight
  constructor
  · intro nonneg
    have weighed : weighTwice round weight (round (boost * round √(round less))) ≤
        weighTwice round weight (round (boost * round √(round more))) :=
      twice (rounds.monotone (mul_le_mul_of_nonneg_left loudness nonneg))
    have above : 0 ≤ weighTwice round weight (round (boost * round √(round more))) := by
      rw [← weighTwice_zero rounds weight]
      exact twice (rounds.round_nonneg (mul_nonneg nonneg (silence.trans loudness)))
    exact rounds.monotone (rounds.monotone (mul_le_mul weighed shorter norm above))
  · intro nonpos
    have weighed : weighTwice round weight (round (boost * round √(round more))) ≤
        weighTwice round weight (round (boost * round √(round less))) :=
      twice (rounds.monotone (mul_le_mul_of_nonpos_left loudness nonpos))
    have below : weighTwice round weight (round (boost * round √(round more))) ≤ 0 := by
      rw [← weighTwice_zero rounds weight]
      exact twice (rounds.round_nonpos
        (mul_nonpos_of_nonpos_of_nonneg nonpos (silence.trans loudness)))
    refine rounds.monotone (rounds.monotone ?_)
    exact (mul_le_mul_of_nonpos_left shorter below).trans (mul_le_mul_of_nonneg_right weighed norm)

/-- A finite score of a document that matches one clause, as it is rounded. -/
theorem value_planScore {schema : IndexSchema} {corpus : List Document} {document : Document}
    {plan : QueryPlan R} {clause : Clause R}
    (only : plan.filter (schema.hasTerm document) = [clause])
    (finiteLength : IsFinite (Analytic.natural (schema.fieldLength document clause)))
    (finite : IsFinite (schema.planScore corpus plan document)) :
    value (schema.planScore corpus plan document) =
      roundedScore round (value clause.boost) (value (schema.inverseFrequency corpus clause))
        (schema.termFrequency document clause) (schema.fieldLength document clause) := by
  have has : schema.hasTerm document clause = true :=
    (List.mem_filter.mp (only ▸ List.mem_singleton_self clause)).2
  have sum : schema.planScore corpus plan document =
      Analytic.natural 0 + schema.clauseScore corpus document clause := by
    rw [IndexSchema.planScore, only]
    rfl
  have length : 1 ≤ schema.fieldLength document clause := fieldLength_pos_of_hasTerm has
  have frequency : schema.termFrequency document clause ≤ schema.fieldLength document clause :=
    termFrequency_le_fieldLength document clause
  have finiteFrequency := rounds.isFinite_natural frequency finiteLength
  rw [sum] at finite ⊢
  obtain ⟨-, added, sumEq⟩ := rounds.add finite
  obtain ⟨weighedTwice, norm, productEq⟩ := rounds.mul added
  obtain ⟨weighedOnce, -, twiceEq⟩ := rounds.mul weighedTwice
  obtain ⟨loud, -, onceEq⟩ := rounds.mul weighedOnce
  have normEq : value (Analytic.natural 1 / Analytic.sqrt (Analytic.natural
      (schema.fieldLength document clause))) =
        round (1 / round √(round (schema.fieldLength document clause))) := by
    obtain ⟨root, rootEq⟩ := rounds.sqrt_natural finiteLength
    have one := rounds.isFinite_natural length finiteLength
    have divisor : value (Analytic.sqrt (Analytic.natural
        (schema.fieldLength document clause))) ≠ 0 := by
      rw [rootEq]
      exact (one_pos.trans_le (rounds.one_le_round_sqrt length)).ne'
    rw [rounds.div one root divisor norm, rootEq, rounds.natural one, Nat.cast_one,
      rounds.round_one]
  rw [sumEq, rounds.natural (rounds.isFinite_natural (Nat.zero_le _) finiteLength), Nat.cast_zero,
    rounds.round_zero, zero_add, IndexSchema.clauseScore, productEq, twiceEq, onceEq,
    (rounds.mul loud).2.2, (rounds.sqrt_natural finiteFrequency).2, normEq]
  rfl

end Rounded

/-! ## Scores in published states -/

namespace IndexState.Consistent

variable {R : Type} [Add R] [Mul R] [Div R] [Analytic R] [Ranked R] {schema : IndexSchema}
  {state : IndexState} {plan : QueryPlan R} {limit : Nat} {hit : Hit R}

/-- What a search gives are hits of documents that match. -/
theorem exists_document_of_mem_search (consistent : state.Consistent schema)
    (member : hit ∈ state.search plan limit) :
    ∃ document ∈ schema.matching state.corpus plan,
      hit = schema.hitOf state.corpus plan document := by
  rw [search_eq_take_ranked] at member
  have found := consistent.perm_ranked.mem_iff.mp (List.mem_of_mem_take member)
  obtain ⟨document, matched, rfl⟩ := List.mem_map.mp found
  exact ⟨document, matched, rfl⟩

/-- The score of a hit is that of the document at its path. -/
theorem score_of_mem_search (consistent : state.Consistent schema)
    (member : hit ∈ state.search plan limit) {document : Document}
    (found : state.get? hit.path = some document) :
    hit.score = schema.planScore state.corpus plan document := by
  obtain ⟨other, matched, rfl⟩ := consistent.exists_document_of_mem_search member
  have listed := consistent.mem_corpus_iff.mp (List.mem_filter.mp matched).1
  obtain rfl : other = document := Option.some.inj (listed.symm.trans found)
  rfl

/-- A document that matches has a hit in a search that may give as many as there are documents. -/
theorem exists_hit_of_hasTerm (consistent : state.Consistent schema) {document : Document}
    (listed : document ∈ state.corpus) {clause : Clause R} (asked : clause ∈ plan)
    (has : schema.hasTerm document clause = true) (enough : state.size ≤ limit) :
    ∃ hit ∈ state.search plan limit,
      hit.path = document.path ∧ state.get? hit.path = some document := by
  obtain ⟨indexed, member, rfl, terms⟩ := consistent.exists_indexed listed
  obtain ⟨hit, hitMem, path, -⟩ := IndexState.exists_hit_of_isMatch member asked
    ((isMatch_eq_hasTerm terms clause).trans has) enough
  exact ⟨hit, hitMem, path, path ▸ consistent.mem_corpus_iff.mp listed⟩

end IndexState.Consistent

/-- Whether the weight of the term of a clause is well-defined in a state and positive. -/
structure IsWeighed (schema : IndexSchema) (state : IndexState) (clause : Clause ℝ) : Prop where
  /-- There are no more documents that have the term than documents. -/
  atMost : schema.documentFrequency state.corpus clause ≤ state.size
  /-- Documents are divided by a positive number. -/
  divisor_pos : (0 : ℝ) < schema.documentFrequency state.corpus clause + 1
  /-- The logarithm is of a positive number. -/
  quotient_pos : (0 : ℝ) < state.size / (schema.documentFrequency state.corpus clause + 1)
  /-- The weight is one plus the logarithm. -/
  rarity_eq : rarity state.documents.values clause =
    1 + Real.log (state.size / (schema.documentFrequency state.corpus clause + 1))
  /-- The weight is positive. -/
  rarity_pos : 0 < rarity state.documents.values clause

/-- Whether what a matching clause adds is well-defined, and positive for a positive boost. -/
structure IsRewarded (state : IndexState) (indexed : IndexedDocument) (clause : Clause ℝ) :
    Prop where
  /-- The root is of a positive number of occurrences. -/
  frequency_pos : 0 < indexed.frequency clause
  /-- The other root is of a positive number of terms, and that root is what is divided by. -/
  length_pos : 0 < indexed.fieldLength clause
  /-- What is added, as a product and a quotient. -/
  contribution_eq : contribution indexed clause (rarity state.documents.values clause) =
    clause.boost * √(indexed.frequency clause) * rarity state.documents.values clause ^ 2 /
      √(indexed.fieldLength clause)
  /-- What is added is positive if the boost is. -/
  contribution_pos : 0 < clause.boost →
    0 < contribution indexed clause (rarity state.documents.values clause)

/-- Whether a finite score is that of a document that matches a single clause of a plan. -/
structure IsOnlyMatch {R : Type} [Analytic R] (IsFinite : R → Prop) (schema : IndexSchema)
    (state : IndexState) (plan : QueryPlan R) (clause : Clause R) (hit : Hit R)
    (document : Document) : Prop where
  /-- The document is at the path of the hit. -/
  found : state.get? hit.path = some document
  /-- It has the term of this clause only. -/
  only : plan.filter (schema.hasTerm document) = [clause]
  /-- The number of the terms of the field is finite. -/
  finiteLength : IsFinite (Analytic.natural (schema.fieldLength document clause))
  /-- The score is finite. -/
  finiteScore : IsFinite hit.score

namespace IndexState.Consistent

section Exact

variable {schema : IndexSchema} {state : IndexState}

theorem isWeighed (consistent : state.Consistent schema) (some : 0 < state.size)
    (clause : Clause ℝ) : IsWeighed schema state clause := by
  have size := consistent.length_corpus
  have documents : (0 : ℝ) < state.size := Nat.cast_pos.mpr some
  exact
    { atMost := size ▸ schema.documentFrequency_le_length clause
      divisor_pos := by positivity
      quotient_pos := by positivity
      rarity_eq := by rw [consistent.rarity_eq, IndexSchema.inverseFrequency_real, size]
      rarity_pos := by
        rw [consistent.rarity_eq]
        exact IndexSchema.inverseFrequency_pos (size ▸ some) clause }

theorem length_pos_of_mem (consistent : state.Consistent schema) {indexed : IndexedDocument}
    (member : indexed ∈ state.documents.values) : 0 < state.corpus.length := by
  rw [consistent.corpus, List.length_map]
  exact List.length_pos_of_mem member

theorem isRewarded (consistent : state.Consistent schema) {indexed : IndexedDocument}
    (member : indexed ∈ state.documents.values) {clause : Clause ℝ}
    (matched : indexed.isMatch clause = true) : IsRewarded state indexed clause := by
  have terms := consistent.terms_of_mem member
  have has : schema.hasTerm indexed.document clause = true :=
    isMatch_eq_hasTerm terms clause ▸ matched
  have length : 1 ≤ indexed.fieldLength clause :=
    fieldLength_eq_of_terms terms clause ▸ fieldLength_pos_of_hasTerm has
  refine ⟨of_decide_eq_true matched, length, ?_, fun boost => ?_⟩
  · rw [contribution, Nat.max_eq_left length]
    simp only [sqrt_real, natural_real, Nat.cast_one]
    ring
  · rw [consistent.contribution_eq member has]
    exact IndexSchema.clauseScore_pos (consistent.length_pos_of_mem member) has boost

theorem score_pos (consistent : state.Consistent schema) {plan : QueryPlan ℝ}
    (boosts : ∀ clause ∈ plan, 0 < clause.boost) {indexed : IndexedDocument}
    (member : indexed ∈ state.documents.values) {clause : Clause ℝ} (asked : clause ∈ plan)
    (matched : indexed.isMatch clause = true) : 0 < score (state.weighted plan) indexed := by
  rw [isMatch_eq_hasTerm (consistent.terms_of_mem member)] at matched
  rw [consistent.score_eq member]
  exact IndexSchema.planScore_pos (consistent.length_pos_of_mem member)
    (List.any_eq_true.mpr ⟨clause, asked, matched⟩) boosts

theorem score_pos_of_mem_search (consistent : state.Consistent schema) {plan : QueryPlan ℝ}
    {limit : Nat} (boosts : ∀ clause ∈ plan, 0 < clause.boost) {hit : Hit ℝ}
    (member : hit ∈ state.search plan limit) : 0 < hit.score := by
  obtain ⟨document, matched, rfl⟩ := consistent.exists_document_of_mem_search member
  obtain ⟨listed, has⟩ := List.mem_filter.mp matched
  exact IndexSchema.planScore_pos (List.length_pos_of_mem listed) has boosts

theorem rarity_sq_lt {otherSchema : IndexSchema} {compared : IndexState}
    (consistent : state.Consistent schema) (otherConsistent : compared.Consistent otherSchema)
    (size : compared.size = state.size) {clause other : Clause ℝ}
    (rarer : schema.documentFrequency state.corpus clause <
      otherSchema.documentFrequency compared.corpus other) :
    rarity compared.documents.values other ^ 2 < rarity state.documents.values clause ^ 2 := by
  rw [consistent.rarity_eq, otherConsistent.rarity_eq]
  refine IndexSchema.inverseFrequency_sq_lt ?_ rarer
  rw [consistent.length_corpus, otherConsistent.length_corpus, size]

end Exact

/-- Of two documents that match just the same clause, the one with no fewer occurrences in a field
that is no longer does not score nearer to zero. -/
theorem score_le_of_isOnlyMatch {R : Type} [Add R] [Mul R] [Div R] [Analytic R] [Ranked R]
    {schema : IndexSchema} {state : IndexState} (consistent : state.Consistent schema)
    {IsFinite : R → Prop} {value : R → ℝ} {round : ℝ → ℝ}
    (rounds : RoundsMonotonically R IsFinite value round) {plan : QueryPlan R} {limit : Nat}
    {clause : Clause R} {first second : Hit R} (firstMem : first ∈ state.search plan limit)
    (secondMem : second ∈ state.search plan limit) {firstDocument secondDocument : Document}
    (firstMatch : IsOnlyMatch IsFinite schema state plan clause first firstDocument)
    (secondMatch : IsOnlyMatch IsFinite schema state plan clause second secondDocument)
    (frequencies : schema.termFrequency firstDocument clause ≤
      schema.termFrequency secondDocument clause)
    (lengths : schema.fieldLength secondDocument clause ≤
      schema.fieldLength firstDocument clause) :
    (0 ≤ value clause.boost → value first.score ≤ value second.score) ∧
      (value clause.boost ≤ 0 → value second.score ≤ value first.score) := by
  have firstScore := consistent.score_of_mem_search firstMem firstMatch.found
  have secondScore := consistent.score_of_mem_search secondMem secondMatch.found
  have has : schema.hasTerm secondDocument clause = true :=
    (List.mem_filter.mp (secondMatch.only ▸ List.mem_singleton_self clause)).2
  rw [firstScore, secondScore,
    value_planScore rounds firstMatch.only firstMatch.finiteLength
      (firstScore ▸ firstMatch.finiteScore),
    value_planScore rounds secondMatch.only secondMatch.finiteLength
      (secondScore ▸ secondMatch.finiteScore)]
  exact roundedScore_le rounds _ frequencies lengths (fieldLength_pos_of_hasTerm has)

end IndexState.Consistent

/-- In every published state scores reward rare terms, repeated terms and short fields. Where there
are documents, the weight of a term is positive, what matching clauses with positive boosts add is
positive, and so are the scores of plans with positive boosts. Of as many documents, the square of
the weight is smaller where more of them have the term. Where two documents match just the same
clause and its boost is not negative, the one with no fewer occurrences in a field that is no longer
does not score less, also where results are rounded; for boosts that are not positive it does not
score more. -/
theorem search_rewards_rare_terms (schema : IndexSchema) (actions : List Action) :
    let state := ((Session.start schema).run actions).index.published
    (0 < state.size → ∀ clause : Clause ℝ, IsWeighed schema state clause) ∧
      (∀ indexed ∈ state.documents.values, ∀ clause : Clause ℝ, indexed.isMatch clause = true →
        IsRewarded state indexed clause) ∧
      (∀ plan : QueryPlan ℝ, (∀ clause ∈ plan, 0 < clause.boost) →
        (∀ indexed ∈ state.documents.values, ∀ clause ∈ plan, indexed.isMatch clause = true →
          0 < score (state.weighted plan) indexed) ∧
          ∀ limit, ∀ hit ∈ state.search plan limit, 0 < hit.score) ∧
      (∀ (otherSchema : IndexSchema) (others : List Action) (clause other : Clause ℝ),
        let compared := ((Session.start otherSchema).run others).index.published
        compared.size = state.size →
          schema.documentFrequency state.corpus clause <
            otherSchema.documentFrequency compared.corpus other →
          rarity compared.documents.values other ^ 2 <
            rarity state.documents.values clause ^ 2) ∧
      ∀ (R : Type) [Add R] [Mul R] [Div R] [Analytic R] [Ranked R] (IsFinite : R → Prop)
        (value : R → ℝ) (round : ℝ → ℝ), RoundsMonotonically R IsFinite value round →
        ∀ (plan : QueryPlan R) (limit : Nat) (clause : Clause R),
        ∀ first ∈ state.search plan limit, ∀ second ∈ state.search plan limit,
        ∀ firstDocument secondDocument : Document,
          IsOnlyMatch IsFinite schema state plan clause first firstDocument →
          IsOnlyMatch IsFinite schema state plan clause second secondDocument →
          schema.termFrequency firstDocument clause ≤ schema.termFrequency secondDocument clause →
          schema.fieldLength secondDocument clause ≤ schema.fieldLength firstDocument clause →
          (0 ≤ value clause.boost → value first.score ≤ value second.score) ∧
            (value clause.boost ≤ 0 → value second.score ≤ value first.score) := by
  intro state
  have consistent : state.Consistent schema := Session.consistent_run_start schema actions
  refine ⟨fun some clause => consistent.isWeighed some clause, fun indexed member clause =>
    consistent.isRewarded member, fun plan boosts => ⟨fun indexed member clause =>
    consistent.score_pos boosts member, fun limit hit =>
    consistent.score_pos_of_mem_search boosts⟩, fun otherSchema others clause other size =>
    consistent.rarity_sq_lt (Session.consistent_run_start otherSchema others) size, ?_⟩
  intro R _ _ _ _ _ IsFinite value round rounds plan limit clause first firstMem second secondMem
    firstDocument secondDocument firstMatch secondMatch frequencies lengths
  exact consistent.score_le_of_isOnlyMatch rounds firstMem secondMem firstMatch secondMatch
    frequencies lengths

/-- A page with seven words. -/
def longPage : Document := ⟨"/long", .ofList [("text", "oak is a repository with many words")]⟩

/-- A page with two words. -/
def shortPage : Document := ⟨"/short", .ofList [("text", "oak repository")]⟩

/-- Both pages are committed. -/
def oakPages : List Action := [.takeWriter, .upsert longPage, .upsert shortPage, .commit]

/-- The short page scores no less than the long one for what both have, and a term that only the
long one has weighs more. -/
theorem search_rewards_rare_terms_oakPages :
    let state := ((Session.start .default).run oakPages).index.published
    let oak : Clause ℝ := ⟨"text", "oak", 1⟩
    let many : Clause ℝ := ⟨"text", "many", 1⟩
    state.size = 2 ∧ 0 < rarity state.documents.values oak ∧
      rarity state.documents.values oak ^ 2 < rarity state.documents.values many ^ 2 ∧
      (∃ indexed ∈ state.documents.values, indexed.document = longPage ∧
        0 < contribution indexed oak (rarity state.documents.values oak)) ∧
      ∃ long ∈ state.search [oak] 2, ∃ short ∈ state.search [oak] 2,
        long.path = "/long" ∧ short.path = "/short" ∧ 0 < long.score ∧
          long.score ≤ short.score := by
  intro state oak many
  have consistent : state.Consistent .default := Session.consistent_run_start .default oakPages
  have size : state.size = 2 := by decide +kernel
  have corpus : state.corpus = [longPage, shortPage] := by decide +kernel
  have oakLong : IndexSchema.default.hasTerm longPage oak = true := by decide +kernel
  have oakShort : IndexSchema.default.hasTerm shortPage oak = true := by decide +kernel
  obtain ⟨weighed, rewarded, positive, rarer, shorter⟩ :=
    search_rewards_rare_terms .default oakPages
  obtain ⟨indexed, member, isLong, terms⟩ :=
    consistent.exists_indexed (corpus ▸ List.mem_cons_self : longPage ∈ state.corpus)
  have matched : indexed.isMatch oak = true :=
    (isMatch_eq_hasTerm (isLong ▸ terms) oak).trans (isLong ▸ oakLong)
  obtain ⟨long, longMem, longPath, longFound⟩ := consistent.exists_hit_of_hasTerm
    (corpus ▸ List.mem_cons_self) (List.mem_singleton_self oak) oakLong size.le
  obtain ⟨short, shortMem, shortPath, shortFound⟩ := consistent.exists_hit_of_hasTerm
    (corpus ▸ List.mem_cons_of_mem _ List.mem_cons_self) (List.mem_singleton_self oak) oakShort
    size.le
  have boosts : ∀ clause ∈ [oak], 0 < clause.boost := List.forall_mem_singleton.mpr one_pos
  have closer := (shorter ℝ _ _ _ roundsMonotonically_real [oak] 2 oak long longMem short shortMem
    longPage shortPage ⟨longFound, List.filter_cons_of_pos oakLong, trivial, trivial⟩
    ⟨shortFound, List.filter_cons_of_pos oakShort, trivial, trivial⟩ (by decide +kernel)
    (by decide +kernel)).1 zero_le_one
  exact ⟨size, (weighed (size ▸ two_pos) oak).rarity_pos,
    rarer .default oakPages many oak rfl (by decide +kernel),
    ⟨indexed, member, isLong, (rewarded indexed member oak matched).contribution_pos one_pos⟩,
    long, longMem, short, shortMem, longPath, shortPath,
    (positive [oak] boosts).2 2 long longMem, closer⟩

end QuestionSearch.Index
