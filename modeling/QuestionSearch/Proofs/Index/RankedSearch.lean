import Mathlib
import QuestionSearch.Proofs.Index.FieldTerms
import QuestionSearch.Proofs.Ranking

/-!
# Ranked search

What a search gives, said by the documents alone. A document counts if it has the term of some
clause in the text that is indexed for the field of that clause, and then it counts once, with the
sum of what its matching clauses add (`IndexSchema.planScore`). Greater scores come first. That of
equal scores the earlier path comes first is nowhere compared: the documents are visited in the
order of their paths, and ranking keeps the order of what it leaves apart
(`pairwise_rankDescending`).
-/

namespace QuestionSearch

/-! ## Scores of documents -/

namespace Index

open QuestionSearch.Query

namespace IndexSchema

section Counts

variable {R : Type} (schema : IndexSchema)

/-- How often a document has the term of a clause in the field of the clause. -/
def termFrequency (document : Document) (clause : Clause R) : Nat :=
  match document.indexed? clause.field with
  | none => 0
  | some text => schema.occurrences clause.field text clause.term

/-- How many terms a document has in the field of a clause. -/
def fieldLength (document : Document) (clause : Clause R) : Nat :=
  match document.indexed? clause.field with
  | none => 0
  | some text => schema.termCount clause.field text

/-- Whether a document has the term of a clause. -/
def hasTerm (document : Document) (clause : Clause R) : Bool :=
  0 < schema.termFrequency document clause

/-- How many documents have the term of a clause. -/
def documentFrequency (corpus : List Document) (clause : Clause R) : Nat :=
  corpus.countP fun document => schema.hasTerm document clause

/-- The documents that have the term of some clause of a plan. -/
def matching (corpus : List Document) (plan : QueryPlan R) : List Document :=
  corpus.filter fun document => plan.any fun clause => schema.hasTerm document clause

end Counts

variable {R : Type} [Add R] [Mul R] [Div R] [Analytic R] (schema : IndexSchema)

/-- One, plus the logarithm of the number of documents over one more than the number of those that
have the term. -/
def inverseFrequency (corpus : List Document) (clause : Clause R) : R :=
  Analytic.natural 1 + Analytic.ln (Analytic.natural corpus.length /
    (Analytic.natural (schema.documentFrequency corpus clause) + Analytic.natural 1))

/-- What a clause adds to the score of a document that has its term. -/
def clauseScore (corpus : List Document) (document : Document) (clause : Clause R) : R :=
  clause.boost * Analytic.sqrt (Analytic.natural (schema.termFrequency document clause)) *
    schema.inverseFrequency corpus clause * schema.inverseFrequency corpus clause *
    (Analytic.natural 1 /
      Analytic.sqrt (Analytic.natural (schema.fieldLength document clause)))

/-- The score of a document: the sum over the clauses whose term it has, in the order of a plan. -/
def planScore (corpus : List Document) (plan : QueryPlan R) (document : Document) : R :=
  sumOf ((plan.filter (schema.hasTerm document)).map (schema.clauseScore corpus document))

/-- The hit of a document. -/
def hitOf (corpus : List Document) (plan : QueryPlan R) (document : Document) : Hit R :=
  ⟨document.path, schema.planScore corpus plan document, document.fields⟩

end IndexSchema

section Scores

variable {R : Type} {schema : IndexSchema} {indexed : IndexedDocument}

theorem frequency_eq_of_terms (terms : indexed.terms = schema.terms indexed.document)
    (clause : Clause R) :
    indexed.frequency clause = schema.termFrequency indexed.document clause := by
  obtain ⟨document, _⟩ := indexed
  obtain rfl : _ = schema.terms document := terms
  exact frequency_eq schema document clause

theorem fieldLength_eq_of_terms (terms : indexed.terms = schema.terms indexed.document)
    (clause : Clause R) :
    indexed.fieldLength clause = schema.fieldLength indexed.document clause := by
  obtain ⟨document, _⟩ := indexed
  obtain rfl : _ = schema.terms document := terms
  exact fieldLength_eq schema document clause

theorem isMatch_eq_hasTerm (terms : indexed.terms = schema.terms indexed.document)
    (clause : Clause R) : indexed.isMatch clause = schema.hasTerm indexed.document clause := by
  rw [IndexedDocument.isMatch, frequency_eq_of_terms terms, IndexSchema.hasTerm]

theorem termFrequency_le_fieldLength (document : Document) (clause : Clause R) :
    schema.termFrequency document clause ≤ schema.fieldLength document clause := by
  rw [IndexSchema.termFrequency, IndexSchema.fieldLength]
  cases document.indexed? clause.field with
  | none => exact Nat.le_refl 0
  | some text =>
      simp only [IndexSchema.occurrences, IndexSchema.termCount]
      split
      · split <;> decide
      · exact List.count_le_length

/-- A field that has a term is not empty. -/
theorem fieldLength_pos_of_hasTerm {document : Document} {clause : Clause R}
    (has : schema.hasTerm document clause = true) : 1 ≤ schema.fieldLength document clause :=
  Nat.le_trans (of_decide_eq_true has) (termFrequency_le_fieldLength document clause)

end Scores

namespace IndexState.Consistent

variable {R : Type} [Add R] [Mul R] [Div R] [Analytic R] {schema : IndexSchema}
  {state : IndexState} {plan : QueryPlan R} {indexed : IndexedDocument}

theorem terms_of_mem (consistent : state.Consistent schema)
    (member : indexed ∈ state.documents.values) :
    indexed.terms = schema.terms indexed.document := by
  obtain ⟨path, found⟩ := Table.mem_values_iff.mp member
  exact (consistent.indexed path indexed found).2

omit [Mul R] in
theorem rarity_eq (consistent : state.Consistent schema) (clause : Clause R) :
    rarity state.documents.values clause = schema.inverseFrequency state.corpus clause := by
  have matches_eq : state.documents.values.countP (fun indexed => indexed.isMatch clause) =
      schema.documentFrequency state.corpus clause := by
    rw [IndexSchema.documentFrequency, consistent.corpus, List.countP_map]
    refine List.countP_congr fun indexed member => ?_
    rw [isMatch_eq_hasTerm (consistent.terms_of_mem member), Function.comp_apply]
  rw [rarity, IndexSchema.inverseFrequency, matches_eq, consistent.corpus, List.length_map]

theorem contribution_eq (consistent : state.Consistent schema)
    (member : indexed ∈ state.documents.values) {clause : Clause R}
    (has : schema.hasTerm indexed.document clause = true) :
    contribution indexed clause (rarity state.documents.values clause) =
      schema.clauseScore state.corpus indexed.document clause := by
  have terms := consistent.terms_of_mem member
  rw [contribution, IndexSchema.clauseScore, consistent.rarity_eq,
    frequency_eq_of_terms terms, fieldLength_eq_of_terms terms,
    Nat.max_eq_left (fieldLength_pos_of_hasTerm has)]

theorem score_eq (consistent : state.Consistent schema)
    (member : indexed ∈ state.documents.values) :
    score (state.weighted plan) indexed =
      schema.planScore state.corpus plan indexed.document := by
  have sameClauses : (plan.filter fun clause => indexed.isMatch clause) =
      plan.filter (schema.hasTerm indexed.document) :=
    List.filter_congr fun clause _ => isMatch_eq_hasTerm (consistent.terms_of_mem member) clause
  rw [score, IndexSchema.planScore, weighted, List.filter_map, List.map_map]
  refine congrArg sumOf ?_
  rw [show (fun clause : Clause R × R => indexed.isMatch clause.1) ∘
      (fun clause => (clause, rarity state.documents.values clause)) =
      fun clause => indexed.isMatch clause from rfl, sameClauses]
  exact List.map_congr_left fun clause asked =>
    consistent.contribution_eq member (List.mem_filter.mp asked).2

theorem hit?_eq (consistent : state.Consistent schema)
    (member : indexed ∈ state.documents.values) :
    hit? (state.weighted plan) indexed =
      if plan.any (schema.hasTerm indexed.document) then
        some (schema.hitOf state.corpus plan indexed.document) else none := by
  have same : ((state.weighted plan).any fun clause => indexed.isMatch clause.1) =
      plan.any (schema.hasTerm indexed.document) := by
    rw [weighted, List.any_map]
    refine congrArg plan.any (funext fun clause => ?_)
    exact isMatch_eq_hasTerm (consistent.terms_of_mem member) clause
  rw [hit?, same, consistent.score_eq member]
  rfl

/-- The hits before they are ranked stand in the order of the paths. -/
theorem hits_eq (consistent : state.Consistent schema) :
    state.documents.values.filterMap (hit? (state.weighted plan)) =
      (schema.matching state.corpus plan).map (schema.hitOf state.corpus plan) := by
  have hit_eq (documents : List Document) :
      (documents.filterMap fun document =>
        if plan.any (schema.hasTerm document) then some (schema.hitOf state.corpus plan document)
        else none) =
      (schema.matching documents plan).map (schema.hitOf state.corpus plan) := by
    rw [IndexSchema.matching, ← List.filterMap_eq_filter, List.map_filterMap]
    refine List.filterMap_congr fun document _ => ?_
    by_cases has : plan.any (schema.hasTerm document) = true <;> simp [Option.guard, has]
  rw [List.filterMap_congr fun indexed member => consistent.hit?_eq member]
  have listed := hit_eq (state.documents.values.map IndexedDocument.document)
  rw [List.filterMap_map, ← consistent.corpus] at listed
  exact listed

omit [Add R] [Mul R] [Div R] [Analytic R] in
theorem ascending_matching (consistent : state.Consistent schema) (plan : QueryPlan R) :
    (schema.matching state.corpus plan).Pairwise fun first second => first.path < second.path :=
  consistent.ascending.filter _

/-- The general path of a search gives each match once. -/
theorem perm_ranked [Ranked R] (consistent : state.Consistent schema) :
    (state.ranked plan).Perm
      ((schema.matching state.corpus plan).map (schema.hitOf state.corpus plan)) := by
  rw [ranked, consistent.hits_eq]
  exact perm_rankDescending _ _

theorem pairwise_ranked [Ranked R] (ranks : LinearlyRanked R)
    (consistent : state.Consistent schema) :
    (state.ranked plan).Pairwise fun first second =>
      Ranked.atMost first.score second.score = false ∨
        first.score = second.score ∧ first.path < second.path := by
  have ordered : ((schema.matching state.corpus plan).map
      (schema.hitOf state.corpus plan)).Pairwise fun first second => first.path < second.path :=
    List.pairwise_map.mpr (consistent.ascending_matching plan)
  rw [ranked, consistent.hits_eq]
  exact pairwise_rankDescending ranks ordered

end IndexState.Consistent

/-- Take any arithmetic whose values are ranked linearly, whatever becomes of infinities and of
values that are no numbers. In every published state a search goes through one list of hits, the
same for all limits: each committed document that has the term of some clause is in it once, with
its fields and its score, greater scores stand before smaller ones, and of equal scores the earlier
path comes first. What a search gives are the first hits of this list, as many as it may give, also
where it does not look at the documents. So a search that may give more only adds hits at the
end. -/
theorem search_gives_best_matches {R : Type} [Add R] [Mul R] [Div R] [Analytic R] [Ranked R]
    (ranks : LinearlyRanked R) (schema : IndexSchema) (actions : List Action)
    (plan : QueryPlan R) :
    let index := ((Session.start schema).run actions).index
    let state := index.published
    let ranked := state.ranked plan
    ranked.Perm ((schema.matching state.corpus plan).map (schema.hitOf state.corpus plan)) ∧
      (ranked.map Hit.path).Nodup ∧
      (ranked.Pairwise fun first second =>
        Ranked.atMost first.score second.score = false ∨
          first.score = second.score ∧ first.path < second.path) ∧
      (∀ limit, state.search plan limit = ranked.take limit ∧
        (state.search plan limit).length =
          min limit (schema.matching state.corpus plan).length ∧
        index.search plan limit =
          if index.isClosed then .error .closed else .ok (ranked.take limit)) ∧
      ∀ limit more, state.search plan limit <+: state.search plan (limit + more) := by
  intro index state ranked
  have consistent : state.Consistent schema :=
    Session.consistent_run (rfl : (Session.start schema).index.schema = schema) (.empty schema)
      actions
  have perm : ranked.Perm
      ((schema.matching state.corpus plan).map (schema.hitOf state.corpus plan)) :=
    consistent.perm_ranked
  refine ⟨perm, ?_, consistent.pairwise_ranked ranks, fun limit => ⟨?_, ?_, ?_⟩,
    fun limit more => ?_⟩
  · have paths : ((schema.matching state.corpus plan).map Document.path).Nodup := by
      rw [List.nodup_iff_pairwise_ne, List.pairwise_map]
      refine (consistent.ascending_matching plan).imp fun {first second} below same => ?_
      exact String.lt_irrefl _ (same ▸ below)
    refine (perm.map Hit.path).nodup_iff.mpr ?_
    rwa [List.map_map]
  · exact IndexState.search_eq_take_ranked
  · rw [IndexState.search_eq_take_ranked, List.length_take, perm.length_eq, List.length_map]
  · rw [SearchIndex.search, SearchIndex.state_eq]
    split
    · rfl
    · exact congrArg Except.ok IndexState.search_eq_take_ranked
  · rw [IndexState.search_eq_take_ranked, IndexState.search_eq_take_ranked]
    exact List.take_prefix_take_left (Nat.le_add_right _ _)

/-- A page about an oak. -/
def oldOak : Document := ⟨"/oak", .ofList [(titleField, "Old oak")]⟩

/-- The page is committed together with another one. -/
def oakAndElm : List Action :=
  [.takeWriter, .upsert oldOak, .upsert ⟨"/elm", .ofList [(titleField, "Elm")]⟩, .commit]

/-- Boosts of both infinities, whose sum is no number. -/
def endlessBoosts : QueryPlan Single :=
  [⟨titleField, "oak", ⟨0x7F800000⟩⟩, ⟨titleField, "oak", ⟨0xFF800000⟩⟩]

/-- In single precision a score that is no number keeps no match away. -/
theorem search_gives_best_matches_endless :
    let index := ((Session.start .default).run oakAndElm).index
    LinearlyRanked Single ∧
      index.search endlessBoosts 5 =
        .ok [IndexSchema.default.hitOf index.published.corpus endlessBoosts oldOak] ∧
      index.published.search endlessBoosts 0 = [] := by
  intro index
  obtain ⟨perm, -, -, given, -⟩ :=
    search_gives_best_matches linearlyRanked_single .default oakAndElm endlessBoosts
  have matching : IndexSchema.default.matching index.published.corpus endlessBoosts = [oldOak] := by
    decide +kernel
  have ranked : index.published.ranked endlessBoosts =
      [IndexSchema.default.hitOf index.published.corpus endlessBoosts oldOak] := by
    rw [matching] at perm
    exact List.perm_singleton.mp perm
  have isOpen : index.isClosed = false := by decide
  refine ⟨linearlyRanked_single, ?_, (given 0).1.trans List.take_zero⟩
  have found : index.search endlessBoosts 5 = _ := (given 5).2.2
  rw [found, isOpen, ranked]
  rfl

end Index

end QuestionSearch
