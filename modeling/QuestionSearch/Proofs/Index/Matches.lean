import QuestionSearch.Index.Search

/-!
# Matches

Which documents a search finds: the best of all matches, at most as many as it is asked for, and
nothing else (`exists_document_of_mem_ranked`). Hence it gives something if anything matches
(`search_ne_nil`), and all matches if it may give as many as there are documents
(`exists_hit_of_isMatch`).
-/

namespace QuestionSearch.Index

open QuestionSearch.Query

variable {R : Type} [Add R] [Mul R] [Div R] [Analytic R] [Ranked R]

/-- The clauses of a plan with their rarities among the documents of a state. -/
def IndexState.weighted (state : IndexState) (plan : QueryPlan R) : List (Clause R × R) :=
  plan.map fun clause => (clause, rarity state.documents.values clause)

/-- The hits of all matches, the best first. -/
def IndexState.ranked (state : IndexState) (plan : QueryPlan R) : List (Hit R) :=
  rankDescending Hit.score (state.documents.values.filterMap (hit? (state.weighted plan)))

namespace IndexState

variable {state : IndexState} {plan : QueryPlan R} {limit : Nat}

/-- A search gives the best of all matches, also where it need not look at the documents. -/
theorem search_eq_take_ranked : state.search plan limit = (state.ranked plan).take limit := by
  rw [search]
  split
  · rename_i idle
    simp only [Bool.or_eq_true, decide_eq_true_eq, List.isEmpty_iff, isEmpty] at idle
    rcases idle with (rfl | rfl) | empty
    · have nothing : state.documents.values.filterMap (hit? (state.weighted [])) =
          ([] : List (Hit R)) := by
        simp [weighted, hit?]
      simp [ranked, nothing, rankDescending]
    · rw [List.take_zero]
    · simp [ranked, Table.values, empty, rankDescending]
  · rfl

theorem exists_hit_mem_ranked {indexed : IndexedDocument} {clause : Clause R}
    (member : indexed ∈ state.documents.values) (asked : clause ∈ plan)
    (matched : indexed.isMatch clause = true) :
    ∃ hit ∈ state.ranked plan,
      hit.path = indexed.document.path ∧ hit.fields = indexed.document.fields := by
  have any : (state.weighted plan).any (fun clause => indexed.isMatch clause.1) = true :=
    List.any_eq_true.mpr ⟨_, List.mem_map_of_mem asked, matched⟩
  refine ⟨⟨indexed.document.path, score (state.weighted plan) indexed, indexed.document.fields⟩,
    ?_, rfl, rfl⟩
  rw [ranked, rankDescending, List.mem_mergeSort, List.mem_filterMap]
  exact ⟨indexed, member, by rw [hit?, if_pos any]⟩

/-- The document that a hit is of. -/
theorem exists_document_of_mem_ranked {hit : Hit R}
    (member : hit ∈ state.ranked plan) :
    ∃ indexed ∈ state.documents.values, (∃ clause ∈ plan, indexed.isMatch clause = true) ∧
      hit.path = indexed.document.path ∧ hit.fields = indexed.document.fields := by
  rw [ranked, rankDescending, List.mem_mergeSort, List.mem_filterMap] at member
  obtain ⟨indexed, indexedMem, found⟩ := member
  rw [hit?] at found
  split at found
  · rename_i matched
    obtain rfl := Option.some.inj found
    obtain ⟨weighted, weightedMem, isMatch⟩ := List.any_eq_true.mp matched
    obtain ⟨clause, clauseMem, rfl⟩ := List.mem_map.mp weightedMem
    exact ⟨indexed, indexedMem, ⟨clause, clauseMem, isMatch⟩, rfl, rfl⟩
  · cases found

theorem search_ne_nil {indexed : IndexedDocument} {clause : Clause R}
    (member : indexed ∈ state.documents.values) (asked : clause ∈ plan)
    (matched : indexed.isMatch clause = true) (positive : 1 ≤ limit) :
    state.search plan limit ≠ [] := by
  obtain ⟨hit, hitMem, _⟩ := exists_hit_mem_ranked member asked matched
  rw [search_eq_take_ranked, Ne, List.take_eq_nil_iff, not_or]
  exact ⟨Nat.ne_of_gt positive, List.ne_nil_of_mem hitMem⟩

theorem length_ranked_le : (state.ranked plan).length ≤ state.size := by
  rw [ranked, rankDescending, List.length_mergeSort]
  exact Nat.le_trans (List.length_filterMap_le _ _) (Nat.le_of_eq (List.length_map _))

/-- A search that may give as many hits as there are documents gives all matches. -/
theorem exists_hit_of_isMatch {indexed : IndexedDocument} {clause : Clause R}
    (member : indexed ∈ state.documents.values) (asked : clause ∈ plan)
    (matched : indexed.isMatch clause = true) (enough : state.size ≤ limit) :
    ∃ hit ∈ state.search plan limit,
      hit.path = indexed.document.path ∧ hit.fields = indexed.document.fields := by
  rw [search_eq_take_ranked, List.take_of_length_le (Nat.le_trans length_ranked_le enough)]
  exact exists_hit_mem_ranked member asked matched

end IndexState

end QuestionSearch.Index
