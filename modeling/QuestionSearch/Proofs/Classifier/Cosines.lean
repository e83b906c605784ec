import Mathlib
import QuestionSearch.Proofs.Classifier.Similarities

/-!
# Cosines

In exact arithmetic the similarity of two texts is the cosine of the angle between their counts of
terms (`cosine_eq_textCosine`), whichever of the two vectors is gone through, and in whatever order
(`orderFree_real`). It is positive just where the texts share a term (`textCosine_pos_iff`).
-/

namespace QuestionSearch

open QuestionSearch.Classifier QuestionSearch.Text

/-- The length of the counts of the terms of a text. -/
noncomputable def textNorm (text : String) : ℝ :=
  √(∑ term ∈ (analyze text).toFinset, ((analyze text).count term : ℝ) ^ 2)

/-- The cosine of the angle between the counts of the terms of two texts. -/
noncomputable def textCosine (left right : String) : ℝ :=
  (∑ term ∈ (analyze left).toFinset ∩ (analyze right).toFinset,
      ((analyze left).count term : ℝ) * (analyze right).count term) /
    (textNorm left * textNorm right)

theorem textCosine_comm (left right : String) : textCosine left right = textCosine right left := by
  rw [textCosine, textCosine, Finset.inter_comm, mul_comm (textNorm left)]
  simp only [mul_comm]

theorem textNorm_pos {text term : String} (occurs : term ∈ analyze text) : 0 < textNorm text := by
  refine Real.sqrt_pos.mpr (Finset.sum_pos (fun other member => ?_)
    ⟨term, List.mem_toFinset.mpr occurs⟩)
  have counted := List.count_pos_iff.mpr (List.mem_toFinset.mp member)
  positivity

/-- Texts are like each other if and only if they share a term. -/
theorem textCosine_pos_iff {left right : String} :
    0 < textCosine left right ↔ ∃ term ∈ analyze left, term ∈ analyze right := by
  constructor
  · intro pos
    by_contra! disjoint
    have none : (analyze left).toFinset ∩ (analyze right).toFinset = ∅ := by
      ext term
      simpa using disjoint term
    rw [textCosine, none, Finset.sum_empty, zero_div] at pos
    exact lt_irrefl _ pos
  · rintro ⟨term, occursLeft, occursRight⟩
    refine div_pos (Finset.sum_pos (fun shared member => ?_) ⟨term, ?_⟩)
      (mul_pos (textNorm_pos occursLeft) (textNorm_pos occursRight))
    · simp only [Finset.mem_inter, List.mem_toFinset] at member
      have countedLeft := List.count_pos_iff.mpr member.1
      have countedRight := List.count_pos_iff.mpr member.2
      positivity
    · simp [occursLeft, occursRight]

theorem Table.sum_entries {α : Type} (table : Table α) (value : String × α → ℝ)
    (image : String → ℝ) (same : ∀ entry ∈ table.entries, value entry = image entry.1) :
    (table.entries.map value).sum = ∑ key ∈ table.keys.toFinset, image key := by
  rw [List.sum_toFinset image table.nodup_keys, Table.keys, List.map_map]
  exact congrArg List.sum (List.map_congr_left same)

theorem toFinset_keys_tally (terms : List String) :
    (tally terms).keys.toFinset = terms.toFinset := by
  ext term
  rw [List.mem_toFinset, List.mem_toFinset, Table.mem_keys_iff, contains_tally_iff]

namespace Classifier.TermVector

variable {order : VectorOrder} {text : String} {vector left right : TermVector ℝ}

theorem norm_eq_textNorm (order : HashOrder) (text : String) :
    √(sumOf (((termFrequencies text).valuesBy order).map fun other : Nat => (other : ℝ) * other)) =
      textNorm text := by
  have perm := ((termFrequencies text).perm_valuesBy order).map
    fun other : Nat => (other : ℝ) * other
  have squares := (termFrequencies text).sum_entries (fun entry => (entry.2 : ℝ) * entry.2)
    (fun term => ((analyze text).count term : ℝ) ^ 2) fun entry member => by
      have counted := getD_get?_tally (analyze text) entry.1
      rw [show (tally (analyze text)).get? entry.1 = some entry.2 from
        Table.get?_eq_some_iff.mpr member, Option.getD_some] at counted
      rw [counted, sq]
  rw [termFrequencies, toFinset_keys_tally] at squares
  rw [sumOf_real, perm.sum_eq, textNorm, ← squares, Table.values, List.map_map]
  rfl

/-- What a vector binds a term to, zero for terms that do not occur. -/
theorem getD_get?_of_ofText? (found : ofText? order text = some vector) (term : String) :
    (vector.weights.get? term).getD 0 = (analyze text).count term / textNorm text := by
  rw [get?_of_ofText? found, termFrequencies, get?_tally]
  split
  · rw [Option.map_some, Option.getD_some, ← norm_eq_textNorm order.frequencies, termFrequencies]
    rfl
  · rename_i absent
    rw [List.count_eq_zero_of_not_mem absent, Nat.cast_zero, zero_div]
    rfl

theorem toFinset_keys_of_ofText? (found : ofText? order text = some vector) :
    vector.weights.keys.toFinset = (analyze text).toFinset := by
  ext term
  rw [List.mem_toFinset, List.mem_toFinset, Table.mem_keys_iff, contains_of_ofText? found]

theorem sum_products (fewer more : TermVector ℝ) :
    (products fewer more).sum =
      ∑ term ∈ fewer.weights.keys.toFinset,
        (fewer.weights.get? term).getD 0 * (more.weights.get? term).getD 0 := by
  have allTerms : (products fewer more).sum =
      (fewer.weights.entries.map fun entry =>
        entry.2 * (more.weights.get? entry.1).getD 0).sum := by
    rw [products, ((fewer.weights.perm_entriesBy fewer.order).filterMap _).sum_eq]
    induction fewer.weights.entries with
    | nil => rfl
    | cons entry rest ih =>
        rw [List.filterMap_cons, List.map_cons, List.sum_cons, ← ih]
        cases more.weights.get? entry.1 <;> simp
  rw [allTerms]
  refine fewer.weights.sum_entries _ _ fun entry member => ?_
  rw [Table.get?_eq_some_iff.mpr member, Option.getD_some]

/-- The products of two texts' weights add up to their cosine. -/
theorem sum_products_of_ofText? {leftOrder rightOrder : VectorOrder} {leftText rightText : String}
    (leftFound : ofText? leftOrder leftText = some left)
    (rightFound : ofText? rightOrder rightText = some right) :
    (products left right).sum = textCosine leftText rightText := by
  rw [sum_products, toFinset_keys_of_ofText? leftFound, textCosine, Finset.sum_div]
  symm
  refine Finset.sum_subset_zero_on_sdiff Finset.inter_subset_left (fun term outside => ?_)
    fun term _ => ?_
  · have absent : term ∉ analyze rightText := by
      simp only [Finset.mem_sdiff, Finset.mem_inter, List.mem_toFinset] at outside
      exact fun occurs => outside.2 ⟨outside.1, occurs⟩
    rw [getD_get?_of_ofText? rightFound, List.count_eq_zero_of_not_mem absent, Nat.cast_zero,
      zero_div, mul_zero]
  · rw [getD_get?_of_ofText? leftFound, getD_get?_of_ofText? rightFound, div_mul_div_comm]

/-- The similarity of two texts is their cosine. -/
theorem cosine_eq_textCosine {leftOrder rightOrder : VectorOrder} {leftText rightText : String}
    (leftFound : ofText? leftOrder leftText = some left)
    (rightFound : ofText? rightOrder rightText = some right) :
    left.cosine right = textCosine leftText rightText := by
  by_cases smaller : left.weights.size ≤ right.weights.size
  · rw [← sum_products_of_ofText? leftFound rightFound, ← sumOf_real]
    simp [cosine, products, smaller]
  · rw [textCosine_comm, ← sum_products_of_ofText? rightFound leftFound, ← sumOf_real]
    simp [cosine, products, smaller]

end Classifier.TermVector

namespace Classifier

/-- The similarity of two texts with terms is their cosine. -/
theorem similarity?_real (order asked : VectorOrder) (known text : String) :
    similarity? order asked known text =
      if analyze known = [] ∨ analyze text = [] then none else some (textCosine known text) := by
  rw [similarity?]
  cases learnt : (TermVector.ofText? order known : Option (TermVector ℝ)) with
  | none => simp [TermVector.ofText?_eq_none_iff.mp learnt]
  | some vector =>
      cases question : (TermVector.ofText? asked text : Option (TermVector ℝ)) with
      | none => simp [TermVector.ofText?_eq_none_iff.mp question]
      | some asked =>
          have knownTerms : analyze known ≠ [] := fun none => by
            rw [TermVector.ofText?_eq_none_iff.mpr none] at learnt
            cases learnt
          have askedTerms : analyze text ≠ [] := fun none => by
            rw [TermVector.ofText?_eq_none_iff.mpr none] at question
            cases question
          simp [knownTerms, askedTerms, TermVector.cosine_eq_textCosine learnt question]

/-- In exact arithmetic no similarity depends on the orders of hash tables. -/
theorem orderFree_real (labelled : List LabelledText) (text : String) :
    OrderFree ℝ labelled text := by
  intro known _ order asked other again
  rw [similarity?_real, similarity?_real]

end Classifier

end QuestionSearch
