import QuestionSearch.Classifier.NearestNeighbours
import QuestionSearch.Proofs.ExactArithmetic
import QuestionSearch.Proofs.Text.Tallies

/-!
# Vectors of texts

The vector of a text binds exactly the terms of the text (`contains_of_ofText?`), to what the laws
of weights allow (`isWeight_of_ofText?`). Two such vectors are similar if and only if their texts
have a term in common (`pos_cosine_ofText?_iff`). Exact arithmetic obeys these laws
(`weightLaws_real`).
-/

namespace QuestionSearch

open QuestionSearch.Classifier QuestionSearch.Text

/-! ## Weights -/

/-- Laws of weights, which are what vectors of texts bind terms to. A value is a weight if
`IsWeight` holds of it, and a text may have so many terms if `Fits` holds of their number. Among
floating-point numbers weights lie between `2⁻⁴⁰` and `2`, so that no product of two vanishes, and
a text has less than `2³²` terms. -/
structure WeightLaws (R : Type) [Add R] [Mul R] [Div R] [LT R] [Analytic R]
    (IsWeight : R → Prop) (Fits : Nat → Prop) : Prop where
  /-- Zero is not above itself. -/
  zero_not_pos : ¬ (Analytic.natural 0 : R) < Analytic.natural 0
  /-- Zero adds nothing. -/
  zero_add_pos {a : R} : Analytic.natural 0 < a → Analytic.natural 0 < Analytic.natural 0 + a
  /-- The sum of two values above zero is above zero. -/
  add_pos {a b : R} : Analytic.natural 0 < a → Analytic.natural 0 < b → Analytic.natural 0 < a + b
  /-- The product of two weights is above zero. -/
  mul_pos {a b : R} : IsWeight a → IsWeight b → Analytic.natural 0 < a * b
  /-- A frequency divided by the length of all frequencies is a weight. -/
  share {frequencies : List Nat} {frequency : Nat} :
    (∀ other ∈ frequencies, 0 < other) → Fits frequencies.sum → frequency ∈ frequencies →
      IsWeight (Analytic.natural frequency /
        Analytic.sqrt (sumOf (frequencies.map fun other =>
          Analytic.natural other * Analytic.natural other)))

namespace WeightLaws

variable {R : Type} [Add R] [Mul R] [Div R] [LT R] [Analytic R] {IsWeight : R → Prop}
  {Fits : Nat → Prop}

theorem pos_foldl_add (laws : WeightLaws R IsWeight Fits) {start : R} {terms : List R}
    (startPos : Analytic.natural 0 < start) (pos : ∀ term ∈ terms, Analytic.natural 0 < term) :
    Analytic.natural 0 < terms.foldl (· + ·) start := by
  induction terms generalizing start with
  | nil => exact startPos
  | cons first rest ih =>
      obtain ⟨firstPos, restPos⟩ := List.forall_mem_cons.mp pos
      exact ih (laws.add_pos startPos firstPos) restPos

/-- A sum of values above zero is above zero unless nothing is added. -/
theorem pos_sumOf_iff (laws : WeightLaws R IsWeight Fits) {terms : List R}
    (pos : ∀ term ∈ terms, Analytic.natural 0 < term) :
    Analytic.natural 0 < sumOf terms ↔ terms ≠ [] := by
  cases terms with
  | nil => simpa [sumOf] using laws.zero_not_pos
  | cons first rest =>
      obtain ⟨firstPos, restPos⟩ := List.forall_mem_cons.mp pos
      simpa [sumOf] using laws.pos_foldl_add (laws.zero_add_pos firstPos) restPos

end WeightLaws

namespace Classifier.TermVector

variable {R : Type} [Add R] [Mul R] [Div R] [Analytic R] {order : VectorOrder} {text : String}
  {vector left right : TermVector R}

theorem isEmpty_termFrequencies_iff :
    (termFrequencies text).entries.isEmpty = true ↔ analyze text = [] := by
  simp only [termFrequencies, Table.isEmpty_entries_iff, contains_tally_iff,
    List.eq_nil_iff_forall_not_mem]

theorem ofText?_eq_none_iff :
    (ofText? order text : Option (TermVector R)) = none ↔ analyze text = [] := by
  rw [← isEmpty_termFrequencies_iff, ofText?]
  split <;> simp_all

/-- What a vector binds a term to. -/
theorem get?_of_ofText? (found : ofText? order text = some vector) (term : String) :
    vector.weights.get? term = ((termFrequencies text).get? term).map fun frequency =>
      Analytic.natural frequency /
        Analytic.sqrt (sumOf (((termFrequencies text).valuesBy order.frequencies).map fun other =>
          Analytic.natural other * Analytic.natural other)) := by
  rw [ofText?] at found
  split at found
  · cases found
  · obtain rfl := Option.some.inj found
    exact Table.get?_map _ _ term

theorem size_of_ofText? (found : ofText? order text = some vector) :
    vector.weights.size = (termFrequencies text).size := by
  rw [ofText?] at found
  split at found
  · cases found
  · obtain rfl := Option.some.inj found
    exact Table.size_map _ _

theorem contains_of_ofText? (found : ofText? order text = some vector) {term : String} :
    vector.weights.contains term = true ↔ term ∈ analyze text := by
  rw [← contains_tally_iff, Table.contains, get?_of_ofText? found, Option.isSome_map]
  rfl

/-- The products that make up a similarity. -/
def products (fewer more : TermVector R) : List R :=
  (fewer.weights.entriesBy fewer.order).filterMap fun entry =>
    (more.weights.get? entry.1).map fun weight => entry.2 * weight

omit [Add R] [Div R] [Analytic R] in
theorem mem_products_iff {fewer more : TermVector R} {product : R} :
    product ∈ products fewer more ↔
      ∃ term a b, fewer.weights.get? term = some a ∧ more.weights.get? term = some b ∧
        a * b = product := by
  simp only [products, List.mem_filterMap, Prod.exists, Option.map_eq_some_iff,
    (fewer.weights.perm_entriesBy fewer.order).mem_iff, Table.get?_eq_some_iff]
  constructor
  · rintro ⟨term, a, aMem, b, bFound, rfl⟩
    exact ⟨term, a, b, aMem, bFound, rfl⟩
  · rintro ⟨term, a, b, aMem, bFound, rfl⟩
    exact ⟨term, a, aMem, b, bFound, rfl⟩

variable [LT R] {IsWeight : R → Prop} {Fits : Nat → Prop}

theorem isWeight_of_ofText? (laws : WeightLaws R IsWeight Fits)
    (fits : Fits (analyze text).length) (found : ofText? order text = some vector) {term : String}
    {weight : R} (bound : vector.weights.get? term = some weight) : IsWeight weight := by
  rw [get?_of_ofText? found, Option.map_eq_some_iff] at bound
  obtain ⟨frequency, counted, rfl⟩ := bound
  have perm := (termFrequencies text).perm_valuesBy order.frequencies
  refine laws.share (fun other member => ?_) ?_
    (perm.mem_iff.mpr (Table.mem_values_iff.mpr ⟨term, counted⟩))
  · obtain ⟨otherTerm, otherCounted⟩ := Table.mem_values_iff.mp (perm.mem_iff.mp member)
    exact pos_of_get?_tally otherCounted
  · rwa [perm.sum_eq, termFrequencies, sum_values_tally]

theorem pos_sumOf_products_iff (laws : WeightLaws R IsWeight Fits) {fewer more : TermVector R}
    (fewerWeights : ∀ term weight, fewer.weights.get? term = some weight → IsWeight weight)
    (moreWeights : ∀ term weight, more.weights.get? term = some weight → IsWeight weight) :
    Analytic.natural 0 < sumOf (products fewer more) ↔
      ∃ term, fewer.weights.contains term = true ∧ more.weights.contains term = true := by
  have pos : ∀ product ∈ products fewer more, Analytic.natural 0 < product := by
    intro product member
    obtain ⟨term, a, b, aFound, bFound, rfl⟩ := mem_products_iff.mp member
    exact laws.mul_pos (fewerWeights term a aFound) (moreWeights term b bFound)
  rw [laws.pos_sumOf_iff pos, ne_eq, List.eq_nil_iff_forall_not_mem]
  simp only [mem_products_iff, Table.contains, Option.isSome_iff_exists, not_forall, not_not]
  constructor
  · rintro ⟨_, term, a, b, aFound, bFound, _⟩
    exact ⟨term, ⟨a, aFound⟩, ⟨b, bFound⟩⟩
  · rintro ⟨term, ⟨a, aFound⟩, ⟨b, bFound⟩⟩
    exact ⟨a * b, term, a, b, aFound, bFound, rfl⟩

/-- Vectors of weights are similar if and only if they bind a term in common. -/
theorem pos_cosine_iff (laws : WeightLaws R IsWeight Fits)
    (leftWeights : ∀ term weight, left.weights.get? term = some weight → IsWeight weight)
    (rightWeights : ∀ term weight, right.weights.get? term = some weight → IsWeight weight) :
    Analytic.natural 0 < left.cosine right ↔
      ∃ term, left.weights.contains term = true ∧ right.weights.contains term = true := by
  by_cases smaller : left.weights.size ≤ right.weights.size
  · have cosineEq : left.cosine right = sumOf (products left right) := by
      simp [cosine, products, smaller]
    rw [cosineEq, pos_sumOf_products_iff laws leftWeights rightWeights]
  · have cosineEq : left.cosine right = sumOf (products right left) := by
      simp [cosine, products, smaller]
    rw [cosineEq, pos_sumOf_products_iff laws rightWeights leftWeights]
    exact exists_congr fun term => and_comm

/-- The vectors of two texts are similar if and only if the texts have a term in common. -/
theorem pos_cosine_ofText?_iff (laws : WeightLaws R IsWeight Fits)
    {leftOrder rightOrder : VectorOrder} {leftText rightText : String}
    (leftFits : Fits (analyze leftText).length) (rightFits : Fits (analyze rightText).length)
    (leftFound : ofText? leftOrder leftText = some left)
    (rightFound : ofText? rightOrder rightText = some right) :
    Analytic.natural 0 < left.cosine right ↔
      ∃ term, term ∈ analyze leftText ∧ term ∈ analyze rightText := by
  rw [pos_cosine_iff laws (fun _ _ => isWeight_of_ofText? laws leftFits leftFound)
    (fun _ _ => isWeight_of_ofText? laws rightFits rightFound)]
  simp only [contains_of_ofText? leftFound, contains_of_ofText? rightFound]

end Classifier.TermVector

/-- Positive numbers are weights, and a text may have any number of terms. -/
theorem weightLaws_real : WeightLaws ℝ (fun weight => 0 < weight) fun _ => True where
  zero_not_pos := lt_irrefl _
  zero_add_pos pos := by simpa using pos
  add_pos aPos bPos := by
    rw [natural_real, Nat.cast_zero] at *
    exact add_pos aPos bPos
  mul_pos aPos bPos := by simpa using mul_pos aPos bPos
  share {frequencies frequency} pos _ member := by
    have squarePos : 0 < (frequencies.map fun other : Nat => (other : ℝ) * other).sum := by
      refine List.sum_pos _ (fun square squareMem => ?_) ?_
      · obtain ⟨other, otherMem, rfl⟩ := List.mem_map.mp squareMem
        have otherPos : (0 : ℝ) < other := Nat.cast_pos.mpr (pos other otherMem)
        exact mul_pos otherPos otherPos
      · exact List.ne_nil_of_mem (List.mem_map_of_mem member)
    have own : (0 : ℝ) < frequency := Nat.cast_pos.mpr (pos frequency member)
    simpa using div_pos own (Real.sqrt_pos.mpr squarePos)

end QuestionSearch
