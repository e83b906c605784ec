import Mathlib
import QuestionSearch.Single

/-!
# Ranking

Items are ranked by a key, greater keys first. The order in which floating-point numbers are ranked
is linear also where some of them are no numbers (`linearlyRanked_single`, `linearlyRanked_float`).
That an earlier item comes first where keys are equal is nowhere compared: ranking keeps the order
of what it leaves apart (`pairwise_rankDescending`).
-/

namespace QuestionSearch

/-- Whether the order in which values are ranked is linear. -/
structure LinearlyRanked (R : Type) [Ranked R] : Prop where
  trans : ∀ x y z : R, Ranked.atMost x y = true → Ranked.atMost y z = true →
    Ranked.atMost x z = true
  total : ∀ x y : R, (Ranked.atMost x y || Ranked.atMost y x) = true
  antisymm : ∀ x y : R, Ranked.atMost x y = true → Ranked.atMost y x = true → x = y

theorem rankOfBits_inj {width bits others : Nat}
    (same : rankOfBits width bits = rankOfBits width others) : bits = others := by
  unfold rankOfBits at same
  split at same <;> split at same <;> omega

/-- Values are ranked linearly if each has a rank of its own. -/
theorem linearlyRanked_of_rank {R β : Type} [Ranked R] [LinearOrder β] {rank : R → β}
    (atMost_iff : ∀ x y : R, Ranked.atMost x y = true ↔ rank x ≤ rank y)
    (injective : Function.Injective rank) : LinearlyRanked R where
  trans x y z := by
    simp only [atMost_iff]
    exact le_trans
  total x y := by
    simp only [Bool.or_eq_true, atMost_iff]
    exact le_total _ _
  antisymm x y := by
    simp only [atMost_iff]
    exact fun below above => injective (le_antisymm below above)

/-- Values that are not numbers are ranked too, and no two different values share a rank. -/
theorem linearlyRanked_single : LinearlyRanked Single :=
  linearlyRanked_of_rank (fun _ _ => decide_eq_true_iff) fun _ _ same =>
    congrArg Single.mk (UInt32.toNat_inj.mp (rankOfBits_inj same))

/-- The sum of both infinities is no number and ranks even below the negative one. -/
example : Ranked.atMost (⟨0x7F800000⟩ + ⟨0xFF800000⟩ : Single) ⟨0xFF800000⟩ = true := by
  decide +kernel

theorem linearlyRanked_float : LinearlyRanked Float :=
  linearlyRanked_of_rank (fun _ _ => decide_eq_true_iff) fun _ _ same =>
    Float.toBits_inj.mp (UInt64.toNat_inj.mp (rankOfBits_inj same))

section Ranking

variable {α R : Type} [Ranked R]

theorem perm_rankDescending (key : α → R) (items : List α) :
    (rankDescending key items).Perm items :=
  List.mergeSort_perm items _

/-- Items are ranked as what stands for them. -/
theorem map_rankDescending {β : Type} (key : β → R) (image : α → β) (items : List α) :
    (rankDescending (fun item => key (image item)) items).map image =
      rankDescending key (items.map image) :=
  List.map_mergeSort fun _ _ _ _ => rfl

/-- Of ranked items an earlier one has the greater key, or the keys are equal and it was earlier
before. -/
theorem pairwise_rankDescending (ranks : LinearlyRanked R) {key : α → R} {before : α → α → Prop}
    {items : List α} (ordered : items.Pairwise before) :
    (rankDescending key items).Pairwise fun first second =>
      Ranked.atMost (key first) (key second) = false ∨
        key first = key second ∧ before first second := by
  have trans (x y z : α) : Ranked.atMost (key y) (key x) = true →
      Ranked.atMost (key z) (key y) = true → Ranked.atMost (key z) (key x) = true :=
    fun first second => ranks.trans _ _ _ second first
  have total (x y : α) :
      (Ranked.atMost (key y) (key x) || Ranked.atMost (key x) (key y)) = true := ranks.total _ _
  induction items with
  | nil => simp [rankDescending]
  | cons item rest ih =>
      obtain ⟨itemBefore, restOrdered⟩ := List.pairwise_cons.mp ordered
      -- The first item is put behind those that rank above it, and before all others.
      obtain ⟨higher, lower, whole, others, above⟩ := List.mergeSort_cons trans total item rest
      have sorted := List.pairwise_mergeSort trans total (item :: rest)
      have ranked := ih restOrdered
      rw [rankDescending, others] at ranked
      rw [rankDescending, whole]
      rw [whole] at sorted
      obtain ⟨higherOrdered, lowerOrdered, across⟩ := List.pairwise_append.mp ranked
      refine List.pairwise_append.mpr
        ⟨higherOrdered, List.pairwise_cons.mpr ⟨fun next member => ?_, lowerOrdered⟩,
          fun first firstMem next member => ?_⟩
      · have atMost := (List.pairwise_cons.mp (List.pairwise_append.mp sorted).2.1).1 next member
        have nextMem : next ∈ rest := by
          rw [← List.mem_mergeSort, others]
          exact List.mem_append_right _ member
        by_cases tied : Ranked.atMost (key item) (key next) = true
        · exact Or.inr ⟨ranks.antisymm _ _ tied atMost, itemBefore next nextMem⟩
        · exact Or.inl (Bool.eq_false_of_not_eq_true tied)
      · rcases List.mem_cons.mp member with rfl | later
        · exact Or.inl (Bool.not_eq_true' _ ▸ above first firstMem)
        · exact across first firstMem next later

end Ranking

end QuestionSearch
