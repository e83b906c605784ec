/-!
# Ranges of code points

A class of characters is a list of closed ranges of code points, ascending and apart. A range can
then be refused or accepted as soon as it is reached, which `inRanges` does.
-/

namespace QuestionSearch.Text

/-- Whether a code point lies in one of the ranges. The ranges ascend and do not meet, so the first
one that ends at or after the code point decides. -/
def inRanges (code : Nat) : List (Nat × Nat) → Bool
  | [] => false
  | (first, last) :: rest =>
    if last < code then inRanges code rest else first ≤ code

theorem mem_of_inRanges {code : Nat} {ranges : List (Nat × Nat)}
    (hinside : inRanges code ranges = true) :
    ∃ range ∈ ranges, range.1 ≤ code ∧ code ≤ range.2 := by
  induction ranges with
  | nil => simp [inRanges] at hinside
  | cons range rest ih =>
    by_cases hpast : range.2 < code
    · simp only [inRanges, hpast, if_true] at hinside
      obtain ⟨found, hmem, hbounds⟩ := ih hinside
      exact ⟨found, List.mem_cons_of_mem _ hmem, hbounds⟩
    · simp only [inRanges, hpast, if_false, decide_eq_true_eq] at hinside
      exact ⟨range, List.mem_cons_self, hinside, Nat.le_of_not_lt hpast⟩

end QuestionSearch.Text
