import Mathlib.Algebra.GroupWithZero.Nat
import QuestionSearch.Text.Analysis

/-!
# Tallies

A tally binds each term of a list to how often it occurs (`getD_get?_tally`), and nothing else
(`contains_tally_iff`). Its counts add up to the length of the list (`sum_values_tally`).
-/

namespace QuestionSearch

theorem sum_insertEntry {key : String} {value : Nat} {entries : List (String × Nat)}
    (ascending : AscendingEntries entries) :
    ((insertEntry key value entries).map Prod.snd).sum + (lookupEntry key entries).getD 0 =
      (entries.map Prod.snd).sum + value := by
  induction entries with
  | nil => simp [insertEntry, lookupEntry]
  | cons entry rest ih =>
      obtain ⟨above, restAscending⟩ := List.pairwise_cons.mp ascending
      rw [insertEntry]
      split
      · rename_i before
        have absent : lookupEntry key (entry :: rest) = none := by
          refine lookupEntry_eq_none_of_lt fun other member => ?_
          rcases List.mem_cons.mp member with rfl | later
          · exact before
          · exact String.lt_trans before (above other later)
        rw [absent]
        simp
        omega
      · split
        · rename_i same
          simp [lookupEntry, same]
          omega
        · rename_i different
          have later := ih restAscending
          simp only [lookupEntry, different, if_false, List.map_cons, List.sum_cons]
          omega

/-- Binding a key adds its value to the sum of all, less what the key was bound to. -/
theorem Table.sum_values_insert (table : Table Nat) (key : String) (value : Nat) :
    (table.insert key value).values.sum + (table.get? key).getD 0 = table.values.sum + value :=
  sum_insertEntry table.ascending

namespace Text

/-- Counts one more occurrence of a term. -/
def countTerm (counts : Table Nat) (term : String) : Table Nat :=
  counts.insert term ((counts.get? term).getD 0 + 1)

theorem tally_eq (terms : List String) : tally terms = terms.foldl countTerm .empty := rfl

theorem contains_tally_iff {terms : List String} {term : String} :
    (tally terms).contains term = true ↔ term ∈ terms := by
  rw [tally, Table.contains_foldl_insert fun counts term => (counts.get? term).getD 0 + 1]
  simp [Table.contains]

theorem pos_of_get?_foldl_countTerm {terms : List String} {counts : Table Nat}
    (before : ∀ term count, counts.get? term = some count → 0 < count) {term : String}
    {count : Nat} (found : (terms.foldl countTerm counts).get? term = some count) : 0 < count := by
  induction terms generalizing counts with
  | nil => exact before term count found
  | cons first rest ih =>
      refine ih (fun other otherCount otherFound => ?_) found
      rw [countTerm, Table.get?_insert] at otherFound
      split at otherFound
      · obtain rfl := Option.some.inj otherFound
        exact Nat.succ_pos _
      · exact before other otherCount otherFound

/-- A term that is counted occurs. -/
theorem pos_of_get?_tally {terms : List String} {term : String} {count : Nat}
    (found : (tally terms).get? term = some count) : 0 < count :=
  pos_of_get?_foldl_countTerm (fun _ _ absent => by cases absent) found

theorem sum_foldl_countTerm (terms : List String) (counts : Table Nat) :
    (terms.foldl countTerm counts).values.sum = counts.values.sum + terms.length := by
  induction terms generalizing counts with
  | nil => rfl
  | cons first rest ih =>
      have added := counts.sum_values_insert first ((counts.get? first).getD 0 + 1)
      rw [List.foldl_cons, ih, countTerm, List.length_cons]
      omega

/-- No occurrence is lost. -/
theorem sum_values_tally (terms : List String) : (tally terms).values.sum = terms.length := by
  rw [tally_eq, sum_foldl_countTerm]
  exact Nat.zero_add _

theorem getD_get?_foldl_countTerm (terms : List String) (counts : Table Nat) (term : String) :
    ((terms.foldl countTerm counts).get? term).getD 0 =
      (counts.get? term).getD 0 + terms.count term := by
  induction terms generalizing counts with
  | nil => rfl
  | cons first rest ih =>
      rw [List.foldl_cons, ih, countTerm, Table.get?_insert, List.count_cons]
      by_cases same : term = first
      · subst same
        simp
        omega
      · simp [same, Ne.symm same]

/-- A term is counted as often as it occurs. -/
theorem getD_get?_tally (terms : List String) (term : String) :
    ((tally terms).get? term).getD 0 = terms.count term := by
  rw [tally_eq, getD_get?_foldl_countTerm]
  exact Nat.zero_add _

theorem get?_tally (terms : List String) (term : String) :
    (tally terms).get? term = if term ∈ terms then some (terms.count term) else none := by
  have counted := getD_get?_tally terms term
  split
  · rename_i occurs
    obtain ⟨count, found⟩ := Option.isSome_iff_exists.mp (contains_tally_iff.mpr occurs)
    rw [found] at counted ⊢
    exact congrArg some counted
  · rename_i absent
    rw [← contains_tally_iff, Table.contains, Option.not_isSome_iff_eq_none] at absent
    exact absent

/-- A tally does not depend on the order of the terms. -/
theorem tally_perm {terms others : List String} (perm : terms.Perm others) :
    tally terms = tally others := by
  refine Table.ext_get? fun term => ?_
  rw [get?_tally, get?_tally, perm.count_eq]
  exact if_congr perm.mem_iff rfl rfl

end Text

end QuestionSearch
