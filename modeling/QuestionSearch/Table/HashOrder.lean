import QuestionSearch.Table

/-!
# Hash orders

A hash table gives its entries in an order that the hashes of their keys decide. The hashes are
drawn anew for each table, so nothing is known of this order, and what is computed in the course of
it may differ from table to table.
-/

namespace QuestionSearch

/-- The order in which a hash table gives its entries. -/
structure HashOrder where
  /-- Puts the keys of a table in the order in which the table gives them. -/
  arrange : List String → List String
  /-- No key is lost or given twice. -/
  perm_arrange (keys : List String) : (arrange keys).Perm keys

/-- The order of the keys. -/
def HashOrder.ofKeys : HashOrder := ⟨id, fun _ => .refl _⟩

namespace Table

variable {α : Type}

/-- The entries of a table for some of its keys. -/
def entriesAt (table : Table α) (keys : List String) : List (String × α) :=
  keys.filterMap fun key => (table.get? key).map fun value => (key, value)

/-- The entries of a table in the order in which it gives them. -/
def entriesBy (table : Table α) (order : HashOrder) : List (String × α) :=
  table.entriesAt (order.arrange table.keys)

/-- The bound values of a table in the order in which it gives them. -/
def valuesBy (table : Table α) (order : HashOrder) : List α :=
  (table.entriesBy order).map Prod.snd

theorem entriesAt_keys {table : Table α} {given : List (String × α)}
    (listed : ∀ entry ∈ given, entry ∈ table.entries) :
    table.entriesAt (given.map Prod.fst) = given := by
  induction given with
  | nil => rfl
  | cons entry rest ih =>
      obtain ⟨first, later⟩ := List.forall_mem_cons.mp listed
      rw [List.map_cons, entriesAt, List.filterMap_cons, get?_eq_some_iff.mpr first]
      exact congrArg (entry :: ·) (ih later)

theorem perm_entriesBy (table : Table α) (order : HashOrder) :
    (table.entriesBy order).Perm table.entries := by
  have perm := (order.perm_arrange table.keys).filterMap fun key =>
    (table.get? key).map fun value => (key, value)
  exact perm.trans (.of_eq (entriesAt_keys fun _ => id))

theorem perm_valuesBy (table : Table α) (order : HashOrder) :
    (table.valuesBy order).Perm table.values :=
  (table.perm_entriesBy order).map Prod.snd

/-- There is one order of one entry. -/
theorem entriesBy_of_size_le_one {table : Table α} (small : table.size ≤ 1) (order : HashOrder) :
    table.entriesBy order = table.entries := by
  have perm := table.perm_entriesBy order
  cases entries : table.entries with
  | nil => simpa [entries] using perm
  | cons entry rest =>
      obtain rfl : rest = [] := by simpa [Table.size, entries] using small
      simpa [entries] using perm

/-- Every order of the entries of a table is a hash order. -/
theorem exists_entriesBy_eq {table : Table α} {given : List (String × α)}
    (perm : given.Perm table.entries) : ∃ order, table.entriesBy order = given := by
  let arrange (keys : List String) := if keys = table.keys then given.map Prod.fst else keys
  refine ⟨⟨arrange, fun keys => ?_⟩, ?_⟩
  · by_cases own : keys = table.keys
    · simp only [arrange, own, if_pos]
      exact perm.map Prod.fst
    · simp only [arrange, own, if_false]
      exact .refl keys
  · simp only [entriesBy, arrange, if_pos]
    exact entriesAt_keys fun _ => perm.mem_iff.mp

end Table

end QuestionSearch
