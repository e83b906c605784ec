import QuestionSearch.Table.Entries

/-!
# Tables

A table binds text keys to values and lists its entries in ascending order of their keys, the order
of code points. Two tables that bind the same keys to the same values are equal (`Table.ext_get?`).
-/

namespace QuestionSearch

variable {α β : Type}

/-- Values bound to text keys, in ascending order of the keys. -/
structure Table (α : Type) where
  /-- The keys with what they are bound to. -/
  entries : List (String × α)
  /-- The keys ascend strictly. -/
  ascending : AscendingEntries entries
deriving DecidableEq

namespace Table

/-- The table that binds nothing. -/
def empty : Table α := ⟨[], List.Pairwise.nil⟩

instance : Inhabited (Table α) := ⟨empty⟩

instance [Repr α] : Repr (Table α) := ⟨fun table => reprPrec table.entries⟩

/-- Binds a key, replacing what it was bound to. -/
def insert (table : Table α) (key : String) (value : α) : Table α :=
  ⟨insertEntry key value table.entries, ascending_insertEntry table.ascending⟩

/-- What a key is bound to. -/
def get? (table : Table α) (key : String) : Option α :=
  lookupEntry key table.entries

/-- Whether a key is bound. -/
def contains (table : Table α) (key : String) : Bool :=
  (table.get? key).isSome

/-- Keeps the entries whose key passes a test. -/
def filterKeys (table : Table α) (keeps : String → Bool) : Table α :=
  ⟨table.entries.filter fun entry => keeps entry.1, table.ascending.filter _⟩

/-- Unbinds a key. -/
def erase (table : Table α) (key : String) : Table α :=
  table.filterKeys (· ≠ key)

/-- The number of bound keys. -/
def size (table : Table α) : Nat := table.entries.length

/-- The bound keys, ascending. -/
def keys (table : Table α) : List String := table.entries.map Prod.fst

/-- The bound values, in the order of their keys. -/
def values (table : Table α) : List α := table.entries.map Prod.snd

/-- The table of some entries. Of two entries with one key the later one counts. -/
def ofList (entries : List (String × α)) : Table α :=
  ⟨sortEntries entries, ascending_sortEntries entries⟩

/-- Replaces each bound value by its image. -/
def map (image : α → β) (table : Table α) : Table β :=
  ⟨table.entries.map fun entry => (entry.1, image entry.2),
    by simpa only [AscendingEntries, List.pairwise_map] using table.ascending⟩

@[simp]
theorem get?_empty (key : String) : (empty : Table α).get? key = none := rfl

@[simp]
theorem get?_insert (table : Table α) (key query : String) (value : α) :
    (table.insert key value).get? query = if query = key then some value else table.get? query :=
  lookupEntry_insertEntry key query value table.entries

theorem get?_eq_some_iff {table : Table α} {key : String} {value : α} :
    table.get? key = some value ↔ (key, value) ∈ table.entries :=
  lookupEntry_eq_some_iff table.ascending

@[simp]
theorem get?_filterKeys (table : Table α) (keeps : String → Bool) (key : String) :
    (table.filterKeys keeps).get? key = if keeps key then table.get? key else none := by
  apply Option.ext
  intro value
  rw [get?_eq_some_iff]
  by_cases hkeeps : keeps key = true
  · simp [filterKeys, hkeeps, get?_eq_some_iff]
  · simp [filterKeys, hkeeps]

@[simp]
theorem get?_erase (table : Table α) (key query : String) :
    (table.erase key).get? query = if query = key then none else table.get? query := by
  by_cases heq : query = key <;> simp [erase, heq]

@[simp]
theorem get?_map (image : α → β) (table : Table α) (key : String) :
    (table.map image).get? key = (table.get? key).map image := by
  change lookupEntry key (table.entries.map fun entry => (entry.1, image entry.2)) =
    (lookupEntry key table.entries).map image
  induction table.entries with
  | nil => rfl
  | cons head rest ih => by_cases heq : key = head.1 <;> simp [lookupEntry, heq, ih]

/-- What a key is bound to after some entries have been put in: theirs count first. -/
theorem get?_foldl_insert (image : String → α → β) {entries : List (String × α)}
    (hascending : AscendingEntries entries) (start : Table β) (key : String) :
    (entries.foldl (fun table entry => table.insert entry.1 (image entry.1 entry.2)) start).get?
        key =
      ((lookupEntry key entries).map (image key)).or (start.get? key) := by
  induction entries generalizing start with
  | nil => rfl
  | cons head rest ih =>
    obtain ⟨hhead, hrest⟩ := List.pairwise_cons.mp hascending
    rw [List.foldl_cons, ih hrest, get?_insert]
    by_cases heq : key = head.1
    · subst heq
      simp [lookupEntry, lookupEntry_eq_none_of_lt hhead]
    · simp [lookupEntry, heq]

theorem mem_keys_iff {table : Table α} {key : String} :
    key ∈ table.keys ↔ table.contains key = true := by
  rw [contains, Option.isSome_iff_exists, keys, List.mem_map]
  constructor
  · rintro ⟨⟨_, value⟩, hmem, rfl⟩
    exact ⟨value, get?_eq_some_iff.mpr hmem⟩
  · rintro ⟨value, hvalue⟩
    exact ⟨(key, value), get?_eq_some_iff.mp hvalue, rfl⟩

theorem isEmpty_entries_iff {table : Table α} :
    table.entries.isEmpty = true ↔ ∀ key, ¬ table.contains key = true := by
  simp only [← mem_keys_iff, ← List.eq_nil_iff_forall_not_mem, keys, List.map_eq_nil_iff,
    List.isEmpty_iff]

/-- After keys have been bound in turn, they are bound besides those that were. -/
theorem contains_foldl_insert (value : Table α → String → α) {keys : List String}
    {table : Table α} {key : String} :
    (keys.foldl (fun table key => table.insert key (value table key)) table).contains key = true ↔
      key ∈ keys ∨ table.contains key = true := by
  induction keys generalizing table with
  | nil => simp
  | cons first rest ih =>
    rw [List.foldl_cons, ih, contains, get?_insert, List.mem_cons]
    by_cases heq : key = first
    · simp [heq]
    · simp [heq, contains]

theorem nodup_keys (table : Table α) : table.keys.Nodup := by
  rw [List.nodup_iff_pairwise_ne, keys, List.pairwise_map]
  refine table.ascending.imp fun {first second} hbefore heq => ?_
  exact String.lt_irrefl _ (heq ▸ hbefore)

theorem mem_values_iff {table : Table α} {value : α} :
    value ∈ table.values ↔ ∃ key, table.get? key = some value := by
  simp [values, get?_eq_some_iff]

/-- If an image is given at one key at most, it is that of what this key is bound to. -/
theorem filterMap_values_of_key (table : Table α) (key : String)
    (image : α → Option β)
    (elsewhere : ∀ entry ∈ table.entries, entry.1 ≠ key → image entry.2 = none) :
    table.values.filterMap image = (table.get? key).toList.filterMap image := by
  obtain ⟨entries, ascending⟩ := table
  simp only [values, get?] at elsewhere ⊢
  induction entries with
  | nil => rfl
  | cons entry rest ih =>
      obtain ⟨above, restAscending⟩ := List.pairwise_cons.mp ascending
      obtain ⟨entryElsewhere, restElsewhere⟩ := List.forall_mem_cons.mp elsewhere
      rw [lookupEntry, List.map_cons]
      split
      · rename_i same
        have nothing : (rest.map Prod.snd).filterMap image = [] := by
          rw [List.filterMap_map, List.filterMap_eq_nil_iff]
          intro later member
          exact restElsewhere later member fun again =>
            String.lt_irrefl _ (again.trans same ▸ above later member)
        rw [List.filterMap_cons, nothing]
        cases found : image entry.2 <;> simp [found]
      · rename_i different
        rw [List.filterMap_cons_none (entryElsewhere (Ne.symm different))]
        exact ih restAscending restElsewhere

@[simp]
theorem contains_filterKeys (table : Table α) (keeps : String → Bool) (key : String) :
    (table.filterKeys keeps).contains key = (keeps key && table.contains key) := by
  cases hkeeps : keeps key <;> simp [contains, hkeeps]

@[simp]
theorem contains_map (image : α → β) (table : Table α) (key : String) :
    (table.map image).contains key = table.contains key := by
  simp [contains]

@[simp]
theorem size_map (image : α → β) (table : Table α) : (table.map image).size = table.size := by
  simp [size, map]

theorem size_insert (table : Table α) (key : String) (value : α) :
    (table.insert key value).size =
      if table.contains key then table.size else table.size + 1 :=
  length_insertEntry key value table.ascending

/-- Entries are kept or they go. -/
theorem size_filterKeys (table : Table α) (keeps : String → Bool) :
    (table.filterKeys keeps).size + table.keys.countP (fun key => !keeps key) = table.size := by
  rw [size, filterKeys, ← List.countP_eq_length_filter, keys, List.countP_map, size,
    List.length_eq_countP_add_countP (fun entry => keeps entry.1)]
  simp [Function.comp_def]

/-- Ascending entries are determined by their members. -/
theorem ascendingEntries_ext {left right : List (String × α)} (hleft : AscendingEntries left)
    (hright : AscendingEntries right) (hmem : ∀ entry, entry ∈ left ↔ entry ∈ right) :
    left = right := by
  induction left generalizing right with
  | nil =>
    cases right with
    | nil => rfl
    | cons head rest => exact absurd ((hmem head).mpr List.mem_cons_self) List.not_mem_nil
  | cons head rest ih =>
    cases right with
    | nil => exact absurd ((hmem head).mp List.mem_cons_self) List.not_mem_nil
    | cons other others =>
      obtain ⟨hhead, hrest⟩ := List.pairwise_cons.mp hleft
      obtain ⟨hother, hothers⟩ := List.pairwise_cons.mp hright
      have hsame : head = other := by
        rcases List.mem_cons.mp ((hmem head).mp List.mem_cons_self) with heq | hlater
        · exact heq
        · rcases List.mem_cons.mp ((hmem other).mpr List.mem_cons_self) with heq | hlater'
          · exact heq.symm
          · exact absurd (String.lt_trans (hother _ hlater) (hhead _ hlater'))
              (String.lt_irrefl _)
      subst hsame
      refine congrArg (head :: ·) (ih hrest hothers fun entry => ?_)
      constructor
      · intro hentry
        rcases List.mem_cons.mp ((hmem entry).mp (List.mem_cons_of_mem _ hentry)) with heq | hlater
        · exact absurd (heq ▸ hhead entry hentry) (String.lt_irrefl _)
        · exact hlater
      · intro hentry
        rcases List.mem_cons.mp ((hmem entry).mpr (List.mem_cons_of_mem _ hentry)) with heq | hlater
        · exact absurd (heq ▸ hother entry hentry) (String.lt_irrefl _)
        · exact hlater

/-- Tables that bind the same keys to the same values are equal. -/
theorem ext_get? {left right : Table α} (hget : ∀ key, left.get? key = right.get? key) :
    left = right := by
  obtain ⟨leftEntries, hleft⟩ := left
  obtain ⟨rightEntries, hright⟩ := right
  congr
  refine ascendingEntries_ext hleft hright fun entry => ?_
  obtain ⟨key, value⟩ := entry
  rw [← lookupEntry_eq_some_iff hleft, ← lookupEntry_eq_some_iff hright]
  exact iff_of_eq (congrArg (· = some value) (hget key))

/-- Tables of nothing but keys are equal once their keys are. -/
theorem ext_contains {left right : Table Unit}
    (same : ∀ key, left.contains key = right.contains key) : left = right := by
  refine ext_get? fun key => ?_
  have sameKey := same key
  rw [contains, contains] at sameKey
  cases hleft : left.get? key <;> cases hright : right.get? key <;> simp_all

theorem map_insert (image : α → β) (table : Table α) (key : String) (value : α) :
    (table.insert key value).map image = (table.map image).insert key (image value) := by
  refine ext_get? fun query => ?_
  simp only [get?_map, get?_insert]
  split <;> rfl

theorem map_filterKeys (image : α → β) (table : Table α) (keeps : String → Bool) :
    (table.filterKeys keeps).map image = (table.map image).filterKeys keeps := by
  refine ext_get? fun query => ?_
  simp only [get?_map, get?_filterKeys]
  split <;> rfl

/-- Unbinding a key that is not bound changes nothing. -/
theorem erase_eq_self {table : Table α} {key : String} (hunbound : table.contains key = false) :
    table.erase key = table := by
  refine ext_get? fun query => ?_
  rw [get?_erase]
  split
  · rename_i heq
    rw [contains, Option.isSome_eq_false_iff, Option.isNone_iff_eq_none] at hunbound
    rw [heq, hunbound]
  · rfl

end Table

end QuestionSearch
