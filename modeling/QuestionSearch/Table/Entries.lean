/-!
# Keyed entries in order

Lists of keyed entries whose keys ascend strictly. `insertEntry` binds a key, in place if the key
is bound already; `lookup_insertEntry` says what a later look-up finds. Nested types, which cannot
hold a `Table`, hold such a list.
-/

namespace QuestionSearch

variable {α β : Type}

/-- Binds a key in ascending entries, replacing what it was bound to. -/
def insertEntry (key : String) (value : α) : List (String × α) → List (String × α)
  | [] => [(key, value)]
  | entry :: rest =>
    if key < entry.1 then (key, value) :: entry :: rest
    else if key = entry.1 then (key, value) :: rest
    else entry :: insertEntry key value rest

/-- What a key is bound to. -/
def lookupEntry (key : String) : List (String × α) → Option α
  | [] => none
  | entry :: rest => if key = entry.1 then some entry.2 else lookupEntry key rest

/-- Entries whose keys ascend strictly. -/
def AscendingEntries (entries : List (String × α)) : Prop :=
  entries.Pairwise (fun left right => left.1 < right.1)

/-- The entries of a list in ascending order. Of two entries with one key the later one counts. -/
def sortEntries (entries : List (String × α)) : List (String × α) :=
  entries.foldl (fun sorted entry => insertEntry entry.1 entry.2 sorted) []

theorem mem_insertEntry {key : String} {value : α} {entry : String × α}
    {entries : List (String × α)} (hmem : entry ∈ insertEntry key value entries) :
    entry = (key, value) ∨ entry ∈ entries := by
  induction entries with
  | nil => simpa [insertEntry] using hmem
  | cons head rest ih =>
    simp only [insertEntry] at hmem
    split at hmem
    · simpa using hmem
    · split at hmem
      · rcases List.mem_cons.mp hmem with hhead | hrest
        · exact Or.inl hhead
        · exact Or.inr (List.mem_cons_of_mem _ hrest)
      · rcases List.mem_cons.mp hmem with rfl | hrest
        · exact Or.inr List.mem_cons_self
        · exact (ih hrest).imp_right (List.mem_cons_of_mem _)

theorem ascending_insertEntry {key : String} {value : α} {entries : List (String × α)}
    (hascending : AscendingEntries entries) : AscendingEntries (insertEntry key value entries) := by
  induction entries with
  | nil => simp [AscendingEntries, insertEntry]
  | cons head rest ih =>
    obtain ⟨hhead, hrest⟩ := List.pairwise_cons.mp hascending
    simp only [AscendingEntries, insertEntry]
    split
    · rename_i hbefore
      refine List.Pairwise.cons ?_ hascending
      intro entry hmem
      rcases List.mem_cons.mp hmem with rfl | hmem
      · exact hbefore
      · exact String.lt_trans hbefore (hhead entry hmem)
    · rename_i hnotBefore
      split
      · rename_i heq
        exact List.Pairwise.cons (fun entry hmem => heq ▸ hhead entry hmem) hrest
      · rename_i hne
        refine List.Pairwise.cons (fun entry hmem => ?_) (ih hrest)
        rcases mem_insertEntry hmem with rfl | hmem
        · refine Decidable.by_contra fun hnotAfter => hne ?_
          exact String.le_antisymm (String.not_lt.mp hnotAfter) (String.not_lt.mp hnotBefore)
        · exact hhead entry hmem

theorem ascending_sortEntries (entries : List (String × α)) :
    AscendingEntries (sortEntries entries) := by
  suffices hfold : ∀ sorted : List (String × α), AscendingEntries sorted →
      AscendingEntries
        (entries.foldl (fun sorted entry => insertEntry entry.1 entry.2 sorted) sorted)
    from hfold [] List.Pairwise.nil
  induction entries with
  | nil => exact fun sorted hsorted => hsorted
  | cons entry rest ih => exact fun sorted hsorted => ih _ (ascending_insertEntry hsorted)

theorem lookupEntry_insertEntry (key query : String) (value : α) (entries : List (String × α)) :
    lookupEntry query (insertEntry key value entries) =
      if query = key then some value else lookupEntry query entries := by
  induction entries with
  | nil => simp [insertEntry, lookupEntry]
  | cons head rest ih =>
    simp only [insertEntry]
    split
    · simp [lookupEntry]
    · split
      · rename_i heq
        subst heq
        by_cases hquery : query = head.1 <;> simp [lookupEntry, hquery]
      · rename_i hne
        by_cases hquery : query = head.1
        · have hqueryNe : query ≠ key := fun heq => hne (heq ▸ hquery)
          simp [lookupEntry, hquery, Ne.symm hne]
        · simp [lookupEntry, hquery, ih]

/-- A key that is bound in ascending entries has no other entry. -/
theorem lookupEntry_eq_some_iff {key : String} {value : α} {entries : List (String × α)}
    (hascending : AscendingEntries entries) :
    lookupEntry key entries = some value ↔ (key, value) ∈ entries := by
  induction entries with
  | nil => simp [lookupEntry]
  | cons head rest ih =>
    obtain ⟨hhead, hrest⟩ := List.pairwise_cons.mp hascending
    by_cases heq : key = head.1
    · subst heq
      have habsent : (head.1, value) ∉ rest := fun hmem =>
        String.lt_irrefl head.1 (hhead (head.1, value) hmem)
      simp only [lookupEntry, if_true, Option.some.injEq, List.mem_cons, habsent, or_false]
      constructor
      · rintro rfl
        rfl
      · exact fun hpair => congrArg Prod.snd hpair.symm ▸ rfl
    · have hne : (key, value) ≠ head := fun hpair => heq (congrArg Prod.fst hpair)
      simp [lookupEntry, heq, ih hrest, hne]

/-- No entry has a key below all keys. -/
theorem lookupEntry_eq_none_of_lt {key : String} {entries : List (String × α)}
    (hbelow : ∀ entry ∈ entries, key < entry.1) : lookupEntry key entries = none := by
  induction entries with
  | nil => rfl
  | cons head rest ih =>
    obtain ⟨hhead, hrest⟩ := List.forall_mem_cons.mp hbelow
    have hne : key ≠ head.1 := fun heq => String.lt_irrefl _ (heq ▸ hhead)
    rw [lookupEntry, if_neg hne, ih hrest]

/-- Binding a key adds an entry unless the key is bound. -/
theorem length_insertEntry (key : String) (value : α) {entries : List (String × α)}
    (hascending : AscendingEntries entries) :
    (insertEntry key value entries).length =
      if (lookupEntry key entries).isSome then entries.length else entries.length + 1 := by
  induction entries with
  | nil => rfl
  | cons head rest ih =>
    obtain ⟨hhead, hrest⟩ := List.pairwise_cons.mp hascending
    by_cases hbefore : key < head.1
    · have hbelow : ∀ entry ∈ head :: rest, key < entry.1 :=
        List.forall_mem_cons.mpr
          ⟨hbefore, fun entry hmem => String.lt_trans hbefore (hhead entry hmem)⟩
      simp [insertEntry, hbefore, lookupEntry_eq_none_of_lt hbelow]
    · by_cases heq : key = head.1
      · simp [insertEntry, lookupEntry, heq]
      · simp only [insertEntry, hbefore, heq, if_false, lookupEntry, List.length_cons, ih hrest]
        split <;> rfl

end QuestionSearch
