import QuestionSearch.Proofs.Content.Addresses
import QuestionSearch.Proofs.Json.ValueEquality

/-!
# Nodes and equality of content trees

The node at an address is found by following its names. Two trees are equal if their properties are
and their children, which stand in the same order, are equal one by one; this can also be said by
look-ups alone (`equals_iff`).
-/

namespace QuestionSearch.Content

open QuestionSearch.Json

namespace ContentNode

/-- The node at an address below a node. -/
def at? (content : ContentNode) : List String → Option ContentNode
  | [] => some content
  | name :: rest => (lookupEntry name content.children).bind fun child => child.at? rest

mutual

/-- Whether a tree holds what it can: real numbers, and children that ascend and have names. -/
def WellFormed : ContentNode → Prop
  | node properties children =>
    Value.EntriesReal properties ∧ AscendingEntries children ∧ ChildrenWellFormed children

/-- Whether children have names and are well-formed themselves. -/
def ChildrenWellFormed : List (String × ContentNode) → Prop
  | [] => True
  | (name, child) :: rest => IsName name ∧ WellFormed child ∧ ChildrenWellFormed rest

end

mutual

/-- Whether two trees are equal. -/
def equals : ContentNode → ContentNode → Bool
  | node properties children, node others otherChildren =>
    Value.equalsEntries properties others && equalsChildren children otherChildren

/-- Whether two lists of children are equal entry by entry. -/
def equalsChildren : List (String × ContentNode) → List (String × ContentNode) → Bool
  | [], [] => true
  | (name, child) :: rest, (otherName, other) :: others =>
    name == otherName && equals child other && equalsChildren rest others
  | _, _ => false

end

theorem childrenWellFormed_iff {children : List (String × ContentNode)} :
    ChildrenWellFormed children ↔ ∀ entry ∈ children, IsName entry.1 ∧ entry.2.WellFormed := by
  induction children with
  | nil => simp [ChildrenWellFormed]
  | cons entry rest ih => simp [ChildrenWellFormed, ih, and_assoc]

end ContentNode

theorem lookupEntry_isSome_iff {α : Type} {key : String} {entries : List (String × α)} :
    (lookupEntry key entries).isSome ↔ key ∈ entries.map Prod.fst := by
  induction entries with
  | nil => simp [lookupEntry]
  | cons entry rest ih =>
      by_cases same : key = entry.1
      · simp [lookupEntry, same]
      · simp [lookupEntry, same, ih]

theorem mem_of_lookupEntry {α : Type} {key : String} {value : α} {entries : List (String × α)}
    (found : lookupEntry key entries = some value) : (key, value) ∈ entries := by
  induction entries with
  | nil => simp [lookupEntry] at found
  | cons entry rest ih =>
      rw [lookupEntry] at found
      split at found
      · rename_i same
        obtain rfl := Option.some.inj found
        rw [same]
        exact List.mem_cons_self
      · exact List.mem_cons_of_mem _ (ih found)

namespace ContentNode

/-- Children of which each list has what the other one has start with the same name. -/
theorem head_eq_of_lookups {name other : String} {child otherChild : ContentNode}
    {rest others : List (String × ContentNode)}
    (ascending : AscendingEntries ((name, child) :: rest))
    (otherAscending : AscendingEntries ((other, otherChild) :: others))
    (found : (lookupEntry name ((other, otherChild) :: others)).isSome)
    (otherFound : (lookupEntry other ((name, child) :: rest)).isSome) : name = other := by
  have least {key first : String} {value : ContentNode} {entries : List (String × ContentNode)}
      (sorted : AscendingEntries ((first, value) :: entries))
      (member : (lookupEntry key ((first, value) :: entries)).isSome) : first ≤ key := by
    rw [lookupEntry_isSome_iff, List.map_cons, List.mem_cons, List.mem_map] at member
    rcases member with rfl | ⟨entry, entryMem, rfl⟩
    · exact String.le_refl _
    · have before := (List.pairwise_cons.mp sorted).1 entry entryMem
      exact String.not_lt.mp fun after => String.lt_irrefl _ (String.lt_trans before after)
  exact String.le_antisymm (least ascending otherFound) (least otherAscending found)

theorem equalsChildren_iff {children others : List (String × ContentNode)}
    (ascending : AscendingEntries children) (otherAscending : AscendingEntries others) :
    equalsChildren children others = true ↔
      (∀ entry ∈ children, (lookupEntry entry.1 others).isSome) ∧
      ∀ entry ∈ others, ∃ child,
        lookupEntry entry.1 children = some child ∧ child.equals entry.2 = true := by
  induction children generalizing others with
  | nil =>
      cases others with
      | nil => simp [equalsChildren]
      | cons entry rest =>
          simp only [equalsChildren, List.forall_mem_cons]
          simp [lookupEntry]
  | cons entry rest ih =>
      cases others with
      | nil =>
          simp only [equalsChildren, List.forall_mem_cons]
          simp [lookupEntry]
      | cons other others =>
          obtain ⟨name, child⟩ := entry
          obtain ⟨otherName, otherChild⟩ := other
          obtain ⟨later, restAscending⟩ := List.pairwise_cons.mp ascending
          obtain ⟨otherLater, othersAscending⟩ := List.pairwise_cons.mp otherAscending
          simp only [equalsChildren, Bool.and_eq_true, beq_iff_eq,
            ih restAscending othersAscending, List.forall_mem_cons]
          -- Past the heads a look-up of a later name goes on in the rest.
          have passes {key first : String} {value : ContentNode}
              {entries : List (String × ContentNode)} (before : first < key) :
              lookupEntry key ((first, value) :: entries) = lookupEntry key entries := by
            have different : key ≠ first := fun same => String.lt_irrefl _ (same ▸ before)
            rw [lookupEntry, if_neg different]
          constructor
          · rintro ⟨⟨rfl, same⟩, keys, values⟩
            refine ⟨⟨by simp [lookupEntry], ?_⟩, ⟨child, by simp [lookupEntry], same⟩, ?_⟩
            · intro later' member
              rw [passes (later later' member)]
              exact keys later' member
            · intro later' member
              rw [passes (otherLater later' member)]
              exact values later' member
          · rintro ⟨⟨headFound, keys⟩, ⟨found, foundEq, same⟩, values⟩
            obtain rfl := head_eq_of_lookups ascending otherAscending headFound
              (by rw [foundEq]; rfl)
            obtain rfl : child = found := by simpa [lookupEntry] using foundEq
            refine ⟨⟨rfl, same⟩, ?_, ?_⟩
            · intro later' member
              rw [← passes (later later' member)]
              exact keys later' member
            · intro later' member
              obtain ⟨found, foundEq, sameLater⟩ := values later' member
              rw [passes (otherLater later' member)] at foundEq
              exact ⟨found, foundEq, sameLater⟩

namespace WellFormed

variable {content : ContentNode}

theorem properties (wellFormed : content.WellFormed) : Value.EntriesReal content.properties := by
  cases content
  exact wellFormed.1

theorem ascending (wellFormed : content.WellFormed) : AscendingEntries content.children := by
  cases content
  exact wellFormed.2.1

theorem child (wellFormed : content.WellFormed) {entry : String × ContentNode}
    (member : entry ∈ content.children) : IsName entry.1 ∧ entry.2.WellFormed := by
  cases content
  exact childrenWellFormed_iff.mp wellFormed.2.2 entry member

theorem isAddress (wellFormed : content.WellFormed) {address : List String}
    (found : (content.at? address).isSome) : IsAddress address := by
  induction address generalizing content with
  | nil => exact isAddress_nil
  | cons name rest ih =>
      rw [at?] at found
      cases childFound : lookupEntry name content.children with
      | none => simp [childFound] at found
      | some child =>
          obtain ⟨named, childWellFormed⟩ := wellFormed.child (mem_of_lookupEntry childFound)
          rw [childFound, Option.bind_some] at found
          exact isAddress_cons_iff.mpr ⟨named, ih childWellFormed found⟩

end WellFormed

/-- Two well-formed trees are equal if their properties are, neither has a child that the other one
lacks, and children of one name are equal. -/
theorem equals_iff {before after : ContentNode} (beforeFormed : before.WellFormed)
    (afterFormed : after.WellFormed) :
    before.equals after = true ↔
      Value.equalsEntries before.properties after.properties = true ∧
      (∀ entry ∈ before.children, (lookupEntry entry.1 after.children).isSome) ∧
      ∀ entry ∈ after.children, ∃ child,
        lookupEntry entry.1 before.children = some child ∧ child.equals entry.2 = true := by
  cases before with
  | node properties children =>
      cases after with
      | node others otherChildren =>
          rw [equals, Bool.and_eq_true]
          exact and_congr_right fun _ =>
            equalsChildren_iff beforeFormed.ascending afterFormed.ascending

end ContentNode

end QuestionSearch.Content
