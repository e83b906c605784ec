import QuestionSearch.Proofs.Content.RecursiveWalk
import QuestionSearch.Proofs.Content.Staging

/-!
# Walks that compare trees

A walk never fails, and what it stages brings documents that show the nodes before to documents that
show the nodes after, without touching others; it stages nothing exactly if all nodes are equal
(`walk_sites`). One visit does its part for one node (`visit_site`): below it the children that both
trees have are left as they are, for the walk to visit, and all other ones are gone.
-/

namespace QuestionSearch.Content

open QuestionSearch.Index QuestionSearch.Json

/-- The children that are gone are those that there were and are no more. -/
theorem Frame.mem_vanished_iff {frame : Frame} {name : String} :
    name ∈ frame.vanished ↔
      ∃ before, frame.before = some before ∧ (lookupEntry name before.children).isSome ∧
        (lookupEntry name frame.after.children).isNone := by
  rw [vanished]
  cases frame.before with
  | none => simp
  | some before => simp [lookupEntry_isSome_iff]

/-- A frame by the address of its node. -/
structure Site where
  /-- The address. -/
  address : List String
  /-- The node there before. -/
  before : Option ContentNode
  /-- The node. -/
  after : ContentNode

namespace Site

/-- The frame. -/
def frame (site : Site) : Frame := ⟨joinedPath site.address, site.before, site.after⟩

/-- The sites of the children. -/
def children (site : Site) : List Site :=
  site.after.children.map fun child =>
    ⟨site.address ++ [child.1], site.before.bind fun before => lookupEntry child.1 before.children,
      child.2⟩

/-- The addresses of the children that are gone. -/
def vanished (site : Site) : List (List String) :=
  site.frame.vanished.map fun name => site.address ++ [name]

/-- What a visit stages. -/
def changes (site : Site) : List Change :=
  (site.vanished.map fun root => Change.deleteSubtree (joinedPath root)) ++
    if site.frame.isChanged then [.upsert site.frame.document] else []

/-- Whether the node is what it was. -/
def Same (site : Site) : Prop :=
  ∃ before, site.before = some before ∧ before.equals site.after = true

/-- Whether the address and the nodes are well-formed. -/
structure Valid (site : Site) : Prop where
  /-- The address is made of names. -/
  address : IsAddress site.address
  /-- The node before is well-formed. -/
  before : ∀ before, site.before = some before → before.WellFormed
  /-- The node is well-formed. -/
  after : site.after.WellFormed

/-- Whether neither of two sites lies within the other. -/
def Apart (first second : Site) : Prop :=
  ¬ first.address <+: second.address ∧ ¬ second.address <+: first.address

variable {site : Site}

theorem mem_frame_vanished_iff {name : String} :
    name ∈ site.frame.vanished ↔
      ∃ before, site.before = some before ∧ (lookupEntry name before.children).isSome ∧
        (lookupEntry name site.after.children).isNone :=
  Frame.mem_vanished_iff

theorem mem_children_iff {child : Site} :
    child ∈ site.children ↔
      ∃ entry ∈ site.after.children,
        child = ⟨site.address ++ [entry.1],
          site.before.bind fun before => lookupEntry entry.1 before.children, entry.2⟩ := by
  simp [children, eq_comm]

theorem address_prefix_of_child {child : Site} (member : child ∈ site.children) :
    site.address <+: child.address := by
  obtain ⟨entry, _, rfl⟩ := mem_children_iff.mp member
  exact List.prefix_append _ _

/-- A child lies below its node. -/
theorem not_child_prefix_address {child : Site} (member : child ∈ site.children) :
    ¬ child.address <+: site.address := by
  obtain ⟨entry, _, rfl⟩ := mem_children_iff.mp member
  intro within
  have lengths := within.length_le
  rw [List.length_append, List.length_singleton] at lengths
  omega

/-- No child lies above what begins with the name of none of them. -/
theorem not_child_prefix_of_missing {name : String} {below : List String}
    (missing : lookupEntry name site.after.children = none) {child : Site}
    (member : child ∈ site.children) : ¬ child.address <+: site.address ++ name :: below := by
  obtain ⟨entry, entryMem, rfl⟩ := mem_children_iff.mp member
  intro within
  obtain rfl : entry.1 = name := by simpa using within
  have present : (lookupEntry entry.1 site.after.children).isSome :=
    lookupEntry_isSome_iff.mpr (List.mem_map_of_mem entryMem)
  simp [missing] at present

/-- Of two sites that lie apart neither lies above what is below the other one. -/
theorem Apart.not_prefix_append {other : Site} (apart : site.Apart other) {below : List String} :
    ¬ site.address <+: other.address ++ below := by
  intro within
  rcases List.prefix_or_prefix_of_prefix within (List.prefix_append _ _) with inside | around
  · exact apart.1 inside
  · exact apart.2 around

theorem Apart.symm {other : Site} (apart : site.Apart other) : other.Apart site :=
  ⟨apart.2, apart.1⟩

namespace Valid

theorem frame_children (valid : site.Valid) :
    site.frame.children = site.children.map Site.frame := by
  simp only [Frame.children, Site.children, List.map_map, frame]
  refine List.map_congr_left fun entry _ => ?_
  rw [Function.comp_apply, frame, childPath_joinedPath valid.address.head?_ne]

theorem isName_of_before (valid : site.Valid) {before : ContentNode}
    (beforeEq : site.before = some before) {name : String}
    (found : (lookupEntry name before.children).isSome) : IsName name := by
  obtain ⟨child, childEq⟩ := Option.isSome_iff_exists.mp found
  exact ((valid.before before beforeEq).child (mem_of_lookupEntry childEq)).1

theorem isAddress_of_vanished (valid : site.Valid) {root : List String}
    (member : root ∈ site.vanished) : IsAddress root := by
  obtain ⟨name, nameMem, rfl⟩ := List.mem_map.mp member
  obtain ⟨before, beforeEq, found, _⟩ := mem_frame_vanished_iff.mp nameMem
  exact isAddress_append_iff.mpr
    ⟨valid.address, isAddress_singleton_iff.mpr (valid.isName_of_before beforeEq found)⟩

theorem child (valid : site.Valid) {child : Site} (member : child ∈ site.children) :
    child.Valid := by
  obtain ⟨entry, entryMem, rfl⟩ := mem_children_iff.mp member
  obtain ⟨named, wellFormed⟩ := valid.after.child entryMem
  refine ⟨isAddress_append_iff.mpr ⟨valid.address, isAddress_singleton_iff.mpr named⟩, ?_,
    wellFormed⟩
  intro before beforeEq
  obtain ⟨parent, parentEq, found⟩ := Option.bind_eq_some_iff.mp beforeEq
  exact ((valid.before parent parentEq).child (mem_of_lookupEntry found)).2

theorem children_apart (valid : site.Valid) : site.children.Pairwise Apart := by
  rw [children, List.pairwise_map]
  refine valid.after.ascending.imp fun {first second} before => ?_
  have different : first.1 ≠ second.1 := fun same => String.lt_irrefl _ (same ▸ before)
  constructor
  · intro within
    exact different (by simpa using within)
  · intro within
    exact different.symm (by simpa using within)

/-- A node is what it was if a visit stages nothing and all its children are what they were. -/
theorem same_iff (valid : site.Valid) :
    site.Same ↔ site.changes = [] ∧ ∀ child ∈ site.children, child.Same := by
  cases beforeEq : site.before with
  | none =>
      have changed : site.changes ≠ [] := by
        simp [changes, Frame.isChanged, frame, beforeEq]
      simp [Same, beforeEq, changed]
  | some before =>
      have beforeFormed := valid.before before beforeEq
      have quiet : site.changes = [] ↔
          Value.equalsEntries before.properties site.after.properties = true ∧
          ∀ entry ∈ before.children, (lookupEntry entry.1 site.after.children).isSome := by
        simp [changes, vanished, Frame.vanished, Frame.isChanged, frame, beforeEq, and_comm,
          Option.isSome_iff_ne_none]
      have childrenSame : (∀ child ∈ site.children, child.Same) ↔
          ∀ entry ∈ site.after.children, ∃ child,
            lookupEntry entry.1 before.children = some child ∧ child.equals entry.2 = true := by
        simp only [children, List.forall_mem_map, Same, beforeEq, Option.bind_some]
      have same : site.Same ↔ before.equals site.after = true := by
        simp [Same, beforeEq]
      rw [same, ContentNode.equals_iff beforeFormed valid.after, quiet, childrenSame, and_assoc]

end Valid

/-! ### One visit -/

theorem changes_frame (valid : site.Valid) : site.frame.changes = site.changes := by
  simp only [Frame.changes, Frame.removals, changes, vanished, List.map_map, Function.comp_def]
  congr 2
  funext name
  rw [frame, childPath_joinedPath valid.address.head?_ne]

/-- A visit does not fail. -/
theorem visit_site (valid : site.Valid) (staged : Staged) :
    ∃ summary, site.frame.visit staged =
      .ok ⟨⟨staged.writer.pending ++ site.changes⟩, summary⟩ := by
  have absolute : isAbsolute site.frame.path = true := isAbsolute_joinedPath site.address
  exact ⟨_, changes_frame valid ▸ Frame.visit_eq absolute staged⟩

section Effect

variable {schema : IndexSchema} {batch : Batch} {query : List String}

/-- What a visit stages puts the document of a changed node in place, removes the children that are
gone, and leaves all else as it is. -/
theorem documentAt_changes (valid : site.Valid) (queried : IsAddress query) :
    documentAt (site.changes.foldl (Batch.apply schema) batch).documents query =
      if query = site.address ∧ site.frame.isChanged = true then some site.frame.document
      else if ∃ root ∈ site.vanished, root <+: query then none
      else documentAt batch.documents query := by
  have roots : ∀ root ∈ site.vanished, IsAddress root :=
    fun root member => valid.isAddress_of_vanished member
  rw [changes, List.foldl_append]
  cases site.frame.isChanged with
  | false => simp [documentAt_removals roots queried]
  | true =>
      simp only [if_true, and_true, List.foldl_cons, List.foldl_nil]
      exact (documentAt_upsert valid.address queried _).trans
        (by rw [documentAt_removals roots queried]; rfl)

theorem keyed_changes (valid : site.Valid) (keyed : Keyed batch.documents) :
    Keyed (site.changes.foldl (Batch.apply schema) batch).documents := by
  rw [changes, List.foldl_append]
  have removed : Keyed ((site.vanished.map fun root =>
      Change.deleteSubtree (joinedPath root)).foldl (Batch.apply schema) batch).documents :=
    keyed_removals keyed site.vanished
  split
  · exact keyed_upsert removed valid.address _
  · exact removed

theorem address_prefix_of_vanished {root : List String} (member : root ∈ site.vanished)
    (within : root <+: query) : site.address <+: query := by
  obtain ⟨name, _, rfl⟩ := List.mem_map.mp member
  exact (List.prefix_append _ _).trans within

/-- After a visit the document of the node is there. -/
theorem describes_after (valid : site.Valid)
    (shown : Shows batch.documents site.address site.before) :
    ∃ document,
      documentAt (site.changes.foldl (Batch.apply schema) batch).documents site.address =
        some document ∧ Describes document site.after := by
  rw [documentAt_changes valid valid.address]
  by_cases changed : site.frame.isChanged = true
  · exact ⟨site.frame.document, by simp [changed], describes_self valid.after⟩
  · have kept : ¬ ∃ root ∈ site.vanished, root <+: site.address := by
      rintro ⟨root, member, within⟩
      obtain ⟨name, _, rfl⟩ := List.mem_map.mp member
      have lengths := within.length_le
      rw [List.length_append, List.length_singleton] at lengths
      omega
    rw [if_neg (fun both => changed both.2), if_neg kept]
    have held := shown [] isAddress_nil
    cases beforeEq : site.before with
    | none => simp [Frame.isChanged, frame, beforeEq] at changed
    | some before =>
        rw [beforeEq, List.append_nil] at held
        have same : Value.equalsEntries before.properties site.after.properties = true := by
          simpa [Frame.isChanged, frame, beforeEq] using changed
        generalize documentAt batch.documents site.address = found at held
        cases held with
        | some describes => exact ⟨_, rfl, describes.trans same⟩

/-- A visit leaves alone what lies below a child that is still there. -/
theorem documentAt_changes_child (valid : site.Valid) {name : String} {below : List String}
    (queried : IsAddress (site.address ++ name :: below))
    (present : (lookupEntry name site.after.children).isSome) :
    documentAt (site.changes.foldl (Batch.apply schema) batch).documents
        (site.address ++ name :: below) =
      documentAt batch.documents (site.address ++ name :: below) := by
  have kept : ¬ ∃ root ∈ site.vanished, root <+: site.address ++ name :: below := by
    rintro ⟨root, member, within⟩
    obtain ⟨gone, goneMem, rfl⟩ := List.mem_map.mp member
    obtain ⟨_, _, _, absent⟩ := mem_frame_vanished_iff.mp goneMem
    obtain rfl : gone = name := by simpa using within
    rw [Option.isNone_iff_eq_none.mp absent] at present
    cases present
  rw [documentAt_changes valid queried, if_neg (by simp), if_neg kept]

/-- After a visit nothing is left below what is no child. -/
theorem documentAt_changes_gone (valid : site.Valid)
    (shown : Shows batch.documents site.address site.before) {name : String} {below : List String}
    (queried : IsAddress (name :: below))
    (absent : lookupEntry name site.after.children = none) :
    documentAt (site.changes.foldl (Batch.apply schema) batch).documents
      (site.address ++ name :: below) = none := by
  rw [documentAt_changes valid (isAddress_append_iff.mpr ⟨valid.address, queried⟩),
    if_neg (by simp)]
  split
  · rfl
  · rename_i kept
    have held := shown (name :: below) queried
    have nothing : (site.before.bind fun before => before.at? (name :: below)) = none := by
      cases beforeEq : site.before with
      | none => rfl
      | some before =>
          cases found : lookupEntry name before.children with
          | none => simp [ContentNode.at?, found]
          | some child =>
              have gone : name ∈ site.frame.vanished :=
                mem_frame_vanished_iff.mpr ⟨before, beforeEq, by simp [found], by simp [absent]⟩
              exact absurd ⟨_, List.mem_map_of_mem gone, by simp⟩ kept
    rw [nothing] at held
    generalize documentAt batch.documents (site.address ++ name :: below) = document at held
    cases held
    rfl

/-- A visit leaves alone what lies outside its node. -/
theorem documentAt_changes_outside (valid : site.Valid) (queried : IsAddress query)
    (outside : ¬ site.address <+: query) :
    documentAt (site.changes.foldl (Batch.apply schema) batch).documents query =
      documentAt batch.documents query := by
  rw [documentAt_changes valid queried, if_neg, if_neg]
  · rintro ⟨root, member, within⟩
    exact outside (address_prefix_of_vanished member within)
  · rintro ⟨rfl, _⟩
    exact outside (List.prefix_refl _)

end Effect

end Site

/-! ### The walk -/

/-- What the documents after a walk are to those before it. -/
structure Brings (sites : List Site) (before after : Table IndexedDocument) : Prop where
  /-- All documents stand under their own paths. -/
  keyed : Keyed after
  /-- The nodes are shown. -/
  shows : ∀ site ∈ sites, Shows after site.address (some site.after)
  /-- All other addresses have the documents they had. -/
  outside : ∀ query, IsAddress query → (∀ site ∈ sites, ¬ site.address <+: query) →
    documentAt after query = documentAt before query

section Walk

variable {schema : IndexSchema} {batch : Batch} {site : Site} {rest : List Site}

theorem pairwise_apart_children (valid : site.Valid)
    (apart : (site :: rest).Pairwise Site.Apart) :
    (site.children ++ rest).Pairwise Site.Apart := by
  obtain ⟨siteApart, restApart⟩ := List.pairwise_cons.mp apart
  refine List.pairwise_append.mpr ⟨valid.children_apart, restApart, ?_⟩
  intro child childMem other otherMem
  obtain ⟨entry, _, rfl⟩ := Site.mem_children_iff.mp childMem
  obtain ⟨notWithin, notAround⟩ := siteApart other otherMem
  constructor
  · exact fun within => notWithin ((List.prefix_append _ _).trans within)
  · intro around
    rcases List.prefix_concat_iff.mp around with same | above
    · exact notWithin (same ▸ List.prefix_append _ _)
    · exact notAround above

theorem shows_before_children (valid : site.Valid)
    (shown : Shows batch.documents site.address site.before) {child : Site}
    (member : child ∈ site.children) :
    Shows (site.changes.foldl (Batch.apply schema) batch).documents child.address
      child.before := by
  obtain ⟨⟨name, node⟩, entryMem, rfl⟩ := Site.mem_children_iff.mp member
  intro below belowNamed
  have named := (valid.after.child entryMem).1
  have present : (lookupEntry name site.after.children).isSome :=
    lookupEntry_isSome_iff.mpr (List.mem_map_of_mem entryMem)
  have belowAll : IsAddress (name :: below) := isAddress_cons_iff.mpr ⟨named, belowNamed⟩
  have held := shown (name :: below) belowAll
  rw [← Site.documentAt_changes_child valid
    (isAddress_append_iff.mpr ⟨valid.address, belowAll⟩) present] at held
  simpa [ContentNode.at?, Option.bind_assoc] using held

theorem shows_before_rest (siteValid : site.Valid) {other : Site} (otherValid : other.Valid)
    (apart : site.Apart other) (shown : Shows batch.documents other.address other.before) :
    Shows (site.changes.foldl (Batch.apply schema) batch).documents other.address
      other.before := by
  intro below belowNamed
  have queried := isAddress_append_iff.mpr ⟨otherValid.address, belowNamed⟩
  rw [Site.documentAt_changes_outside siteValid queried apart.not_prefix_append]
  exact shown below belowNamed

/-- After a visit and the walk over the children and what lies apart, the node is shown. -/
theorem shows_after_visit (siteValid : site.Valid) (siteApart : ∀ other ∈ rest, site.Apart other)
    (shown : Shows batch.documents site.address site.before) {after : Table IndexedDocument}
    (brings : Brings (site.children ++ rest)
      (site.changes.foldl (Batch.apply schema) batch).documents after) :
    Shows after site.address (some site.after) := by
  intro below belowNamed
  have queried := isAddress_append_iff.mpr ⟨siteValid.address, belowNamed⟩
  have restOutside : ∀ other ∈ rest, ¬ other.address <+: site.address ++ below :=
    fun other member => (siteApart other member).symm.not_prefix_append
  cases below with
  | nil =>
      have outside : ∀ other ∈ site.children ++ rest, ¬ other.address <+: site.address :=
        List.forall_mem_append.mpr
          ⟨fun _ member => Site.not_child_prefix_address member,
            fun other member => (siteApart other member).2⟩
      obtain ⟨document, held, describes⟩ := Site.describes_after siteValid shown
      rw [List.append_nil, brings.outside _ siteValid.address outside, held]
      exact .some describes
  | cons name below =>
      cases found : lookupEntry name site.after.children with
      | some node =>
          have childMem : ⟨site.address ++ [name],
              site.before.bind fun before => lookupEntry name before.children, node⟩ ∈
                site.children :=
            Site.mem_children_iff.mpr ⟨(name, node), mem_of_lookupEntry found, rfl⟩
          have childShown := brings.shows _ (List.mem_append_left _ childMem) below
            (isAddress_cons_iff.mp belowNamed).2
          simpa [ContentNode.at?, found] using childShown
      | none =>
          have outside : ∀ other ∈ site.children ++ rest,
              ¬ other.address <+: site.address ++ name :: below :=
            List.forall_mem_append.mpr
              ⟨fun _ member => Site.not_child_prefix_of_missing found member, restOutside⟩
          rw [brings.outside _ queried outside,
            Site.documentAt_changes_gone siteValid shown belowNamed found]
          simp only [Option.bind_some, ContentNode.at?, found, Option.bind_none]
          exact .none

/-- A visit and the walk over the children and the rest make up the walk. -/
theorem brings_of_visit (valid : ∀ other ∈ site :: rest, other.Valid)
    (apart : (site :: rest).Pairwise Site.Apart)
    (shown : ∀ other ∈ site :: rest, Shows batch.documents other.address other.before)
    {after : Table IndexedDocument}
    (brings : Brings (site.children ++ rest)
      (site.changes.foldl (Batch.apply schema) batch).documents after) :
    Brings (site :: rest) batch.documents after := by
  obtain ⟨siteValid, _⟩ := List.forall_mem_cons.mp valid
  obtain ⟨siteShown, _⟩ := List.forall_mem_cons.mp shown
  obtain ⟨siteApart, _⟩ := List.pairwise_cons.mp apart
  refine ⟨brings.keyed, ?_, ?_⟩
  · exact List.forall_mem_cons.mpr
      ⟨shows_after_visit siteValid siteApart siteShown brings,
        fun other member => brings.shows other (List.mem_append_right _ member)⟩
  · intro query queried outside
    obtain ⟨siteOutside, restOutside⟩ := List.forall_mem_cons.mp outside
    have childrenOutside : ∀ child ∈ site.children, ¬ child.address <+: query :=
      fun _ member within => siteOutside ((Site.address_prefix_of_child member).trans within)
    rw [brings.outside query queried (List.forall_mem_append.mpr ⟨childrenOutside, restOutside⟩),
      Site.documentAt_changes_outside siteValid queried siteOutside]

/-- A walk over sites that lie apart does not fail; it stages nothing exactly if all nodes are what
they were, and what it stages brings the documents from the nodes before to the nodes after. -/
theorem walk_sites (schema : IndexSchema) {sites : List Site}
    (valid : ∀ site ∈ sites, site.Valid) (apart : sites.Pairwise Site.Apart) (staged : Staged) :
    ∃ changes summary,
      walk (sites.map Site.frame) staged =
        .ok ⟨⟨staged.writer.pending ++ changes⟩, summary⟩ ∧
      (changes = [] ↔ ∀ site ∈ sites, site.Same) ∧
      ∀ batch : Batch, Keyed batch.documents →
        (∀ site ∈ sites, Shows batch.documents site.address site.before) →
          Brings sites batch.documents (changes.foldl (Batch.apply schema) batch).documents := by
  induction size : nodesBelow (sites.map Site.frame) using Nat.strong_induction_on
    generalizing sites staged with
  | h count ih =>
      cases sites with
      | nil =>
          refine ⟨[], staged.summary, by simp [walk], by simp, fun batch keyed _ => ?_⟩
          exact ⟨keyed, by simp, fun _ _ _ => rfl⟩
      | cons site rest =>
          obtain ⟨siteValid, restValid⟩ := List.forall_mem_cons.mp valid
          obtain ⟨siteApart, _⟩ := List.pairwise_cons.mp apart
          have partsValid : ∀ other ∈ site.children ++ rest, other.Valid := by
            intro other member
            rcases List.mem_append.mp member with inChildren | inRest
            · exact siteValid.child inChildren
            · exact restValid other inRest
          have framesEq : (site.children ++ rest).map Site.frame =
              site.frame.children ++ rest.map Site.frame := by
            rw [List.map_append, siteValid.frame_children]
          have smaller : nodesBelow ((site.children ++ rest).map Site.frame) < count := by
            have below := nodesBelow_children site.frame
            rw [List.map_cons, nodesBelow] at size
            rw [framesEq, nodesBelow_append]
            omega
          obtain ⟨visitSummary, visited⟩ := Site.visit_site siteValid staged
          obtain ⟨changes, summary, walked, quiet, brings⟩ := ih _ smaller partsValid
            (pairwise_apart_children siteValid apart)
            ⟨⟨staged.writer.pending ++ site.changes⟩, visitSummary⟩ rfl
          refine ⟨site.changes ++ changes, summary, ?_, ?_, ?_⟩
          · rw [List.map_cons, walk]
            simp only [visited, bind, Except.bind, ← framesEq, walked, List.append_assoc]
          · rw [List.append_eq_nil_iff, quiet, List.forall_mem_cons, siteValid.same_iff,
              List.forall_mem_append, and_assoc]
          · intro batch keyed shown
            rw [List.foldl_append]
            obtain ⟨siteShown, restShown⟩ := List.forall_mem_cons.mp shown
            refine brings_of_visit valid apart shown
              (brings _ (Site.keyed_changes siteValid keyed) ?_)
            intro other member
            rcases List.mem_append.mp member with inChildren | inRest
            · exact shows_before_children siteValid siteShown inChildren
            · exact shows_before_rest siteValid (restValid other inRest)
                (siteApart other inRest) (restShown other inRest)

end Walk

end QuestionSearch.Content
