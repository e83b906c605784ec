import QuestionSearch.Proofs.Content.NodePaths
import QuestionSearch.Proofs.Json.ZeroSigns

/-!
# Unchanged nodes

A walk leaves a node alone whose properties equal those before. What the index holds for it is then
the text of the old properties. This is the text of the new ones just if the properties are the
same (`unchanged_fields_eq_iff`), and equal properties are the same but for signs of zeros, so a
zero that changes its sign is missed (`unchanged_zero_sign`).
-/

namespace QuestionSearch

theorem mem_of_mem_foldl_insertEntry {α : Type} {entry : String × α}
    {entries sorted : List (String × α)}
    (member : entry ∈
      entries.foldl (fun sorted entry => insertEntry entry.1 entry.2 sorted) sorted) :
    entry ∈ sorted ∨ entry ∈ entries := by
  induction entries generalizing sorted with
  | nil => exact Or.inl member
  | cons first rest ih =>
      rcases ih member with earlier | later
      · rcases mem_insertEntry earlier with rfl | earlier
        · exact Or.inr List.mem_cons_self
        · exact Or.inl earlier
      · exact Or.inr (List.mem_cons_of_mem _ later)

theorem mem_of_mem_sortEntries {α : Type} {entry : String × α} {entries : List (String × α)}
    (member : entry ∈ sortEntries entries) : entry ∈ entries :=
  (mem_of_mem_foldl_insertEntry member).resolve_left List.not_mem_nil

/-- Entries that ascend are sorted already. -/
theorem sortEntries_of_ascending {α : Type} {entries : List (String × α)}
    (ascending : AscendingEntries entries) : sortEntries entries = entries := by
  have last {key : String} {value : α} {sorted : List (String × α)}
      (below : ∀ entry ∈ sorted, entry.1 < key) :
      insertEntry key value sorted = sorted ++ [(key, value)] := by
    induction sorted with
    | nil => rfl
    | cons first rest ih =>
        obtain ⟨firstBelow, restBelow⟩ := List.forall_mem_cons.mp below
        have notAbove : ¬ key < first.1 := fun above =>
          String.lt_irrefl _ (String.lt_trans above firstBelow)
        have different : key ≠ first.1 := fun same => String.lt_irrefl _ (same ▸ firstBelow)
        rw [insertEntry, if_neg notAbove, if_neg different, ih restBelow, List.cons_append]
  have grown (sorted : List (String × α)) (whole : AscendingEntries (sorted ++ entries)) :
      entries.foldl (fun sorted entry => insertEntry entry.1 entry.2 sorted) sorted =
        sorted ++ entries := by
    induction entries generalizing sorted with
    | nil => simp
    | cons entry rest ih =>
        have below : ∀ earlier ∈ sorted, earlier.1 < entry.1 := fun earlier member =>
          (List.pairwise_append.mp whole).2.2 earlier member entry List.mem_cons_self
        rw [List.foldl_cons, last below, ih (List.pairwise_cons.mp ascending).2, List.append_assoc]
        · rfl
        · rwa [List.append_assoc]
  exact grown [] ascending

namespace Content

open QuestionSearch.Json

/-! ## Texts of properties -/

mutual

/-- The texts of equal properties are apart, unless the properties are the same. -/
theorem property_eq_or_apart : ∀ {before after : Value}, before.equals after = true →
    before = after ∨ ∃ text other, propertyText? before = some text ∧
      propertyText? after = some other ∧ Apart text other
  | .null, .null, _ => Or.inl rfl
  | .bool _, .bool _, same => (Value.eq_or_apart_of_equals same).imp_right fun apart =>
      ⟨_, _, rfl, rfl, apart⟩
  | .integer _, .integer _, same => (Value.eq_or_apart_of_equals same).imp_right fun apart =>
      ⟨_, _, rfl, rfl, apart⟩
  | .float _, .float _, same => (Value.eq_or_apart_of_equals same).imp_right fun apart =>
      ⟨_, _, rfl, rfl, apart⟩
  | .record _, .record _, same => (Value.eq_or_apart_of_equals same).imp_right fun apart =>
      ⟨_, _, rfl, rfl, apart⟩
  | .text _, .text _, same => Or.inl (congrArg Value.text (beq_iff_eq.mp same))
  | .list _, .list _, same => (properties_eq_or_apart same).imp (congrArg Value.list) fun apart =>
      ⟨_, _, rfl, rfl, apart⟩
termination_by structural before => before

theorem properties_eq_or_apart : ∀ {before after : List Value},
    Value.equalsItems before after = true → before = after ∨
      Apart (" ".intercalate (propertyTexts before)) (" ".intercalate (propertyTexts after))
  | [], [], _ => Or.inl rfl
  | first :: rest, _ :: _, same => by
      rw [Value.equalsItems, Bool.and_eq_true] at same
      rcases property_eq_or_apart same.1 with rfl | ⟨text, other, textEq, otherEq, apart⟩
      · refine (properties_eq_or_apart same.2).imp (congrArg _) fun apart => ?_
        rw [propertyTexts, propertyTexts]
        cases propertyText? first with
        | none => exact apart
        | some text => exact apart.intercalate_tail text
      · rw [propertyTexts, propertyTexts, textEq, otherEq]
        exact Or.inr (apart.intercalate_head _ _ _)
termination_by structural before => before

end

/-- The fields that properties become, in the order of the properties. -/
def propertyFields (properties : List (String × Value)) : List (String × String) :=
  properties.filterMap fun entry => (propertyText? entry.2).map fun text => (entry.1, text)

theorem ascending_propertyFields {properties : List (String × Value)}
    (ascending : AscendingEntries properties) : AscendingEntries (propertyFields properties) := by
  refine List.pairwise_filterMap.mpr (ascending.imp fun {first second} below => ?_)
  intro field found other otherFound
  obtain ⟨_, _, rfl⟩ := Option.map_eq_some_iff.mp found
  obtain ⟨_, _, rfl⟩ := Option.map_eq_some_iff.mp otherFound
  exact below

/-- Equal properties that become the same fields are the same. -/
theorem eq_of_propertyFields_eq {before after : List (String × Value)}
    (unchanged : Value.equalsEntries before after = true)
    (same : propertyFields before = propertyFields after) : before = after := by
  induction before generalizing after with
  | nil =>
      cases after with
      | nil => rfl
      | cons entry rest => cases unchanged
  | cons entry rest ih =>
      cases after with
      | nil => cases unchanged
      | cons other others =>
          obtain ⟨key, value⟩ := entry
          obtain ⟨otherKey, otherValue⟩ := other
          rw [Value.equalsEntries, Bool.and_eq_true, Bool.and_eq_true, beq_iff_eq] at unchanged
          obtain ⟨⟨rfl, sameValue⟩, sameRest⟩ := unchanged
          rw [propertyFields, propertyFields, List.filterMap_cons, List.filterMap_cons] at same
          rcases property_eq_or_apart sameValue with rfl | ⟨text, other, textEq, otherEq, apart⟩
          · refine congrArg _ (ih sameRest ?_)
            cases found : propertyText? value with
            | none =>
                simp only [found, Option.map_none] at same
                exact same
            | some text =>
                simp only [found, Option.map_some] at same
                exact (List.cons.inj same).2
          · simp only [textEq, otherEq, Option.map_some] at same
            exact absurd (congrArg Prod.snd (List.cons.inj same).1) apart.ne

theorem fields_eq {content : ContentNode} (ascending : AscendingEntries content.properties) :
    content.fields.entries = propertyFields content.properties :=
  sortEntries_of_ascending (ascending_propertyFields ascending)

/-! ## Nodes that are read -/

namespace ContentNode

/-- Each part of entries is left out or read from data of its own. -/
theorem read_of_partsOfEntries? {entries : List (String × Data)} {parts : Parts}
    (read : partsOfEntries? entries = some parts) :
    (∀ properties, parts.properties = some properties →
        ∃ data, propertiesOfData? data = some properties) ∧
      ∀ children, parts.children = some children →
        ∃ data, childrenOfData? data = some children := by
  induction entries generalizing parts with
  | nil =>
      obtain rfl := Option.some.inj read
      exact ⟨nofun, nofun⟩
  | cons entry rest ih =>
      obtain ⟨key, data⟩ := entry
      obtain ⟨before, found, read⟩ := Option.bind_eq_some_iff.mp read
      obtain ⟨propertiesRead, childrenRead⟩ := ih found
      split at read
      · obtain ⟨given, givenRead, read⟩ := Option.bind_eq_some_iff.mp read
        split at read
        · cases read
        · obtain rfl := Option.some.inj read
          exact ⟨fun _ same => Option.some.inj same ▸ ⟨data, givenRead⟩, childrenRead⟩
      · split at read
        · obtain ⟨given, givenRead, read⟩ := Option.bind_eq_some_iff.mp read
          split at read
          · cases read
          · obtain rfl := Option.some.inj read
            exact ⟨propertiesRead, fun _ same => Option.some.inj same ▸ ⟨data, givenRead⟩⟩
        · obtain rfl := Option.some.inj read
          exact ⟨propertiesRead, childrenRead⟩

theorem read_of_ofData? {data : Data} {tree : ContentNode} (read : ofData? data = some tree) :
    (tree.properties = [] ∨ ∃ data, propertiesOfData? data = some tree.properties) ∧
      (tree.children = [] ∨ ∃ data, childrenOfData? data = some tree.children) := by
  match data, read with
  | .record entries, read =>
      obtain ⟨⟨properties, children⟩, found, rfl⟩ := Option.map_eq_some_iff.mp read
      obtain ⟨propertiesRead, childrenRead⟩ := read_of_partsOfEntries? found
      constructor
      · cases properties with
        | none => exact Or.inl rfl
        | some properties => exact Or.inr (propertiesRead properties rfl)
      · cases children with
        | none => exact Or.inl rfl
        | some children => exact Or.inr (childrenRead children rfl)
  | .list [], read =>
      obtain rfl := Option.some.inj read
      exact ⟨Or.inl rfl, Or.inl rfl⟩
  | .list [_], read =>
      obtain ⟨properties, found, rfl⟩ := Option.map_eq_some_iff.mp read
      exact ⟨Or.inr ⟨_, found⟩, Or.inl rfl⟩
  | .list [_, _], read =>
      obtain ⟨properties, found, read⟩ := Option.bind_eq_some_iff.mp read
      obtain ⟨children, childrenFound, read⟩ := Option.bind_eq_some_iff.mp read
      obtain rfl := Option.some.inj read
      exact ⟨Or.inr ⟨_, found⟩, Or.inr ⟨_, childrenFound⟩⟩

theorem ascending_properties_of_ofData? {data : Data} {tree : ContentNode}
    (read : ofData? data = some tree) : AscendingEntries tree.properties := by
  rcases (read_of_ofData? read).1 with none | ⟨given, found⟩
  · rw [none]
    exact .nil
  · cases given with
    | record entries =>
        obtain ⟨unsorted, _, same⟩ := Option.map_eq_some_iff.mp found
        rw [← same]
        exact ascending_sortEntries unsorted
    | _ => cases found

theorem exists_data_of_childrenOfEntries? {entries : List (String × Data)}
    {children : List (String × ContentNode)} (read : childrenOfEntries? entries = some children)
    {entry : String × ContentNode} (member : entry ∈ children) :
    ∃ data, ofData? data = some entry.2 := by
  induction entries generalizing children with
  | nil =>
      obtain rfl := Option.some.inj read
      cases member
  | cons first rest ih =>
      obtain ⟨child, childRead, read⟩ := Option.bind_eq_some_iff.mp read
      obtain ⟨others, othersRead, read⟩ := Option.bind_eq_some_iff.mp read
      obtain rfl := Option.some.inj read
      rcases List.mem_cons.mp member with rfl | later
      · exact ⟨_, childRead⟩
      · exact ih othersRead later

/-- Every child of a node that is read is read from data of its own. -/
theorem exists_data_of_mem_children {data : Data} {tree : ContentNode}
    (read : ofData? data = some tree) {entry : String × ContentNode}
    (member : entry ∈ tree.children) : ∃ data, ofData? data = some entry.2 := by
  rcases (read_of_ofData? read).2 with none | ⟨given, found⟩
  · rw [none] at member
    cases member
  · cases given with
    | record entries =>
        obtain ⟨unsorted, unsortedRead, same⟩ := Option.map_eq_some_iff.mp found
        rw [← same] at member
        exact exists_data_of_childrenOfEntries? unsortedRead (mem_of_mem_sortEntries member)
    | _ => cases found

theorem exists_data_of_at? {data : Data} {tree node : ContentNode}
    (read : ofData? data = some tree) {address : List String}
    (found : tree.at? address = some node) : ∃ data, ofData? data = some node := by
  induction address generalizing data tree with
  | nil =>
      obtain rfl := Option.some.inj found
      exact ⟨data, read⟩
  | cons name rest ih =>
      obtain ⟨child, childFound, found⟩ := Option.bind_eq_some_iff.mp found
      obtain ⟨childData, childRead⟩ :=
        exists_data_of_mem_children read (mem_of_lookupEntry childFound)
      exact ih childRead found

theorem ascending_properties_of_at? {text : String} {tree node : ContentNode}
    (read : ofJson? text = some tree) {address : List String}
    (found : tree.at? address = some node) : AscendingEntries node.properties := by
  obtain ⟨_, _, treeRead⟩ := Option.bind_eq_some_iff.mp read
  obtain ⟨_, nodeRead⟩ := exists_data_of_at? treeRead found
  exact ascending_properties_of_ofData? nodeRead

end ContentNode

/-! ## Skipped nodes -/

/-- Take two nodes anywhere in trees that are read from JSON, one before and one after, and let the
walk find no change in the properties. Then the fields are the same just if the properties are the
same. What may differ are signs of zeros and nothing else, so without a negative zero on either side
the fields are the same. -/
theorem unchanged_fields_eq_iff {beforeText afterText path : String}
    {beforeTree afterTree before after : ContentNode} {beforeAddress afterAddress : List String}
    (beforeRead : ContentNode.ofJson? beforeText = some beforeTree)
    (afterRead : ContentNode.ofJson? afterText = some afterTree)
    (beforeFound : beforeTree.at? beforeAddress = some before)
    (afterFound : afterTree.at? afterAddress = some after)
    (unchanged : (⟨path, some before, after⟩ : Frame).isChanged = false) :
    (before.fields = after.fields ↔ before.properties = after.properties) ∧
      Value.unsignedEntries before.properties = Value.unsignedEntries after.properties ∧
      (Value.entriesUnsigned before.properties = true →
        Value.entriesUnsigned after.properties = true → before.fields = after.fields) := by
  have equal : Value.equalsEntries before.properties after.properties = true := by
    rwa [Frame.isChanged, Bool.not_eq_false'] at unchanged
  have unsigned := Value.unsignedEntries_eq_of_equals equal
  have beforeFields := fields_eq (ContentNode.ascending_properties_of_at? beforeRead beforeFound)
  have afterFields := fields_eq (ContentNode.ascending_properties_of_at? afterRead afterFound)
  have fields_of_properties (same : before.properties = after.properties) :
      before.fields = after.fields := by
    rw [ContentNode.fields, same, ContentNode.fields]
  refine ⟨⟨fun same => ?_, fields_of_properties⟩, unsigned, fun beforeUnsigned afterUnsigned => ?_⟩
  · refine eq_of_propertyFields_eq equal ?_
    rw [← beforeFields, ← afterFields, same]
  · refine fields_of_properties ?_
    rw [← Value.unsignedEntries_of_entriesUnsigned beforeUnsigned, unsigned,
      Value.unsignedEntries_of_entriesUnsigned afterUnsigned]

/-- A page with one property, a list of a word and of a record with a number in it. -/
def countedJson (number : String) : String :=
  "\x7b\"properties\":\x7b\"a\":[\"word\",\x7b\"b\":" ++ number ++ "\x7d]\x7d\x7d"

/-- Two numbers that are written differently and read alike. -/
theorem unchanged_fields_eq_iff_counted : ∃ before after,
    ContentNode.ofJson? (countedJson "1.5") = some before ∧
      ContentNode.ofJson? (countedJson "15e-1") = some after ∧
      before.at? [] = some before ∧ after.at? [] = some after ∧
      (⟨"/", some before, after⟩ : Frame).isChanged = false ∧
      Value.entriesUnsigned before.properties = true ∧
      Value.entriesUnsigned after.properties = true ∧
      before.fields = after.fields ∧ before.properties = after.properties := by
  have found : (do
      let before ← ContentNode.ofJson? (countedJson "1.5")
      let after ← ContentNode.ofJson? (countedJson "15e-1")
      some ((⟨"/", some before, after⟩ : Frame).isChanged,
        Value.entriesUnsigned before.properties, Value.entriesUnsigned after.properties)) =
      some (false, true, true) := by decide +kernel
  obtain ⟨before, beforeRead, found⟩ := Option.bind_eq_some_iff.mp found
  obtain ⟨after, afterRead, found⟩ := Option.bind_eq_some_iff.mp found
  simp only [Option.some.injEq, Prod.mk.injEq] at found
  obtain ⟨unchanged, beforeUnsigned, afterUnsigned⟩ := found
  have beforeFound : before.at? [] = some before := rfl
  have afterFound : after.at? [] = some after := rfl
  obtain ⟨iff, _, unsigned⟩ :=
    unchanged_fields_eq_iff beforeRead afterRead beforeFound afterFound unchanged
  have same := unsigned beforeUnsigned afterUnsigned
  exact ⟨before, after, beforeRead, afterRead, beforeFound, afterFound, unchanged, beforeUnsigned,
    afterUnsigned, same, iff.mp same⟩

/-- Whether the walk finds a change between two trees at their roots, and the fields there. -/
def rootFields? (beforeText afterText : String) :
    Option (Bool × List (String × String) × List (String × String)) := do
  let before ← ContentNode.ofJson? beforeText
  let after ← ContentNode.ofJson? afterText
  some ((⟨"/", some before, after⟩ : Frame).isChanged, before.fields.entries, after.fields.entries)

/-- A zero that gets a minus sign is no change, but it changes the field. -/
theorem unchanged_zero_sign : rootFields? (countedJson "0.0") (countedJson "-0.0") =
    some (false, [("a", "word \x7b\"b\":0.0\x7d")], [("a", "word \x7b\"b\":-0.0\x7d")]) := by
  decide +kernel

end Content

end QuestionSearch
