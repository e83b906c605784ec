import QuestionSearch.Proofs.Json.ValueEquality

/-!
# Signs of zeros

Values may be equal without being the same: a zero with a minus sign equals one without. There is no
other case (`unsigned_eq_of_equals`), and this one shows in the texts. At the first sign that is
missing in one of two equal values their texts read differently, and what comes before and after
cannot make up for that (`eq_or_apart_of_equals`).
-/

namespace QuestionSearch.Json

/-! ## Texts that fall apart -/

/-- Whether two texts begin alike and then go on with different characters. -/
def Apart (first second : String) : Prop :=
  ∃ front char other rest others, char ≠ other ∧
    first.toList = front ++ char :: rest ∧ second.toList = front ++ other :: others

namespace Apart

variable {first second : String}

theorem ne (apart : Apart first second) : first ≠ second := by
  obtain ⟨front, char, other, rest, others, different, firstEq, secondEq⟩ := apart
  intro same
  rw [same, secondEq] at firstEq
  exact different (List.cons.inj (List.append_cancel_left firstEq)).1.symm

theorem prepend (apart : Apart first second) (front : String) :
    Apart (front ++ first) (front ++ second) := by
  obtain ⟨more, char, other, rest, others, different, firstEq, secondEq⟩ := apart
  exact ⟨front.toList ++ more, char, other, rest, others, different, by simp [firstEq],
    by simp [secondEq]⟩

theorem append (apart : Apart first second) (last otherLast : String) :
    Apart (first ++ last) (second ++ otherLast) := by
  obtain ⟨front, char, other, rest, others, different, firstEq, secondEq⟩ := apart
  exact ⟨front, char, other, rest ++ last.toList, others ++ otherLast.toList, different,
    by simp [firstEq], by simp [secondEq]⟩

theorem symm (apart : Apart first second) : Apart second first := by
  obtain ⟨front, char, other, rest, others, different, firstEq, secondEq⟩ := apart
  exact ⟨front, other, char, others, rest, different.symm, secondEq, firstEq⟩

/-- What the items of two lists are apart in, the joined lists are apart in. -/
theorem intercalate_head (apart : Apart first second) (separator : String)
    (rest others : List String) :
    Apart (separator.intercalate (first :: rest)) (separator.intercalate (second :: others)) := by
  have joined (text : String) (texts : List String) :
      ∃ last, separator.intercalate (text :: texts) = text ++ last := by
    cases texts with
    | nil => exact ⟨"", by simp⟩
    | cons next more => exact ⟨_, by rw [String.intercalate_cons_cons, String.append_assoc]⟩
  obtain ⟨last, firstEq⟩ := joined first rest
  obtain ⟨otherLast, secondEq⟩ := joined second others
  rw [firstEq, secondEq]
  exact apart.append last otherLast

theorem intercalate_tail {separator : String} {rest others : List String}
    (apart : Apart (separator.intercalate rest) (separator.intercalate others)) (text : String) :
    Apart (separator.intercalate (text :: rest)) (separator.intercalate (text :: others)) := by
  have nonempty {texts : List String} {front rest : List Char} {char : Char}
      (textEq : (separator.intercalate texts).toList = front ++ char :: rest) : texts ≠ [] := by
    rintro rfl
    simp at textEq
  obtain ⟨_, _, _, _, _, _, restEq, othersEq⟩ := id apart
  obtain ⟨next, more, rfl⟩ := List.exists_cons_of_ne_nil (nonempty restEq)
  obtain ⟨other, others, rfl⟩ := List.exists_cons_of_ne_nil (nonempty othersEq)
  rw [String.intercalate_cons_cons, String.intercalate_cons_cons]
  exact apart.prepend _

end Apart

/-! ## Values without signs of zeros -/

namespace Value

mutual

/-- A value whose zeros have no sign. -/
def unsigned : Value → Value
  | .float number => .float (if number == 0 then 0 else number)
  | .list items => .list (unsignedItems items)
  | .record entries => .record (unsignedEntries entries)
  | .null => .null
  | .bool value => .bool value
  | .integer number => .integer number
  | .text value => .text value

/-- Items whose zeros have no sign. -/
def unsignedItems : List Value → List Value
  | [] => []
  | item :: rest => item.unsigned :: unsignedItems rest

/-- Entries whose zeros have no sign. -/
def unsignedEntries : List (String × Value) → List (String × Value)
  | [] => []
  | (key, value) :: rest => (key, value.unsigned) :: unsignedEntries rest

end

mutual

/-- Whether no zero in a value has a minus sign. -/
def isUnsigned : Value → Bool
  | .float number => decide (number ≠ -0)
  | .list items => areUnsigned items
  | .record entries => entriesUnsigned entries
  | _ => true

/-- Whether no zero in some items has a minus sign. -/
def areUnsigned : List Value → Bool
  | [] => true
  | item :: rest => item.isUnsigned && areUnsigned rest

/-- Whether no zero in some entries has a minus sign. -/
def entriesUnsigned : List (String × Value) → Bool
  | [] => true
  | (_, value) :: rest => value.isUnsigned && entriesUnsigned rest

end

theorem unsigned_float_of_ne {number : Float} (signless : number ≠ -0) :
    (Value.float number).unsigned = .float number := by
  rw [unsigned]
  split
  · rename_i zero
    obtain ⟨_, _, rfl | ⟨rfl, _⟩ | ⟨negative, _⟩⟩ := Float.beq_iff_ne_nan_and_eq.mp zero
    · rfl
    · rfl
    · exact absurd negative signless
  · rfl

mutual

theorem unsigned_of_isUnsigned : ∀ {value : Value}, value.isUnsigned = true →
    value.unsigned = value
  | .null, _ | .bool _, _ | .integer _, _ | .text _, _ => rfl
  | .float _, signless => unsigned_float_of_ne (of_decide_eq_true signless)
  | .list _, signless => congrArg list (unsignedItems_of_areUnsigned signless)
  | .record _, signless => congrArg record (unsignedEntries_of_entriesUnsigned signless)

theorem unsignedItems_of_areUnsigned : ∀ {items : List Value}, areUnsigned items = true →
    unsignedItems items = items
  | [], _ => rfl
  | _ :: _, signless => by
      rw [areUnsigned, Bool.and_eq_true] at signless
      rw [unsignedItems, unsigned_of_isUnsigned signless.1,
        unsignedItems_of_areUnsigned signless.2]

theorem unsignedEntries_of_entriesUnsigned : ∀ {entries : List (String × Value)},
    entriesUnsigned entries = true → unsignedEntries entries = entries
  | [], _ => rfl
  | (_, _) :: _, signless => by
      rw [entriesUnsigned, Bool.and_eq_true] at signless
      rw [unsignedEntries, unsigned_of_isUnsigned signless.1,
        unsignedEntries_of_entriesUnsigned signless.2]

end

theorem unsigned_float_eq {number other : Float} (same : (number == other) = true) :
    (Value.float number).unsigned = (Value.float other).unsigned := by
  obtain ⟨_, _, rfl | ⟨rfl, rfl⟩ | ⟨rfl, rfl⟩⟩ := Float.beq_iff_ne_nan_and_eq.mp same
  · rfl
  · exact congrArg Value.float (by decide)
  · exact congrArg Value.float (by decide)

mutual

/-- Equal values are the same but for signs of zeros. -/
theorem unsigned_eq_of_equals : ∀ {first second : Value}, first.equals second = true →
    first.unsigned = second.unsigned
  | .null, .null, _ => rfl
  | .bool _, .bool _, same => by
      rw [equals, beq_iff_eq] at same
      rw [same]
  | .integer _, .integer _, same => by
      rw [equals, beq_iff_eq] at same
      rw [same]
  | .float _, .float _, same => unsigned_float_eq same
  | .text _, .text _, same => by
      rw [equals, beq_iff_eq] at same
      rw [same]
  | .list _, .list _, same => congrArg list (unsignedItems_eq_of_equals same)
  | .record _, .record _, same => congrArg record (unsignedEntries_eq_of_equals same)
termination_by structural first => first

theorem unsignedItems_eq_of_equals : ∀ {first second : List Value},
    equalsItems first second = true → unsignedItems first = unsignedItems second
  | [], [], _ => rfl
  | _ :: _, _ :: _, same => by
      rw [equalsItems, Bool.and_eq_true] at same
      rw [unsignedItems, unsignedItems, unsigned_eq_of_equals same.1,
        unsignedItems_eq_of_equals same.2]
termination_by structural first => first

theorem unsignedEntries_eq_of_equals : ∀ {first second : List (String × Value)},
    equalsEntries first second = true → unsignedEntries first = unsignedEntries second
  | [], [], _ => rfl
  | (_, _) :: _, (_, _) :: _, same => by
      rw [equalsEntries, Bool.and_eq_true, Bool.and_eq_true, beq_iff_eq] at same
      rw [unsignedEntries, unsignedEntries, same.1.1, unsigned_eq_of_equals same.1.2,
        unsignedEntries_eq_of_equals same.2]
termination_by structural first => first

end

/-! ## Texts of equal values -/

theorem apart_zeros : Apart (float 0).compact (float (-0)).compact := by
  have plain : (float 0).compact = "0.0" := by decide +kernel
  have signed : (float (-0)).compact = "-0.0" := by decide +kernel
  rw [plain, signed]
  exact ⟨[], '0', '-', ['.', '0'], ['0', '.', '0'], by decide, by decide, by decide⟩

theorem eq_or_apart_of_beq {number other : Float} (same : (number == other) = true) :
    number = other ∨ Apart (float number).compact (float other).compact := by
  obtain ⟨_, _, rfl | ⟨rfl, rfl⟩ | ⟨rfl, rfl⟩⟩ := Float.beq_iff_ne_nan_and_eq.mp same
  · exact Or.inl rfl
  · exact Or.inr apart_zeros
  · exact Or.inr apart_zeros.symm

mutual

/-- The texts of equal values are apart, unless the values are the same. -/
theorem eq_or_apart_of_equals : ∀ {first second : Value}, first.equals second = true →
    first = second ∨ Apart first.compact second.compact
  | .null, .null, _ => Or.inl rfl
  | .bool _, .bool _, same => Or.inl (congrArg bool (beq_iff_eq.mp same))
  | .integer _, .integer _, same => Or.inl (congrArg integer (beq_iff_eq.mp same))
  | .float _, .float _, same => (eq_or_apart_of_beq same).imp_left (congrArg float)
  | .text _, .text _, same => Or.inl (congrArg text (beq_iff_eq.mp same))
  | .list _, .list _, same =>
      (items_eq_or_apart_of_equals same).imp (congrArg list) fun apart =>
        (apart.prepend "[").append "]" "]"
  | .record _, .record _, same =>
      (entries_eq_or_apart_of_equals same).imp (congrArg record) fun apart =>
        (apart.prepend "\x7b").append "\x7d" "\x7d"
termination_by structural first => first

theorem items_eq_or_apart_of_equals : ∀ {first second : List Value},
    equalsItems first second = true → first = second ∨
      Apart (",".intercalate (Written.compactItems (writtenItems first)))
        (",".intercalate (Written.compactItems (writtenItems second)))
  | [], [], _ => Or.inl rfl
  | _ :: _, _ :: _, same => by
      rw [equalsItems, Bool.and_eq_true] at same
      rcases eq_or_apart_of_equals same.1 with rfl | apart
      · exact (items_eq_or_apart_of_equals same.2).imp (congrArg _) fun apart =>
          apart.intercalate_tail _
      · exact Or.inr (apart.intercalate_head _ _ _)
termination_by structural first => first

theorem entries_eq_or_apart_of_equals : ∀ {first second : List (String × Value)},
    equalsEntries first second = true → first = second ∨
      Apart (",".intercalate (Written.compactEntries (writtenEntries first)))
        (",".intercalate (Written.compactEntries (writtenEntries second)))
  | [], [], _ => Or.inl rfl
  | (key, _) :: _, (_, _) :: _, same => by
      rw [equalsEntries, Bool.and_eq_true, Bool.and_eq_true, beq_iff_eq] at same
      obtain ⟨⟨rfl, sameValue⟩, sameRest⟩ := same
      rcases eq_or_apart_of_equals sameValue with rfl | apart
      · exact (entries_eq_or_apart_of_equals sameRest).imp (congrArg _) fun apart =>
          apart.intercalate_tail _
      · exact Or.inr ((apart.prepend (quotedText key ++ ":")).intercalate_head _ _ _)
termination_by structural first => first

end

end Value

end QuestionSearch.Json
