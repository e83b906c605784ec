import Mathlib
import QuestionSearch.Json.Value

/-!
# Equality of JSON values

Numbers with a point are compared as floating-point numbers, so equality is not identity: two zeros
are equal whatever their signs, and what is no number equals nothing. Values without such numbers
equal themselves (`equals_self`), and all equality is transitive (`equals_trans`).
-/

namespace QuestionSearch.Json

theorem float_beq_self {number : Float} (real : number.isNaN = false) :
    (number == number) = true := by
  rw [Float.isNaN_eq_decide_eq_nan, decide_eq_false_iff_not] at real
  exact Float.beq_self_iff.mpr real

namespace Value

mutual

/-- Whether all numbers with a point in a value are numbers. -/
def IsReal : Value → Prop
  | .float number => number.isNaN = false
  | .list items => ItemsReal items
  | .record entries => EntriesReal entries
  | _ => True

/-- Whether all items are made of real numbers. -/
def ItemsReal : List Value → Prop
  | [] => True
  | item :: rest => item.IsReal ∧ ItemsReal rest

/-- Whether the values of all entries are made of real numbers. -/
def EntriesReal : List (String × Value) → Prop
  | [] => True
  | (_, value) :: rest => value.IsReal ∧ EntriesReal rest

end

mutual

theorem equals_self : ∀ {value : Value}, value.IsReal → value.equals value = true
  | .null, _ => rfl
  | .bool value, _ => beq_self_eq_true value
  | .integer number, _ => beq_self_eq_true number
  | .float _, real => float_beq_self real
  | .text value, _ => beq_self_eq_true value
  | .list _, real => equalsItems_self real
  | .record _, real => equalsEntries_self real

theorem equalsItems_self : ∀ {items : List Value}, ItemsReal items → equalsItems items items = true
  | [], _ => rfl
  | _ :: _, ⟨itemReal, restReal⟩ => by
      rw [equalsItems, equals_self itemReal, equalsItems_self restReal, Bool.and_self]

theorem equalsEntries_self : ∀ {entries : List (String × Value)}, EntriesReal entries →
    equalsEntries entries entries = true
  | [], _ => rfl
  | (key, _) :: _, ⟨valueReal, restReal⟩ => by
      rw [equalsEntries, beq_self_eq_true key, equals_self valueReal, equalsEntries_self restReal,
        Bool.and_self, Bool.and_self]

end

mutual

theorem equals_trans : ∀ {first second third : Value}, first.equals second = true →
    second.equals third = true → first.equals third = true
  | .null, .null, .null, _, _ => rfl
  | .bool _, .bool _, .bool _, left, right => by
      rw [equals, beq_iff_eq] at left right ⊢
      exact left.trans right
  | .integer _, .integer _, .integer _, left, right => by
      rw [equals, beq_iff_eq] at left right ⊢
      exact left.trans right
  | .float _, .float _, .float _, left, right => PartialEquivBEq.trans left right
  | .text _, .text _, .text _, left, right => by
      rw [equals, beq_iff_eq] at left right ⊢
      exact left.trans right
  | .list _, .list _, .list _, left, right => equalsItems_trans left right
  | .record _, .record _, .record _, left, right => equalsEntries_trans left right
termination_by structural first => first

theorem equalsItems_trans : ∀ {first second third : List Value},
    equalsItems first second = true → equalsItems second third = true →
      equalsItems first third = true
  | [], [], [], _, _ => rfl
  | _ :: _, _ :: _, _ :: _, left, right => by
      rw [equalsItems, Bool.and_eq_true] at left right ⊢
      exact ⟨equals_trans left.1 right.1, equalsItems_trans left.2 right.2⟩
termination_by structural first => first

theorem equalsEntries_trans : ∀ {first second third : List (String × Value)},
    equalsEntries first second = true → equalsEntries second third = true →
      equalsEntries first third = true
  | [], [], [], _, _ => rfl
  | (_, _) :: _, (_, _) :: _, (_, _) :: _, left, right => by
      rw [equalsEntries, Bool.and_eq_true, Bool.and_eq_true, beq_iff_eq] at left right ⊢
      exact ⟨⟨left.1.1.trans right.1.1, equals_trans left.1.2 right.1.2⟩,
        equalsEntries_trans left.2 right.2⟩
termination_by structural first => first

end

end Value

end QuestionSearch.Json
