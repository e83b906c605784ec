import Mathlib
import QuestionSearch.Proofs.Grammar.ScoreLaws

/-!
# Floating-point scores

The floating-point numbers of one sign can be compared and added as scores (`scoreOrder_hasSign`),
so those that are at most zero can (`scoreOrder_float`). Not being a number is ruled out: no two
numbers of one sign have a sum that is none, since they are not opposite infinities. Sums are
rounded, and the two zeros differ without one being less than the other.
-/

namespace QuestionSearch.Grammar

open Float.Model (Format UnpackedFloat)
open Float.Model.UnpackedFloat

/-! ## The order -/

/-- What numbers are ordered by, the first part of which counts most. The two zeros are alike. -/
def floatKey : UnpackedFloat → List ℤ
  | .infinity .negative => [-2]
  | .finite .negative mantissa exponent _ => [-1, -exponent, -mantissa]
  | .zero _ | .notANumber => [0]
  | .finite .positive mantissa exponent _ => [1, exponent, mantissa]
  | .infinity .positive => [2]

theorem compare_eq_some_lt_iff (first second : UnpackedFloat) :
    first.compare second = some .lt ↔
      first ≠ .notANumber ∧ second ≠ .notANumber ∧ floatKey first < floatKey second := by
  have signs : compare Sign.negative Sign.positive = .lt := by decide
  rcases first with (_ | _) | _ | (_ | _) | ⟨_ | _, mantissa, exponent, pos⟩ <;>
    rcases second with (_ | _) | _ | (_ | _) | ⟨_ | _, otherMantissa, otherExponent, otherPos⟩ <;>
    simp [UnpackedFloat.compare, floatKey, signs, List.cons_lt_cons_iff, Ordering.then_eq_lt,
      Ordering.then_eq_gt, compare_lt_iff_lt, compare_gt_iff_gt]

/-- A number is less than another one if its key comes first, and neither is no number. -/
theorem float_lt_iff (first second : Float) :
    first < second ↔ first.toModel.unpack ≠ .notANumber ∧ second.toModel.unpack ≠ .notANumber ∧
      floatKey first.toModel.unpack < floatKey second.toModel.unpack := by
  rw [← compare_eq_some_lt_iff, ← beq_iff_eq]
  change decide (first.toModel.unpack.lt second.toModel.unpack = true) = true ↔ _
  rw [decide_eq_true_iff, UnpackedFloat.lt]

theorem float_lt_irrefl (number : Float) : ¬ number < number := by
  simp [float_lt_iff]

theorem float_lt_trans {first second third : Float} (before : first < second)
    (after : second < third) : first < third := by
  rw [float_lt_iff] at before after ⊢
  exact ⟨before.1, after.2.1, before.2.2.trans after.2.2⟩

/-- Of two different numbers one differs from any third one in the same way. -/
theorem float_lt_or_lt {first second third : Float}
    (number : third.toModel.unpack ≠ .notANumber) (less : first < second) :
    first < third ∨ third < second := by
  rw [float_lt_iff] at less
  rw [float_lt_iff, float_lt_iff]
  rcases lt_or_ge (floatKey first.toModel.unpack) (floatKey third.toModel.unpack) with lt | ge
  · exact Or.inl ⟨less.1, number, lt⟩
  · exact Or.inr ⟨number, less.2.1, lt_of_le_of_lt ge less.2.2⟩

/-! ## Numbers of one sign -/

/-- Whether an unpacked number is zero or has a sign. -/
def HasSign (sign : Sign) : UnpackedFloat → Prop
  | .notANumber => False
  | .zero _ => True
  | .infinity own | .finite own _ _ _ => own = sign

theorem unpack_float_zero : (0 : Float).toModel.unpack = .zero .positive :=
  (unpack_eq_zero_iff_of_valid (0 : Float).toModel.valid).mpr (by decide +kernel)

theorem float_le_zero_iff (number : Float) :
    number ≤ 0 ↔ HasSign .negative number.toModel.unpack := by
  change decide (number.toModel.unpack.le (0 : Float).toModel.unpack = true) = true ↔ _
  rw [decide_eq_true_iff, unpack_float_zero]
  rcases number.toModel.unpack with (_ | _) | _ | (_ | _) | ⟨_ | _, mantissa, exponent, pos⟩ <;>
    simp [UnpackedFloat.le, UnpackedFloat.compare, HasSign]

theorem float_zero_le_iff (number : Float) :
    0 ≤ number ↔ HasSign .positive number.toModel.unpack := by
  change decide ((0 : Float).toModel.unpack.le number.toModel.unpack = true) = true ↔ _
  rw [decide_eq_true_iff, unpack_float_zero]
  rcases number.toModel.unpack with (_ | _) | _ | (_ | _) | ⟨_ | _, mantissa, exponent, pos⟩ <;>
    simp [UnpackedFloat.le, UnpackedFloat.compare, HasSign]

theorem hasSign_unpack {spec : Format} {sign : Sign} {bits : BitVec spec.numBits}
    (signed : unpackSign bits = sign.toBitVec)
    (number : unpackExponent bits = -1#_ → unpackMantissa bits = 0#_) :
    HasSign sign (unpack spec bits) := by
  have signEq : Sign.ofBitVec (unpackSign bits) = sign := by
    rw [signed]
    cases sign <;> rfl
  simp only [unpack, signEq]
  split
  · rename_i full
    rw [if_pos (number full)]
    rfl
  · split
    · split
      · trivial
      · rfl
    · rfl

theorem ofNat_ne_neg_one {bits number : Nat} (small : number + 1 < 2 ^ bits) :
    BitVec.ofNat bits number ≠ -1#_ := by
  intro same
  have values := congrArg BitVec.toNat same
  rw [BitVec.toNat_ofNat, Nat.mod_eq_of_lt (by omega), BitVec.neg_one_eq_allOnes,
    BitVec.toNat_allOnes] at values
  omega

/-- Packing a number keeps its sign and does not turn it into none. -/
theorem hasSign_unpack_pack {spec : Format} {sign : Sign} {number : UnpackedFloat}
    (signed : HasSign sign number) : HasSign sign (unpack spec (pack spec number)) := by
  rcases number with own | _ | own | ⟨own, mantissa, exponent, pos⟩
  · obtain rfl : own = sign := signed
    exact hasSign_unpack (by simp [pack, packedInfinity]) (by simp [pack, packedInfinity])
  · cases signed
  · simp [pack, HasSign, unpack_packedZero]
  · obtain rfl : own = sign := signed
    unfold pack
    extract_lets bitCount biased
    split
    · exact hasSign_unpack (by simp [packedInfinity]) (by simp [packedInfinity])
    · rename_i small
      split
      · refine hasSign_unpack (by simp) fun full => ?_
        rw [unpackExponent_packComponents] at full
        exact absurd full (ofNat_ne_neg_one (by omega))
      · refine hasSign_unpack (by simp) fun full => ?_
        rw [unpackExponent_packComponents] at full
        have bitsPos := spec.he
        simp only [BitVec.zero_eq_neg_one_iff] at full
        omega

theorem hasSign_round (spec : Format) (sign : Sign) (mantissa : Nat) (exponent : ℤ) :
    HasSign sign (UnpackedFloat.round spec sign mantissa exponent) := by
  simp only [UnpackedFloat.round, roundWithAccuracy]
  split <;> trivial

theorem hasSign_normalize (spec : Format) (sign : Sign) (mantissa : Nat) (exponent : ℤ)
    (zeroSign : Sign) :
    HasSign sign (UnpackedFloat.normalize spec (sign.apply mantissa) exponent zeroSign) := by
  simp only [UnpackedFloat.normalize]
  split
  · rename_i below
    rw [compare_lt_iff_lt] at below
    cases sign with
    | negative => exact hasSign_round ..
    | positive =>
        simp only [Sign.apply] at below
        omega
  · trivial
  · rename_i above
    rw [compare_gt_iff_gt] at above
    cases sign with
    | negative =>
        simp only [Sign.apply] at above
        omega
    | positive => exact hasSign_round ..

theorem hasSign_add (spec : Format) {sign : Sign} {first second : UnpackedFloat}
    (firstSigned : HasSign sign first) (secondSigned : HasSign sign second) :
    HasSign sign (UnpackedFloat.add spec first second) := by
  rcases first with own | _ | own | ⟨own, mantissa, exponent, pos⟩ <;>
    rcases second with
      other | _ | other | ⟨other, otherMantissa, otherExponent, otherPos⟩ <;>
    simp only [HasSign] at firstSigned secondSigned
  case infinity.infinity =>
    subst firstSigned secondSigned
    simp [UnpackedFloat.add, HasSign]
  case zero.zero =>
    simp only [UnpackedFloat.add]
    split <;> trivial
  case finite.finite =>
    subst firstSigned secondSigned
    have added (sign : Sign) (count others : Nat) :
        sign.apply count + sign.apply others = sign.apply (count + others : Nat) := by
      cases sign with
      | negative =>
          simp only [Sign.apply]
          omega
      | positive => rfl
    simp only [UnpackedFloat.add, added]
    exact hasSign_normalize ..
  all_goals assumption

/-- Numbers of one sign are compared linearly, and so are their rounded sums. -/
theorem scoreOrder_hasSign (sign : Sign) :
    ScoreOrder Float fun number => HasSign sign number.toModel.unpack where
  isScore_add firstSigned secondSigned :=
    hasSign_unpack_pack (hasSign_add _ firstSigned secondSigned)
  irrefl := float_lt_irrefl
  trans := float_lt_trans
  lt_or_lt _ _ thirdSigned :=
    float_lt_or_lt fun none => by
      rw [none] at thirdSigned
      cases thirdSigned

/-- Numbers that are at most zero are compared linearly, and so are their rounded sums. -/
theorem scoreOrder_float : ScoreOrder Float fun score => score ≤ 0 := by
  simpa only [float_le_zero_iff] using scoreOrder_hasSign .negative

end QuestionSearch.Grammar
