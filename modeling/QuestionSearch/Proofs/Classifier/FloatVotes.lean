import QuestionSearch.Proofs.Classifier.Winners
import QuestionSearch.Proofs.Grammar.FloatScores
import QuestionSearch.Proofs.Ranking

/-!
# Floating-point votes

Similarities that count as votes are positive floating-point numbers. They are ranked by their bits,
and for positive numbers this is the order of the numbers (`lt_of_not_atMost_float`). So votes can
be ranked, added and compared without any law being assumed (`voteLaws_float`).
-/

namespace QuestionSearch.Classifier

open Float.Model (Format UnpackedFloat)
open Float.Model.UnpackedFloat
open Grammar (ScoreOrder float_lt_iff floatKey HasSign float_zero_le_iff scoreOrder_hasSign
  unpack_float_zero)

/-! ## Laws -/

/-- Laws of votes, which are similarities above zero, and of sums of votes. -/
structure VoteLaws (R : Type) [Add R] [LT R] [Analytic R] [Ranked R] (IsVote : R → Prop) :
    Prop where
  /-- Whatever is above zero is a vote. -/
  isVote_of_pos {a : R} : Analytic.natural 0 < a → IsVote a
  /-- Votes can be added and compared. -/
  order : ScoreOrder R IsVote
  /-- Votes are ranked linearly. -/
  ranks : LinearlyRanked R
  /-- Where one similarity ranks above another one, it is greater. -/
  lt_of_not_atMost {a b : R} : Analytic.natural 0 < a → Analytic.natural 0 < b →
    Ranked.atMost a b = false → b < a

/-! ## Bits of positive numbers -/

section Bits

variable (bits : BitVec Format.binary64.numBits)

theorem toNat_unpackExponent : (unpackExponent bits).toNat = bits.toNat / 2 ^ 52 % 2 ^ 11 := by
  simp [unpackExponent, BitVec.extractLsb, Nat.shiftRight_eq_div_pow, Format.binary64]

theorem toNat_unpackMantissa : (unpackMantissa bits).toNat = bits.toNat % 2 ^ 52 := by
  simp [unpackMantissa, BitVec.extractLsb, Nat.shiftRight_eq_div_pow, Format.binary64]

theorem toNat_unpackSign : (unpackSign bits).toNat = bits.toNat / 2 ^ 63 % 2 := by
  simp [unpackSign, BitVec.extractLsb, Nat.shiftRight_eq_div_pow, Format.binary64]

theorem ofBitVec_unpackSign_iff :
    Sign.ofBitVec (unpackSign bits) = .positive ↔ bits.toNat < 2 ^ 63 := by
  have signBit := toNat_unpackSign bits
  have size := bits.isLt
  have isZero : unpackSign bits = 0#1 ↔ bits.toNat < 2 ^ 63 := by
    rw [← BitVec.toNat_inj, signBit]
    simp only [Format.numBits, Format.binary64] at size
    simp
    omega
  rw [Sign.ofBitVec, ← isZero]
  split <;> simp_all

end Bits

/-- What a number of positive sign is ordered by, from its bits. Numbers above zero with the least
exponent have no implicit bit. -/
def keyOfBits (bits : Nat) : List ℤ :=
  if bits / 2 ^ 52 = 2047 then [2]
  else if bits = 0 then [0]
  else if bits / 2 ^ 52 = 0 then [1, -1074, bits]
  else [1, (bits / 2 ^ 52 : Nat) - 1075, 2 ^ 52 + (bits % 2 ^ 52 : Nat)]

theorem keyOfBits_lt {bits others : Nat} (below : bits < others) (finite : bits / 2 ^ 52 < 2047) :
    keyOfBits bits < keyOfBits others := by
  unfold keyOfBits
  split_ifs <;> simp [List.cons_lt_cons_iff] <;> omega

/-- The bits of numbers of positive sign are those up to infinity. -/
theorem floatKey_unpack {bits : BitVec Format.binary64.numBits} (positive : bits.toNat < 2 ^ 63)
    (number : unpack Format.binary64 bits ≠ .notANumber) :
    bits.toNat ≤ 2047 * 2 ^ 52 ∧ floatKey (unpack Format.binary64 bits) = keyOfBits bits.toNat := by
  have sign := (ofBitVec_unpackSign_iff bits).mpr positive
  have mantissa := toNat_unpackMantissa bits
  have exponent := toNat_unpackExponent bits
  rw [Nat.mod_eq_of_lt (by omega)] at exponent
  have full : unpackExponent bits = -BitVec.ofNat Format.binary64.exponentBits 1 ↔
      bits.toNat / 2 ^ 52 = 2047 := by
    rw [← BitVec.toNat_inj, exponent]
    rfl
  have least : unpackExponent bits = BitVec.ofNat Format.binary64.exponentBits 0 ↔
      bits.toNat / 2 ^ 52 = 0 := by
    rw [← BitVec.toNat_inj, exponent]
    rfl
  have none : unpackMantissa bits = BitVec.ofNat Format.binary64.mantissaBitsWithoutImplicit 0 ↔
      bits.toNat % 2 ^ 52 = 0 := by
    rw [← BitVec.toNat_inj, mantissa]
    rfl
  simp only [unpack, sign, full, least, none] at number ⊢
  unfold keyOfBits
  split
  · split
    · exact ⟨by omega, rfl⟩
    · simp_all
  · refine ⟨by omega, ?_⟩
    split
    · rename_i least
      split
      · rw [if_pos (by omega)]
        rfl
      · have small : bits.toNat % 2 ^ 52 = bits.toNat := by omega
        rw [if_neg (by omega)]
        simp only [floatKey, mantissa, exponent, least, small]
        rfl
    · have implicit : (1#1 ++ unpackMantissa bits).toNat = 2 ^ 52 + bits.toNat % 2 ^ 52 := by
        rw [BitVec.toNat_append, ← Nat.shiftLeft_add_eq_or_of_lt (BitVec.isLt _), mantissa]
        rfl
      rw [if_neg (by omega)]
      simp only [floatKey, implicit, exponent]
      simp [Format.exponentBias, Format.binary64]

/-- Numbers of positive sign are ordered like their bits. -/
theorem floatKey_unpack_lt {bits others : BitVec Format.binary64.numBits}
    (below : bits.toNat < others.toNat) (positive : others.toNat < 2 ^ 63)
    (number : unpack Format.binary64 bits ≠ .notANumber)
    (otherNumber : unpack Format.binary64 others ≠ .notANumber) :
    floatKey (unpack Format.binary64 bits) < floatKey (unpack Format.binary64 others) := by
  obtain ⟨-, key⟩ := floatKey_unpack (below.trans positive) number
  obtain ⟨atMost, otherKey⟩ := floatKey_unpack positive otherNumber
  rw [key, otherKey]
  exact keyOfBits_lt below (Nat.div_lt_of_lt_mul (by omega))

/-- Numbers above zero have a positive sign bit. -/
theorem toNat_lt_of_key_pos {bits : BitVec Format.binary64.numBits}
    (above : [0] < floatKey (unpack Format.binary64 bits)) : bits.toNat < 2 ^ 63 := by
  refine (ofBitVec_unpackSign_iff bits).mp ?_
  cases sign : Sign.ofBitVec (unpackSign bits) with
  | positive => rfl
  | negative =>
      simp only [unpack, sign] at above
      split_ifs at above <;> simp [floatKey, List.cons_lt_cons_iff] at above

/-! ## Votes -/

theorem natural_float_zero : (Analytic.natural 0 : Float) = 0 := by decide +kernel

theorem toBits_lt_of_pos {number : Float} (pos : 0 < number) : number.toBits.toNat < 2 ^ 63 := by
  have above := ((float_lt_iff _ _).mp pos).2.2
  rw [unpack_float_zero] at above
  exact toNat_lt_of_key_pos above

/-- Where one of two numbers above zero ranks above the other one, it is greater. -/
theorem lt_of_not_atMost_float {first second : Float} (firstPos : 0 < first)
    (secondPos : 0 < second) (ranked : Ranked.atMost first second = false) : second < first := by
  have firstNumber := ((float_lt_iff _ _).mp firstPos).2.1
  have secondNumber := ((float_lt_iff _ _).mp secondPos).2.1
  have firstBits := toBits_lt_of_pos firstPos
  have secondBits := toBits_lt_of_pos secondPos
  have below : second.toBits.toNat < first.toBits.toNat := by
    have ranks := of_decide_eq_false ranked
    simp only [rankOfBits, Nat.pow_eq, firstBits, secondBits, if_true] at ranks
    omega
  exact (float_lt_iff _ _).mpr ⟨secondNumber, firstNumber,
    floatKey_unpack_lt below firstBits secondNumber firstNumber⟩

theorem float_le_of_lt {first second : Float} (less : first < second) : first ≤ second := by
  have number := (float_lt_iff _ _).mp less
  change decide (first.toModel.unpack.lt second.toModel.unpack = true) = true at less
  change decide (first.toModel.unpack.le second.toModel.unpack = true) = true
  simp only [decide_eq_true_eq, UnpackedFloat.lt, UnpackedFloat.le, beq_iff_eq] at less ⊢
  simp [less]

/-- Floating-point similarities obey the laws of votes. -/
theorem voteLaws_float : VoteLaws Float fun vote => 0 ≤ vote where
  isVote_of_pos pos := float_le_of_lt (natural_float_zero ▸ pos)
  order := by simpa only [float_zero_le_iff] using scoreOrder_hasSign .positive
  ranks := linearlyRanked_float
  lt_of_not_atMost := by
    rw [natural_float_zero]
    exact lt_of_not_atMost_float

/-- Real similarities obey the laws of votes. -/
theorem voteLaws_real : VoteLaws ℝ fun _ => True where
  isVote_of_pos _ := trivial
  order := scoreOrder_real
  ranks := linearlyRanked_real
  lt_of_not_atMost _ _ ranked := not_le.mp (of_decide_eq_false ranked)

end QuestionSearch.Classifier
