import Hexfield.Proofs.Scalar.Order
import Mathlib

namespace Hexfield
namespace Binary64

/-!
How binary64 arithmetic rounds, as far as signs and orders of magnitude go.

A result is cut to 53 binary digits, or to the last place that the format has, and may be one more
in the last digit.  So its exponent is at most one above that of the cut result, and a result that
has a digit left after cutting does not vanish.  Numbers whose exponents stay far below the largest
one of the format can therefore be multiplied and divided without ever leading to an infinity, and
hence without the one value that is not a number.
-/

open Float.Model (Format UnpackedFloat totalExponent)
open Float.Model.UnpackedFloat

/-! ## Cutting and rounding -/

theorem targetExponent_eq (total : Int) :
    Format.binary64.targetExponent total = max (total - 53) (-1074) := rfl

theorem mantissa_shiftRight (extended : ExtendedMantissa) (places : Nat) :
    (extended >>> places).mantissa = extended.mantissa / 2 ^ places := by
  induction places with
  | zero =>
      change extended.mantissa = _
      simp
  | succ places ih =>
      change (extended >>> places).mantissa / 2 = _
      rw [ih, Nat.div_div_eq_div_mul, Nat.pow_succ]

theorem mantissa_ofMantissaAndAccuracy (mantissa : Nat) (accuracy : Accuracy) :
    (ExtendedMantissa.ofMantissaAndAccuracy mantissa accuracy).mantissa = mantissa := by
  rcases accuracy with _ | (_ | _ | _) <;> rfl

theorem roundedMantissa_bounds (extended : ExtendedMantissa) :
    extended.mantissa ≤ extended.roundedMantissa ∧
      extended.roundedMantissa ≤ extended.mantissa + 1 := by
  rcases extended with ⟨mantissa, _ | _, _ | _⟩ <;>
    simp only [ExtendedMantissa.roundedMantissa, ExtendedMantissa.accuracy,
      Accuracy.roundToNearestEven] <;> omega

/-- The exponent at which a value is cut. -/
def cutExponent (mantissa : Nat) (exponent : Int) : Int :=
  max exponent (max (totalExponent mantissa exponent - 53) (-1074))

theorem le_cutExponent (mantissa : Nat) (exponent : Int) :
    exponent ≤ cutExponent mantissa exponent :=
  le_max_left _ _

theorem lowest_le_cutExponent (mantissa : Nat) (exponent : Int) :
    -1074 ≤ cutExponent mantissa exponent :=
  le_max_of_le_right (le_max_right _ _)

/-- What is left of the mantissa of a value that is cut. -/
def cutMantissa (mantissa : Nat) (exponent : Int) : Nat :=
  mantissa / 2 ^ (cutExponent mantissa exponent - exponent).toNat

theorem shiftToTargetExponent_eq (mantissa : Nat) (exponent : Int) (accuracy : Accuracy) :
    (shiftToTargetExponent Format.binary64 mantissa exponent accuracy).1.mantissa =
        cutMantissa mantissa exponent ∧
      (shiftToTargetExponent Format.binary64 mantissa exponent accuracy).2 =
        cutExponent mantissa exponent := by
  have places : (max (totalExponent mantissa exponent - 53) (-1074) - exponent).toNat =
      (cutExponent mantissa exponent - exponent).toNat := by
    rw [cutExponent]
    omega
  simp only [shiftToTargetExponent, shiftToExponent, targetExponent_eq, places]
  constructor
  · rw [mantissa_shiftRight, mantissa_ofMantissaAndAccuracy, cutMantissa]
  · rw [cutExponent]
    omega

theorem cutMantissa_lt (mantissa : Nat) (exponent : Int) :
    cutMantissa mantissa exponent < 2 ^ 53 := by
  have places : mantissa.log2 + 1 ≤
      53 + (cutExponent mantissa exponent - exponent).toNat := by
    simp only [cutExponent, totalExponent]
    omega
  rw [cutMantissa, Nat.div_lt_iff_lt_mul (Nat.two_pow_pos _), ← Nat.pow_add]
  exact lt_of_lt_of_le Nat.lt_log2_self (Nat.pow_le_pow_right (by decide) places)

/-- A positive value whose last digit the format can hold is not cut to zero. -/
theorem cutMantissa_pos {mantissa : Nat} (positive : 0 < mantissa) {exponent : Int}
    (low : -1074 ≤ exponent) : 0 < cutMantissa mantissa exponent := by
  have places : (cutExponent mantissa exponent - exponent).toNat ≤ mantissa.log2 := by
    simp only [cutExponent, totalExponent]
    omega
  refine Nat.div_pos (le_trans (Nat.pow_le_pow_right (by decide) places) ?_) (Nat.two_pow_pos _)
  exact Nat.log2_self_le positive.ne'

/-- A mantissa of at least 53 digits keeps that many. -/
theorem le_cutMantissa {mantissa : Nat} (long : 2 ^ 52 ≤ mantissa) {exponent : Int}
    (low : -1074 ≤ exponent) : 2 ^ 52 ≤ cutMantissa mantissa exponent := by
  have positive : 0 < mantissa := lt_of_lt_of_le (by decide) long
  have digits : 52 ≤ mantissa.log2 := (Nat.le_log2 positive.ne').mpr long
  have places : 52 + (cutExponent mantissa exponent - exponent).toNat = mantissa.log2 := by
    simp only [cutExponent, totalExponent]
    omega
  rw [cutMantissa, Nat.le_div_iff_mul_le (Nat.two_pow_pos _), ← Nat.pow_add, places]
  exact Nat.log2_self_le positive.ne'

/-- A rounded value is zero or has a mantissa of at most 53 digits, and of just as many if the cut
value has them; its exponent is that of the cut value or the one above. -/
theorem roundWithAccuracy_cases (sign : Sign) (mantissa : Nat) (exponent : Int)
    (accuracy : Accuracy) :
    (cutMantissa mantissa exponent = 0 ∧
      roundWithAccuracy Format.binary64 sign mantissa exponent accuracy = .zero sign) ∨
    ∃ (rounded : Nat) (place : Int) (positive : 0 < rounded), rounded < 2 ^ 53 ∧
      (2 ^ 52 ≤ cutMantissa mantissa exponent → 2 ^ 52 ≤ rounded) ∧
      cutExponent mantissa exponent ≤ place ∧ place ≤ cutExponent mantissa exponent + 1 ∧
      roundWithAccuracy Format.binary64 sign mantissa exponent accuracy =
        .finite sign rounded place positive := by
  rcases shiftToTargetExponent_eq mantissa exponent accuracy with ⟨cut, place⟩
  have low := lowest_le_cutExponent mantissa exponent
  have short := cutMantissa_lt mantissa exponent
  have bounds := roundedMantissa_bounds
    (shiftToTargetExponent Format.binary64 mantissa exponent accuracy).1
  rw [cut] at bounds
  simp only [roundWithAccuracy]
  rw [place]
  generalize (shiftToTargetExponent Format.binary64 mantissa exponent accuracy).1.roundedMantissa =
    rounded at bounds ⊢
  rcases shiftToTargetExponent_eq rounded (cutExponent mantissa exponent) .exact with
    ⟨cut', place'⟩
  -- Rounding up makes at most one digit more, and then there is a zero to cut off.
  have digits : rounded.log2 ≤ 53 := by
    by_cases zero : rounded = 0
    · simp [zero]
    · have below : rounded < 2 ^ 54 := by omega
      have := (Nat.log2_lt zero).mpr below
      omega
  have raised : cutExponent rounded (cutExponent mantissa exponent) ≤
      cutExponent mantissa exponent + 1 := by
    simp only [totalExponent, cutExponent] at low ⊢
    omega
  by_cases vanishes : cutMantissa rounded (cutExponent mantissa exponent) = 0
  · refine Or.inl ⟨?_, ?_⟩
    · have zero : rounded = 0 := Nat.eq_zero_of_not_pos fun positive =>
        (cutMantissa_pos positive low).ne' vanishes
      omega
    · rw [dif_pos (cut'.trans vanishes)]
  · have remains : ¬ (shiftToTargetExponent Format.binary64 rounded
        (cutExponent mantissa exponent) .exact).1.mantissa = 0 := by
      rw [cut']
      exact vanishes
    refine Or.inr ⟨_, _, Nat.pos_of_ne_zero remains, ?_, ?_, ?_, ?_, dif_neg remains⟩
    · rw [cut']
      exact cutMantissa_lt _ _
    · rw [cut']
      exact fun long => le_cutMantissa (long.trans bounds.1) low
    · rw [place']
      exact le_cutExponent _ _
    · rw [place']
      exact raised

/-! ## Packing -/

theorem unpackSign_packComponents (sign : Sign) (exponent : BitVec 11) (mantissa : BitVec 52) :
    unpackSign (packComponents Format.binary64 sign exponent mantissa) = sign.toBitVec := by
  change (sign.toBitVec ++ exponent ++ mantissa).extractLsb' 63 1 = sign.toBitVec
  rw [BitVec.extractLsb'_append_eq_of_le (by decide),
    BitVec.extractLsb'_append_eq_of_le (by decide)]
  cases sign <;> rfl

/-- The values that binary64 numbers have: a finite one has a mantissa of at most 53 digits, and its
last digit at a place of the format. -/
def Fits : UnpackedFloat → Prop
  | .finite _ mantissa exponent _ => mantissa < 2 ^ 53 ∧ -1074 ≤ exponent
  | _ => True

theorem exponent_shift : (Format.binary64.exponentBias : Int) +
    (Format.binary64.mantissaBitsWithoutImplicit : Int) = 1075 := rfl

theorem fits_unpack (x : Float) : Fits x.toModel.unpack := by
  change Fits (unpack Format.binary64 x.toModel.toBits.toBitVec)
  generalize x.toModel.toBits.toBitVec = bits
  have short : (@unpackMantissa Format.binary64 bits).toNat < 2 ^ 52 :=
    (@unpackMantissa Format.binary64 bits).isLt
  simp only [unpack]
  split
  · split <;> exact trivial
  · split
    · split
      · exact trivial
      · refine ⟨lt_trans short (by decide), ?_⟩
        change -1074 ≤ ((@unpackExponent Format.binary64 bits).toNat : Int) - 1075 + 1
        omega
    · rename_i normal
      have full : (1#1 ++ @unpackMantissa Format.binary64 bits).toNat < 2 ^ 53 :=
        (1#1 ++ @unpackMantissa Format.binary64 bits).isLt
      have positive : 0 < (@unpackExponent Format.binary64 bits).toNat :=
        Nat.pos_of_ne_zero fun zero => normal (BitVec.toNat_inj.mp zero)
      refine ⟨full, ?_⟩
      change -1074 ≤ ((@unpackExponent Format.binary64 bits).toNat : Int) - 1075
      omega

theorem ofBitVec_toBitVec (sign : Sign) : Sign.ofBitVec sign.toBitVec = sign := by
  cases sign <;> rfl

theorem unpack_packedZero (sign : Sign) :
    unpack Format.binary64 (packedZero Format.binary64 sign) = .zero sign := by
  cases sign <;> rfl

theorem unpack_packedInfinity (sign : Sign) :
    unpack Format.binary64 (packedInfinity Format.binary64 sign) = .infinity sign := by
  cases sign <;> rfl

theorem unpack_normal (sign : Sign) {biased : Nat} (positive : 0 < biased) (small : biased < 2047)
    (mantissa : BitVec 52) :
    ∃ (whole : Nat) (leading : 0 < whole), 2 ^ 52 ≤ whole ∧ unpack Format.binary64
      (packComponents Format.binary64 sign (BitVec.ofNat 11 biased) mantissa) =
        .finite sign whole ((biased : Int) - 1075) leading := by
  have kept : (BitVec.ofNat 11 biased).toNat = biased := by
    rw [BitVec.toNat_ofNat]
    omega
  have notFull : ¬ BitVec.ofNat 11 biased = -1#11 := by
    intro full
    have value : biased = 2047 := kept ▸ congrArg BitVec.toNat full
    omega
  have notEmpty : ¬ BitVec.ofNat 11 biased = 0#11 := by
    intro empty
    have value : biased = 0 := kept ▸ congrArg BitVec.toNat empty
    omega
  have long : 2 ^ 52 ≤ (1#1 ++ mantissa).toNat := by
    rw [BitVec.toNat_append]
    exact Nat.left_le_or
  refine ⟨(1#1 ++ mantissa).toNat, lt_of_lt_of_le (by decide) long, long, ?_⟩
  simp only [unpack, unpackExponent_packComponents, unpackMantissa_packComponents,
    unpackSign_packComponents, ofBitVec_toBitVec]
  rw [if_neg notFull, if_neg notEmpty]
  simp only [kept]
  rfl

theorem unpack_subnormal (sign : Sign) {mantissa : BitVec 52} (positive : 0 < mantissa.toNat) :
    unpack Format.binary64 (packComponents Format.binary64 sign 0#11 mantissa) =
      .finite sign mantissa.toNat (-1074) positive := by
  have notZero : ¬ mantissa = 0#52 := by
    rintro rfl
    exact absurd positive (by decide)
  simp only [unpack, unpackExponent_packComponents, unpackMantissa_packComponents,
    unpackSign_packComponents, ofBitVec_toBitVec]
  rw [if_neg (by decide : ¬ (0#11 = -1#11)), if_pos trivial, dif_neg notZero]
  rfl

/-- A finite value of the format stays finite when it is packed, unless it is too large, and one
with a full mantissa keeps its place. -/
theorem unpack_pack_finite (sign : Sign) {mantissa : Nat} {exponent : Int}
    (positive : 0 < mantissa) (short : mantissa < 2 ^ 53) (low : -1074 ≤ exponent) :
    (971 < exponent ∧ unpack Format.binary64
      (pack Format.binary64 (.finite sign mantissa exponent positive)) = .infinity sign) ∨
    ∃ (mantissa' : Nat) (exponent' : Int) (positive' : 0 < mantissa'), exponent' ≤ exponent ∧
      (2 ^ 52 ≤ mantissa → 2 ^ 52 ≤ mantissa' ∧ exponent' = exponent) ∧
      unpack Format.binary64
        (pack Format.binary64 (.finite sign mantissa exponent positive)) =
          .finite sign mantissa' exponent' positive' := by
  have biased : (exponent + Format.binary64.exponentBias +
      Format.binary64.mantissaBitsWithoutImplicit).toNat = (exponent + 1075).toNat := by
    rw [Int.add_assoc, exponent_shift]
  simp only [pack, biased]
  by_cases large : 971 < exponent
  · have tooLarge : 2 ^ Format.binary64.exponentBits ≤ (exponent + 1075).toNat + 1 := by
      change 2048 ≤ _
      omega
    rw [if_pos tooLarge]
    exact Or.inl ⟨large, unpack_packedInfinity sign⟩
  · have inside : ¬ 2 ^ Format.binary64.exponentBits ≤ (exponent + 1075).toNat + 1 := by
      change ¬ 2048 ≤ _
      omega
    rw [if_neg inside]
    by_cases normal : mantissa.log2 + 1 = Format.binary64.mantissaBits
    · rw [if_pos normal]
      rcases unpack_normal sign (by omega : 0 < (exponent + 1075).toNat) (by omega)
        (BitVec.ofNat 52 mantissa) with ⟨whole, leading, long, unpacked⟩
      have place : ((exponent + 1075).toNat : Int) - 1075 = exponent := by omega
      simp only [place] at unpacked
      exact Or.inr ⟨whole, exponent, leading, le_refl _, fun _ => ⟨long, rfl⟩, unpacked⟩
    · rw [if_neg normal]
      have digits : mantissa.log2 < 52 := by
        have atMost := (Nat.log2_lt positive.ne').mpr short
        change ¬ mantissa.log2 + 1 = 53 at normal
        omega
      have shorter : mantissa < 2 ^ 52 := (Nat.log2_lt positive.ne').mp digits
      have kept : (BitVec.ofNat 52 mantissa).toNat = mantissa := by
        rw [BitVec.toNat_ofNat, Nat.mod_eq_of_lt shorter]
      have positive' : 0 < (BitVec.ofNat 52 mantissa).toNat := by
        rw [kept]
        exact positive
      exact Or.inr ⟨_, -1074, positive', low, fun long => absurd shorter (not_lt.mpr long),
        unpack_subnormal sign positive'⟩

/-- The value that is kept of a computed one: it is rounded and packed. -/
def stored (sign : Sign) (mantissa : Nat) (exponent : Int) (accuracy : Accuracy) : UnpackedFloat :=
  unpack Format.binary64
    (pack Format.binary64 (roundWithAccuracy Format.binary64 sign mantissa exponent accuracy))

theorem stored_cases (sign : Sign) (mantissa : Nat) (exponent : Int) (accuracy : Accuracy) :
    (cutMantissa mantissa exponent = 0 ∧ stored sign mantissa exponent accuracy = .zero sign) ∨
    (971 ≤ cutExponent mantissa exponent ∧
      stored sign mantissa exponent accuracy = .infinity sign) ∨
    ∃ (mantissa' : Nat) (exponent' : Int) (positive' : 0 < mantissa'),
      exponent' ≤ cutExponent mantissa exponent + 1 ∧
      (2 ^ 52 ≤ cutMantissa mantissa exponent →
        2 ^ 52 ≤ mantissa' ∧ cutExponent mantissa exponent ≤ exponent') ∧
      stored sign mantissa exponent accuracy = .finite sign mantissa' exponent' positive' := by
  rw [stored]
  rcases roundWithAccuracy_cases sign mantissa exponent accuracy with
    ⟨nothing, rounded⟩ | ⟨whole, place, positive, short, long, lower, upper, rounded⟩
  · refine Or.inl ⟨nothing, ?_⟩
    rw [rounded]
    exact unpack_packedZero sign
  · have low := (lowest_le_cutExponent mantissa exponent).trans lower
    rw [rounded]
    rcases unpack_pack_finite sign positive short low with
      ⟨large, infinite⟩ | ⟨mantissa', exponent', positive', atMost, kept, finite⟩
    · exact Or.inr (Or.inl ⟨by omega, infinite⟩)
    · refine Or.inr (Or.inr ⟨mantissa', exponent', positive', atMost.trans upper, ?_, finite⟩)
      intro full
      exact ⟨(kept (long full)).1, lower.trans (kept (long full)).2.ge⟩

end Binary64
end Hexfield
