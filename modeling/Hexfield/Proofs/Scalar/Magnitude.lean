import Hexfield.Proofs.Scalar.Rounding
import Hexfield.Proofs.Scalar.Sums

namespace Hexfield
namespace Binary64

/-!
Binary64 numbers that are not negative.

The sum of two of them vanishes only if both do, since rounding never takes a positive sum to zero.
Products and quotients stay finite, and so remain numbers, as long as the exponents add up to less
than the largest one.
-/

open Float.Model (Format UnpackedFloat totalExponent)
open Float.Model.UnpackedFloat

/-! ## Signs -/

/-- Zero, of either sign. -/
def IsZero (value : UnpackedFloat) : Prop :=
  ∃ sign, value = .zero sign

/-- Above zero, and perhaps infinite. -/
def IsPositive (value : UnpackedFloat) : Prop :=
  value = .infinity .positive ∨
    ∃ mantissa exponent positive, value = .finite .positive mantissa exponent positive

theorem rank_zero : rank (0.0 : Float).toModel.unpack = some (0, 0, 0) := rfl

theorem le_of_isZero {x y : Float} (zero : IsZero x.toModel.unpack)
    (zero' : IsZero y.toModel.unpack) : x ≤ y := by
  rcases zero with ⟨sign, unpacked⟩
  rcases zero' with ⟨sign', unpacked'⟩
  refine (le_iff x y).mpr ⟨(0, 0, 0), (0, 0, 0), ?_, ?_, rfl⟩
  · rw [unpacked]
    rfl
  · rw [unpacked']
    rfl

theorem nonneg_iff (x : Float) :
    0.0 ≤ x ↔ IsZero x.toModel.unpack ∨ IsPositive x.toModel.unpack := by
  rw [le_iff]
  simp only [rank_zero, Option.some.injEq, IsZero, IsPositive]
  generalize x.toModel.unpack = value
  constructor
  · rintro ⟨_, b, rfl, ranked, le⟩
    rcases value with (_ | _) | _ | sign | ⟨_ | _, mantissa, exponent, positive⟩
    · cases ranked
      cases le
    · exact Or.inr (Or.inl rfl)
    · cases ranked
    · exact Or.inl ⟨sign, rfl⟩
    · cases ranked
      cases le
    · exact Or.inr (Or.inr ⟨mantissa, exponent, positive, rfl⟩)
  · rintro (⟨sign, rfl⟩ | rfl | ⟨mantissa, exponent, positive, rfl⟩)
    · exact ⟨_, _, rfl, rfl, rfl⟩
    · exact ⟨_, _, rfl, rfl, rfl⟩
    · exact ⟨_, _, rfl, rfl, rfl⟩

/-- Of the numbers that are not negative, the zeros are those that are not positive. -/
theorem nonpos_iff {x : Float} (nonneg : 0.0 ≤ x) : x ≤ 0.0 ↔ ¬ IsPositive x.toModel.unpack := by
  constructor
  · intro nonpos positive
    rcases (le_iff x 0.0).mp nonpos with ⟨a, b, ranked, ranked', le⟩
    rw [rank_zero] at ranked'
    cases ranked'
    rcases positive with infinite | ⟨mantissa, exponent, positive, finite⟩
    · rw [infinite] at ranked
      cases ranked
      cases le
    · rw [finite] at ranked
      cases ranked
      cases le
  · intro notPositive
    exact le_of_isZero (((nonneg_iff x).mp nonneg).resolve_right notPositive) ⟨.positive, rfl⟩

/-! ## Sums -/

theorem isPositive_repack {value : UnpackedFloat} (fits : Fits value)
    (positive : IsPositive value) :
    IsPositive (unpack Format.binary64 (pack Format.binary64 value)) := by
  rcases positive with rfl | ⟨mantissa, exponent, positive, rfl⟩
  · exact Or.inl (unpack_packedInfinity .positive)
  · rcases unpack_pack_finite .positive positive fits.1 fits.2 with
      ⟨-, infinite⟩ | ⟨mantissa', exponent', positive', -, -, finite⟩
    · exact Or.inl infinite
    · exact Or.inr ⟨mantissa', exponent', positive', finite⟩

/-- A positive value whose last place the format has is not rounded to zero. -/
theorem isPositive_roundWithAccuracy {mantissa : Nat} (positive : 0 < mantissa) {exponent : Int}
    (low : -1074 ≤ exponent) (accuracy : Accuracy) :
    Fits (roundWithAccuracy Format.binary64 .positive mantissa exponent accuracy) ∧
      IsPositive (roundWithAccuracy Format.binary64 .positive mantissa exponent accuracy) := by
  rcases roundWithAccuracy_cases .positive mantissa exponent accuracy with
    ⟨nothing, -⟩ | ⟨whole, place, positive', short, -, lower, -, rounded⟩
  · exact absurd nothing (cutMantissa_pos positive low).ne'
  · rw [rounded]
    exact ⟨⟨short, (lowest_le_cutExponent mantissa exponent).trans lower⟩,
      Or.inr ⟨whole, place, positive', rfl⟩⟩

theorem isPositive_round {mantissa : Nat} (positive : 0 < mantissa) {exponent : Int}
    (low : -1074 ≤ exponent) :
    Fits (round Format.binary64 .positive mantissa exponent) ∧
      IsPositive (round Format.binary64 .positive mantissa exponent) := by
  refine isPositive_roundWithAccuracy ?_ ?_ .exact
  · rw [Nat.shiftLeft_eq]
    exact Nat.mul_pos positive (Nat.two_pow_pos _)
  · rw [targetExponent_eq]
    omega

theorem normalize_natCast {mantissa : Nat} (positive : 0 < mantissa) (exponent : Int)
    (sign : Sign) :
    UnpackedFloat.normalize Format.binary64 mantissa exponent sign =
      round Format.binary64 .positive mantissa exponent := by
  have above : compare (mantissa : Int) 0 = .gt := Int.compare_eq_gt.mpr (by omega)
  simp only [UnpackedFloat.normalize, above, Int.toNat_natCast]

theorem isPositive_add_finite {mantissa mantissa' : Nat} {exponent exponent' : Int}
    (positive : 0 < mantissa) (positive' : 0 < mantissa')
    (low : -1074 ≤ exponent) (low' : -1074 ≤ exponent') :
    Fits (add Format.binary64 (.finite .positive mantissa exponent positive)
        (.finite .positive mantissa' exponent' positive')) ∧
      IsPositive (add Format.binary64 (.finite .positive mantissa exponent positive)
        (.finite .positive mantissa' exponent' positive')) := by
  have total : 0 < mantissa <<< (exponent - min exponent exponent').toNat +
      mantissa' <<< (exponent' - min exponent exponent').toNat := by
    rw [Nat.shiftLeft_eq]
    exact Nat.add_pos_left (Nat.mul_pos positive (Nat.two_pow_pos _)) _
  have sum : add Format.binary64 (.finite .positive mantissa exponent positive)
      (.finite .positive mantissa' exponent' positive') =
        round Format.binary64 .positive
          (mantissa <<< (exponent - min exponent exponent').toNat +
            mantissa' <<< (exponent' - min exponent exponent').toNat)
          (min exponent exponent') := by
    rw [← normalize_natCast total, Nat.cast_add]
    rfl
  rw [sum]
  exact isPositive_round total (le_min low low')

theorem isPositive_add {value value' : UnpackedFloat} (fits : Fits value) (fits' : Fits value')
    (nonneg : IsZero value ∨ IsPositive value) (nonneg' : IsZero value' ∨ IsPositive value')
    (either : IsPositive value ∨ IsPositive value') :
    Fits (add Format.binary64 value value') ∧ IsPositive (add Format.binary64 value value') := by
  rcases nonneg with ⟨sign, rfl⟩ | rfl | ⟨mantissa, exponent, positive, rfl⟩ <;>
    rcases nonneg' with ⟨sign', rfl⟩ | rfl | ⟨mantissa', exponent', positive', rfl⟩
  · rcases either with
      (impossible | ⟨_, _, _, impossible⟩) | (impossible | ⟨_, _, _, impossible⟩) <;>
      cases impossible
  · exact ⟨trivial, Or.inl rfl⟩
  · exact ⟨fits', Or.inr ⟨mantissa', exponent', positive', rfl⟩⟩
  · exact ⟨trivial, Or.inl rfl⟩
  · exact ⟨trivial, Or.inl rfl⟩
  · exact ⟨trivial, Or.inl rfl⟩
  · exact ⟨fits, Or.inr ⟨mantissa, exponent, positive, rfl⟩⟩
  · exact ⟨trivial, Or.inl rfl⟩
  · exact isPositive_add_finite positive positive' fits.2 fits'.2

theorem isPositive_float_add {x y : Float} (nonneg : 0.0 ≤ x) (nonneg' : 0.0 ≤ y)
    (either : IsPositive x.toModel.unpack ∨ IsPositive y.toModel.unpack) :
    IsPositive (x + y).toModel.unpack := by
  rcases isPositive_add (fits_unpack x) (fits_unpack y) ((nonneg_iff x).mp nonneg)
    ((nonneg_iff y).mp nonneg') either with ⟨fits, positive⟩
  exact isPositive_repack fits positive

theorem isZero_float_add {x y : Float} (zero : IsZero x.toModel.unpack)
    (zero' : IsZero y.toModel.unpack) : IsZero (x + y).toModel.unpack := by
  rcases zero with ⟨sign, unpacked⟩
  rcases zero' with ⟨sign', unpacked'⟩
  change IsZero (unpack Format.binary64
    (pack Format.binary64 (add Format.binary64 x.toModel.unpack y.toModel.unpack)))
  rw [unpacked, unpacked']
  cases sign <;> cases sign' <;> exact ⟨_, unpack_packedZero _⟩

theorem float_add_nonneg {x y : Float} (nonneg : 0.0 ≤ x) (nonneg' : 0.0 ≤ y) : 0.0 ≤ x + y := by
  rcases (nonneg_iff x).mp nonneg with zero | positive
  · rcases (nonneg_iff y).mp nonneg' with zero' | positive'
    · exact (nonneg_iff _).mpr (Or.inl (isZero_float_add zero zero'))
    · exact (nonneg_iff _).mpr (Or.inr (isPositive_float_add nonneg nonneg' (Or.inr positive')))
  · exact (nonneg_iff _).mpr (Or.inr (isPositive_float_add nonneg nonneg' (Or.inl positive)))

theorem float_add_nonpos_iff {x y : Float} (nonneg : 0.0 ≤ x) (nonneg' : 0.0 ≤ y) :
    x + y ≤ 0.0 ↔ x ≤ 0.0 ∧ y ≤ 0.0 := by
  rw [nonpos_iff (float_add_nonneg nonneg nonneg'), nonpos_iff nonneg, nonpos_iff nonneg',
    ← not_or]
  constructor
  · intro vanishes either
    exact vanishes (isPositive_float_add nonneg nonneg' either)
  · intro neither positive
    rw [not_or] at neither
    have zero := ((nonneg_iff x).mp nonneg).resolve_right neither.1
    have zero' := ((nonneg_iff y).mp nonneg').resolve_right neither.2
    have nonpos : x + y ≤ 0.0 := le_of_isZero (isZero_float_add zero zero') ⟨.positive, rfl⟩
    exact (nonpos_iff (float_add_nonneg nonneg nonneg')).mp nonpos positive

theorem beq_iff (x y : Float) : (x == y) = true ↔ x ≤ y ∧ y ≤ x := by
  change (x.toModel.unpack.compare y.toModel.unpack == some .eq) = true ↔ _
  rw [compare_eq, le_iff, le_iff]
  cases rank x.toModel.unpack with
  | none => simp
  | some a =>
      cases rank y.toModel.unpack with
      | none => simp
      | some b =>
          have oriented : compareRank b a = (compareRank a b).swap := Std.OrientedCmp.eq_swap
          cases order : compareRank a b <;> simp [oriented, order]

/-! ## Products and quotients -/

/-- Zero, or positive and finite with an exponent that is not above the limit. -/
def AtMost (limit : Int) (x : Float) : Prop :=
  IsZero x.toModel.unpack ∨ ∃ mantissa exponent positive,
    x.toModel.unpack = .finite .positive mantissa exponent positive ∧ exponent ≤ limit

/-- Positive and finite with a full mantissa and an exponent that is not below the limit. -/
def AtLeast (limit : Int) (x : Float) : Prop :=
  ∃ mantissa exponent positive, x.toModel.unpack = .finite .positive mantissa exponent positive ∧
    2 ^ 52 ≤ mantissa ∧ limit ≤ exponent

theorem AtMost.nonneg {limit : Int} {x : Float} (bounded : AtMost limit x) : 0.0 ≤ x := by
  rcases bounded with zero | ⟨mantissa, exponent, positive, unpacked, -⟩
  · exact (nonneg_iff x).mpr (Or.inl zero)
  · exact (nonneg_iff x).mpr (Or.inr (Or.inr ⟨mantissa, exponent, positive, unpacked⟩))

theorem AtMost.mono {limit limit' : Int} {x : Float} (bounded : AtMost limit x)
    (le : limit ≤ limit') : AtMost limit' x := by
  rcases bounded with zero | ⟨mantissa, exponent, positive, unpacked, atMost⟩
  · exact Or.inl zero
  · exact Or.inr ⟨mantissa, exponent, positive, unpacked, atMost.trans le⟩

theorem AtMost.exponent_le {limit : Int} {x : Float} (bounded : AtMost limit x) {sign : Sign}
    {mantissa : Nat} {exponent : Int} {positive : 0 < mantissa}
    (unpacked : x.toModel.unpack = .finite sign mantissa exponent positive) : exponent ≤ limit := by
  rcases bounded with ⟨sign, zero⟩ | ⟨_, _, _, finite, atMost⟩
  · cases unpacked.symm.trans zero
  · cases unpacked.symm.trans finite
    exact atMost

section Stored

variable {x : Float} {mantissa : Nat} {exponent : Int} {accuracy : Accuracy}

theorem atMost_of_stored (result : x.toModel.unpack = stored .positive mantissa exponent accuracy)
    {limit : Int} (below : cutExponent mantissa exponent < limit) (inside : limit ≤ 971) :
    AtMost limit x := by
  rcases stored_cases .positive mantissa exponent accuracy with
    ⟨-, zero⟩ | ⟨large, -⟩ | ⟨mantissa', exponent', positive', upper, -, finite⟩
  · exact Or.inl ⟨.positive, result.trans zero⟩
  · omega
  · exact Or.inr ⟨mantissa', exponent', positive', result.trans finite, by omega⟩

theorem atLeast_of_stored (result : x.toModel.unpack = stored .positive mantissa exponent accuracy)
    (long : 2 ^ 52 ≤ mantissa) (low : -1074 ≤ exponent)
    (inside : cutExponent mantissa exponent < 971) : AtLeast exponent x := by
  have full := le_cutMantissa long low
  rcases stored_cases .positive mantissa exponent accuracy with
    ⟨nothing, -⟩ | ⟨large, -⟩ | ⟨mantissa', exponent', positive', -, kept, finite⟩
  · omega
  · omega
  · exact ⟨mantissa', exponent', positive', result.trans finite, (kept full).1,
      (le_cutExponent mantissa exponent).trans (kept full).2⟩

end Stored

/-- A value is not cut further to the left than it has digits too many. -/
theorem cutExponent_le {mantissa digits : Nat} (short : mantissa < 2 ^ (53 + digits))
    (exponent : Int) : cutExponent mantissa exponent ≤ max (exponent + digits) (-1074) := by
  have few : mantissa.log2 < 53 + digits := by
    by_cases zero : mantissa = 0
    · simp [zero]
    · exact (Nat.log2_lt zero).mpr short
  simp only [cutExponent, totalExponent]
  omega

section Operations

variable {x y : Float} {j k l : Int}

theorem fits_finite {x : Float} {sign : Sign} {mantissa : Nat} {exponent : Int}
    {positive : 0 < mantissa}
    (unpacked : x.toModel.unpack = .finite sign mantissa exponent positive) :
    mantissa < 2 ^ 53 ∧ -1074 ≤ exponent := by
  have fits := fits_unpack x
  rw [unpacked] at fits
  exact fits

theorem mul_lt {mantissa mantissa' : Nat} (short : mantissa < 2 ^ 53)
    (short' : mantissa' < 2 ^ 53) : mantissa * mantissa' < 2 ^ (53 + 53) := by
  rw [Nat.pow_add]
  exact Nat.mul_lt_mul'' short short'

theorem unpack_mul_finite {mantissa mantissa' : Nat} {exponent exponent' : Int}
    {positive : 0 < mantissa} {positive' : 0 < mantissa'}
    (unpacked : x.toModel.unpack = .finite .positive mantissa exponent positive)
    (unpacked' : y.toModel.unpack = .finite .positive mantissa' exponent' positive') :
    (x * y).toModel.unpack =
      stored .positive (mantissa * mantissa') (exponent + exponent') .exact := by
  change unpack Format.binary64
    (pack Format.binary64 (UnpackedFloat.mul Format.binary64 x.toModel.unpack y.toModel.unpack)) = _
  rw [unpacked, unpacked']
  rfl

theorem AtMost.mul (bounded : AtMost j x) (bounded' : AtMost k y) (low : -1074 ≤ j + k + 53)
    (inside : j + k + 54 ≤ 971) : AtMost (j + k + 54) (x * y) := by
  have unpackMul : (x * y).toModel.unpack = unpack Format.binary64
    (pack Format.binary64
      (UnpackedFloat.mul Format.binary64 x.toModel.unpack y.toModel.unpack)) := rfl
  rcases bounded with ⟨sign, unpacked⟩ | ⟨mantissa, exponent, positive, unpacked, le⟩
  · refine Or.inl ?_
    rw [unpackMul, unpacked]
    rcases bounded' with ⟨sign', unpacked'⟩ | ⟨mantissa', exponent', positive', unpacked', -⟩
    · rw [unpacked']
      exact ⟨_, unpack_packedZero (sign * sign')⟩
    · rw [unpacked']
      exact ⟨_, unpack_packedZero (sign * Sign.positive)⟩
  · rcases bounded' with ⟨sign', unpacked'⟩ | ⟨mantissa', exponent', positive', unpacked', le'⟩
    · refine Or.inl ?_
      rw [unpackMul, unpacked, unpacked']
      exact ⟨_, unpack_packedZero (Sign.positive * sign')⟩
    · have cut : cutExponent (mantissa * mantissa') (exponent + exponent') ≤
          max (exponent + exponent' + 53) (-1074) :=
        cutExponent_le (mul_lt (fits_finite unpacked).1 (fits_finite unpacked').1) _
      refine atMost_of_stored (unpack_mul_finite unpacked unpacked') ?_ inside
      omega

theorem AtLeast.mul (bounded : AtLeast j x) (bounded' : AtLeast k y) (above : AtMost l x)
    (above' : AtMost 0 y) (low : -1074 ≤ j + k) (inside : l + 53 < 971) :
    AtLeast (j + k) (x * y) := by
  rcases bounded with ⟨mantissa, exponent, positive, unpacked, long, le⟩
  rcases bounded' with ⟨mantissa', exponent', positive', unpacked', long', le'⟩
  have small := above.exponent_le unpacked
  have small' := above'.exponent_le unpacked'
  have cut : cutExponent (mantissa * mantissa') (exponent + exponent') ≤
      max (exponent + exponent' + 53) (-1074) :=
    cutExponent_le (mul_lt (fits_finite unpacked).1 (fits_finite unpacked').1) _
  have longer : 2 ^ 52 ≤ mantissa * mantissa' := long.trans (Nat.le_mul_of_pos_right _ positive')
  rcases atLeast_of_stored (unpack_mul_finite unpacked unpacked') longer (by omega) (by omega) with
    ⟨mantissa'', exponent'', positive'', unpacked'', full, atLeast⟩
  exact ⟨mantissa'', exponent'', positive'', unpacked'', full, by omega⟩

/-- A quotient by a number that is not too small. -/
theorem AtMost.div (bounded : AtMost j x) (bounded' : AtLeast l y) (low : -1074 ≤ j - l)
    (inside : j - l + 1 ≤ 971) : AtMost (j - l + 1) (x / y) := by
  have unpackDiv : (x / y).toModel.unpack = unpack Format.binary64 (pack Format.binary64
    (UnpackedFloat.div Format.binary64 x.toModel.unpack y.toModel.unpack)) := rfl
  rcases bounded' with ⟨mantissa', exponent', positive', unpacked', -, le'⟩
  rcases bounded with ⟨sign, unpacked⟩ | ⟨mantissa, exponent, positive, unpacked, le⟩
  · refine Or.inl ?_
    rw [unpackDiv, unpacked, unpacked']
    exact ⟨_, unpack_packedZero (sign / Sign.positive)⟩
  · rw [unpacked, unpacked'] at unpackDiv
    -- The mantissa is lengthened before it is divided, and the exponent lowered by as much.
    generalize target : min (exponent - exponent') (Format.binary64.targetExponent
      (totalExponent mantissa exponent - totalExponent mantissa' exponent')) = place at *
    have result : (x / y).toModel.unpack = stored .positive
        ((mantissa <<< (exponent - exponent' - place).toNat) / mantissa') place
        (accuracyOfFraction ((mantissa <<< (exponent - exponent' - place).toNat) % mantissa')
          mantissa') := by
      rw [unpackDiv, ← target]
      rfl
    have lowered : place ≤ exponent - exponent' := by
      rw [← target]
      exact min_le_left _ _
    have short : (mantissa <<< (exponent - exponent' - place).toNat) / mantissa' <
        2 ^ (53 + (exponent - exponent' - place).toNat) := by
      refine lt_of_le_of_lt (Nat.div_le_self _ _) ?_
      rw [Nat.shiftLeft_eq, Nat.pow_add]
      exact Nat.mul_lt_mul_of_pos_right (fits_finite unpacked).1 (Nat.two_pow_pos _)
    have cut := cutExponent_le short place
    refine atMost_of_stored result ?_ inside
    omega

end Operations

/-! ## Counts -/

theorem atMost_one : AtMost (-52) 1.0 :=
  Or.inr ⟨2 ^ 52, -52, by decide, rfl, le_refl _⟩

theorem atLeast_one : AtLeast (-52) 1.0 :=
  ⟨2 ^ 52, -52, by decide, rfl, le_refl _, le_refl _⟩

/-- A positive count of at most 53 digits is brought to a full mantissa. -/
theorem unpack_toFloat {n : Nat} (positive : 0 < n) (small : n < 2 ^ 53) :
    ∃ places : Nat, places ≤ 52 ∧ 2 ^ 52 ≤ n * 2 ^ places ∧ n * 2 ^ places < 2 ^ 53 ∧
      n.toUInt64.toFloat.toModel.unpack = stored .positive (n * 2 ^ places) (-places) .exact := by
  have digits : n.log2 < 53 := (Nat.log2_lt positive.ne').mpr small
  have word : n.toUInt64.toNat = n := by
    rw [Nat.toUInt64, UInt64.toNat_ofNat']
    exact Nat.mod_eq_of_lt (lt_trans small (by decide))
  have full : n.log2 + (52 - n.log2) = 52 := by omega
  refine ⟨52 - n.log2, by omega, ?_, ?_, ?_⟩
  · calc 2 ^ 52 = 2 ^ n.log2 * 2 ^ (52 - n.log2) := by rw [← Nat.pow_add, full]
      _ ≤ n * 2 ^ (52 - n.log2) := Nat.mul_le_mul_right _ (Nat.log2_self_le positive.ne')
  · calc n * 2 ^ (52 - n.log2) < 2 ^ (n.log2 + 1) * 2 ^ (52 - n.log2) :=
          Nat.mul_lt_mul_of_pos_right Nat.lt_log2_self (Nat.two_pow_pos _)
      _ = 2 ^ 53 := by rw [← Nat.pow_add, Nat.add_right_comm, full]
  · have target : Format.binary64.targetExponent (totalExponent n 0) =
        -((52 - n.log2 : Nat) : Int) := by
      rw [targetExponent_eq, totalExponent]
      omega
    change unpack Format.binary64 (pack Format.binary64
      (UnpackedFloat.normalize Format.binary64 (n.toUInt64.toNat : Int) 0 .positive)) = _
    rw [word, normalize_natCast positive, UnpackedFloat.round, target, stored]
    simp only [decreaseExponent, Int.sub_neg, Int.zero_add, Int.toNat_natCast, Int.zero_sub,
      Nat.shiftLeft_eq]

/-- A count below `2 ^ 53` is converted by way of a machine word. -/
theorem ofNat_of_lt {n : Nat} (small : n < 2 ^ 53) : Float.ofNat n = n.toUInt64.toFloat * 1.0 := by
  have fast : n < 2 ^ 53 ∧ 0 ≤ 22 := ⟨small, by decide⟩
  change Float.ofScientific n false 0 = _
  rw [Float.ofScientific, dif_pos fast]
  rfl

theorem atMost_toFloat {n : Nat} (small : n < 2 ^ 53) : AtMost 1 n.toUInt64.toFloat := by
  rcases Nat.eq_zero_or_pos n with rfl | positive
  · exact Or.inl ⟨.positive, rfl⟩
  · rcases unpack_toFloat positive small with ⟨places, few, -, short, result⟩
    have cut := cutExponent_le (show n * 2 ^ places < 2 ^ (53 + 0) from short) (-places)
    refine atMost_of_stored result ?_ (by decide)
    omega

theorem atLeast_toFloat {n : Nat} (positive : 0 < n) (small : n < 2 ^ 53) :
    AtLeast (-52) n.toUInt64.toFloat := by
  rcases unpack_toFloat positive small with ⟨places, few, long, short, result⟩
  have cut := cutExponent_le (show n * 2 ^ places < 2 ^ (53 + 0) from short) (-places)
  rcases atLeast_of_stored result long (by omega) (by omega) with
    ⟨mantissa, exponent, positive', unpacked, full, le⟩
  exact ⟨mantissa, exponent, positive', unpacked, full, by omega⟩

theorem unpack_ofNat_of_le {n : Nat} (large : 2 ^ 53 ≤ n) :
    (Float.ofNat n).toModel.unpack = stored .positive ((n <<< 53) * 10 ^ 0) (-53 + 0) .exact := by
  have positive : n ≠ 0 := by
    rintro rfl
    exact absurd large (by decide)
  have slow : ¬ (n < 2 ^ 53 ∧ 0 ≤ 22) := fun fast => absurd fast.1 (not_lt.mpr large)
  have notHuge : ¬ ((0 : Int) > 2 ^ 11) := by decide
  have notTiny : ¬ ((0 : Int) < -((2 ^ 11 : Int) + n.log2)) := by omega
  have direct : Float.ofNat n = .ofModel (.ofScientific n 0) := by
    change Float.ofScientific n false 0 = _
    rw [Float.ofScientific, dif_neg slow]
    rfl
  rw [direct]
  change unpack Format.binary64 (pack Format.binary64
    (UnpackedFloat.ofScientific Format.binary64 n 0)) = _
  rw [UnpackedFloat.ofScientific, dif_neg positive, if_neg notHuge, if_neg notTiny,
    if_pos (le_refl _)]
  rfl

theorem atMost_ofNat {n : Nat} (bound : n < 2 ^ 65) : AtMost 13 (Float.ofNat n) := by
  by_cases small : n < 2 ^ 53
  · rw [ofNat_of_lt small]
    exact ((atMost_toFloat small).mul atMost_one (by decide) (by decide)).mono (by decide)
  · have short : (n <<< 53) * 10 ^ 0 < 2 ^ (53 + 65) := by
      rw [Nat.shiftLeft_eq, Nat.pow_zero, Nat.mul_one, Nat.add_comm, Nat.pow_add]
      exact Nat.mul_lt_mul_of_pos_right bound (Nat.two_pow_pos _)
    have cut := cutExponent_le short (-53 + 0)
    refine atMost_of_stored (unpack_ofNat_of_le (not_lt.mp small)) ?_ (by decide)
    omega

theorem atLeast_ofNat {n : Nat} (positive : 0 < n) (small : n < 2 ^ 53) :
    AtLeast (-104) (Float.ofNat n) := by
  rw [ofNat_of_lt small]
  exact (atLeast_toFloat positive small).mul atLeast_one (atMost_toFloat small)
    (atMost_one.mono (by decide)) (by decide) (by decide)

theorem atMost_percent {n : Nat} (bound : n < 2 ^ 65) : AtMost 60 (Scalar.percent n) := by
  have count : AtMost 13 (Scalar.ofNat n) := atMost_ofNat bound
  have hundred : AtLeast (-46) (100.0 : Float) :=
    ⟨100 * 2 ^ 46, -46, by decide, rfl, by decide, le_refl _⟩
  exact count.div hundred (by decide) (by decide)

end Binary64

instance : Scalar.Additive Float where
  zero := Binary64.le_of_isZero ⟨.positive, rfl⟩ ⟨.positive, rfl⟩
  none_nonneg := Binary64.le_of_isZero ⟨.positive, rfl⟩ ⟨.negative, rfl⟩
  none_nonpos := Binary64.le_of_isZero ⟨.negative, rfl⟩ ⟨.positive, rfl⟩
  add_nonneg := Binary64.float_add_nonneg
  add_nonpos_iff := Binary64.float_add_nonpos_iff
  beq_iff := Binary64.beq_iff _ _

end Hexfield
