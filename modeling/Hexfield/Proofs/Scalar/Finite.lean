import Hexfield.Proofs.Scalar.Magnitude

namespace Hexfield
namespace Binary64

/-!
Binary64 numbers that are finite.

A value is stored as an infinity only if it is at least halfway from the largest finite number to
the next power of two.  The difference of one and a finite number stays below that, so it is finite
again.  Products of finite numbers, and what is left when a number is taken from a finite one, may
overflow, but they are numbers all the same.
-/

open Float.Model (Format UnpackedFloat totalExponent)
open Float.Model.UnpackedFloat

/-! ## Numbers and finite numbers -/

theorem number_iff (x : Float) : x ≤ x ↔ x.toModel.unpack ≠ .notANumber := by
  rw [le_iff]
  generalize x.toModel.unpack = value
  constructor
  · rintro ⟨_, _, ranked, -, -⟩ rfl
    cases ranked
  · intro number
    rcases value with (_ | _) | _ | sign | ⟨_ | _, mantissa, exponent, positive⟩
    case notANumber => exact absurd rfl number
    all_goals exact ⟨_, _, rfl, rfl, by simp [Std.ReflCmp.compare_self]⟩

theorem isFinite_iff (x : Float) : x.isFinite = true ↔
    IsZero x.toModel.unpack ∨ ∃ sign mantissa exponent positive,
      x.toModel.unpack = .finite sign mantissa exponent positive := by
  change x.toModel.unpack.isFinite = true ↔ _
  generalize x.toModel.unpack = value
  constructor
  · intro finite
    rcases value with sign | _ | sign | ⟨sign, mantissa, exponent, positive⟩
    · cases finite
    · cases finite
    · exact Or.inl ⟨sign, rfl⟩
    · exact Or.inr ⟨sign, mantissa, exponent, positive, rfl⟩
  · rintro (⟨sign, rfl⟩ | ⟨sign, mantissa, exponent, positive, rfl⟩) <;> rfl

theorem number_of_isFinite {x : Float} (finite : x.isFinite = true) : x ≤ x := by
  rw [number_iff]
  rcases (isFinite_iff x).mp finite with ⟨sign, zero⟩ | ⟨_, _, _, _, unpacked⟩
  · rw [zero]
    exact nofun
  · rw [unpacked]
    exact nofun

theorem AtMost.isFinite {limit : Int} {x : Float} (bounded : AtMost limit x) :
    x.isFinite = true := by
  rcases bounded with zero | ⟨mantissa, exponent, positive, unpacked, -⟩
  · exact (isFinite_iff x).mpr (Or.inl zero)
  · exact (isFinite_iff x).mpr (Or.inr ⟨_, mantissa, exponent, positive, unpacked⟩)

/-- The last digit of a finite number is at a place of the format. -/
theorem exponent_le_of_finite {x : Float} {sign : Sign} {mantissa : Nat} {exponent : Int}
    {positive : 0 < mantissa}
    (unpacked : x.toModel.unpack = .finite sign mantissa exponent positive) : exponent ≤ 971 := by
  change unpack Format.binary64 x.toModel.toBits.toBitVec = _ at unpacked
  generalize x.toModel.toBits.toBitVec = bits at unpacked
  simp only [unpack] at unpacked
  split at unpacked
  · split at unpacked <;> cases unpacked
  · rename_i inside
    split at unpacked
    · rename_i subnormal
      split at unpacked
      · cases unpacked
      · cases unpacked
        rw [subnormal]
        decide
    · cases unpacked
      have short : (@unpackExponent Format.binary64 bits).toNat < 2048 :=
        (@unpackExponent Format.binary64 bits).isLt
      have other : (@unpackExponent Format.binary64 bits).toNat ≠ 2047 := fun full =>
        inside (BitVec.eq_of_toNat_eq full)
      change ((@unpackExponent Format.binary64 bits).toNat : Int) - 1075 ≤ 971
      omega

/-! ## Below the threshold of overflow -/

/-- A mantissa is raised only if what was cut off is half of its last place or more. -/
theorem roundedMantissa_shiftRight_le (extended : ExtendedMantissa) (places : Nat) :
    (extended >>> (places + 1)).roundedMantissa ≤ (extended.mantissa / 2 ^ places + 1) / 2 := by
  have shifted : extended >>> (places + 1) = (extended >>> places).shiftRightOne := rfl
  rw [shifted, ← mantissa_shiftRight]
  generalize extended >>> places = before
  rcases before with ⟨mantissa, roundBit, stickyBit⟩
  rcases Nat.mod_two_eq_zero_or_one mantissa with even | odd
  · have exactly : (ExtendedMantissa.mk mantissa roundBit stickyBit).shiftRightOne =
        ⟨mantissa / 2, false, roundBit || stickyBit⟩ := by
      simp [ExtendedMantissa.shiftRightOne, even]
    rw [exactly]
    have kept : (ExtendedMantissa.mk (mantissa / 2) false (roundBit || stickyBit)).roundedMantissa =
        mantissa / 2 := by
      cases roundBit || stickyBit <;> rfl
    rw [kept]
    exact Nat.div_le_div_right (Nat.le_succ mantissa)
  · have bounds := (roundedMantissa_bounds
      (ExtendedMantissa.mk mantissa roundBit stickyBit).shiftRightOne).2
    change _ ≤ mantissa / 2 + 1 at bounds
    change _ ≤ (mantissa + 1) / 2
    omega

/-- A value whose mantissa is not raised to a further digit stays at the place where it was cut. -/
theorem roundWithAccuracy_of_short (sign : Sign) {mantissa : Nat} {exponent : Int}
    {accuracy : Accuracy} (short : (shiftToTargetExponent Format.binary64 mantissa exponent
      accuracy).1.roundedMantissa < 2 ^ 53) :
    roundWithAccuracy Format.binary64 sign mantissa exponent accuracy = .zero sign ∨
      ∃ (rounded : Nat) (place : Int) (positive : 0 < rounded), rounded < 2 ^ 53 ∧
        place = cutExponent mantissa exponent ∧
        roundWithAccuracy Format.binary64 sign mantissa exponent accuracy =
          .finite sign rounded place positive := by
  have low := lowest_le_cutExponent mantissa exponent
  simp only [roundWithAccuracy]
  rw [(shiftToTargetExponent_eq mantissa exponent accuracy).2]
  generalize (shiftToTargetExponent Format.binary64 mantissa exponent accuracy).1.roundedMantissa =
    rounded at short ⊢
  rcases shiftToTargetExponent_eq rounded (cutExponent mantissa exponent) .exact with ⟨cut, place⟩
  have digits : rounded.log2 ≤ 52 := by
    by_cases zero : rounded = 0
    · simp [zero]
    · exact Nat.le_of_lt_succ ((Nat.log2_lt zero).mpr short)
  have stays : cutExponent rounded (cutExponent mantissa exponent) =
      cutExponent mantissa exponent := by
    rw [cutExponent, totalExponent]
    omega
  by_cases vanishes : cutMantissa rounded (cutExponent mantissa exponent) = 0
  · exact Or.inl (dif_pos (cut.trans vanishes))
  · refine Or.inr ⟨_, _, Nat.pos_of_ne_zero fun zero => vanishes (cut.symm.trans zero), ?_,
      place.trans stays, dif_neg fun zero => vanishes (cut.symm.trans zero)⟩
    rw [cut]
    exact cutMantissa_lt _ _

/-- A value that is less than halfway from the largest finite number to the next power of two is
stored as a finite number. -/
theorem isFinite_stored (sign : Sign) {mantissa : Nat} {exponent : Int} (low : exponent ≤ 970)
    (below : mantissa < (2 ^ 54 - 1) * 2 ^ (970 - exponent).toNat) :
    (stored sign mantissa exponent .exact).isFinite = true := by
  have finish : ∀ value : UnpackedFloat, (value = .zero sign ∨
      ∃ mantissa' exponent' positive', value = .finite sign mantissa' exponent' positive') →
        value.isFinite = true := by
    rintro value (rfl | ⟨_, _, _, rfl⟩) <;> rfl
  rcases stored_cases sign mantissa exponent .exact with
    ⟨-, zero⟩ | ⟨large, -⟩ | ⟨mantissa', exponent', positive', -, -, finite⟩
  · exact finish _ (Or.inl zero)
  · -- Then the value is cut at the last place of the format, and is not raised there.
    obtain ⟨places, spread⟩ : ∃ places : Nat, (970 - exponent).toNat = places := ⟨_, rfl⟩
    rw [spread] at below
    have digits : mantissa.log2 < 54 + places := by
      by_cases zero : mantissa = 0
      · simp [zero]
      · refine (Nat.log2_lt zero).mpr (below.trans_le ?_)
        rw [Nat.pow_add]
        exact Nat.mul_le_mul_right _ (by decide)
    have last : cutExponent mantissa exponent = 971 := by
      rw [cutExponent, totalExponent] at large ⊢
      omega
    have shift : (shiftToTargetExponent Format.binary64 mantissa exponent .exact).1 =
        ExtendedMantissa.ofMantissaAndAccuracy mantissa .exact >>> (places + 1) := by
      have amount : (max (totalExponent mantissa exponent - 53) (-1074) - exponent).toNat =
          places + 1 := by
        rw [cutExponent] at last
        omega
      simp only [shiftToTargetExponent, shiftToExponent, targetExponent_eq, amount]
    have short : (shiftToTargetExponent Format.binary64 mantissa exponent
        .exact).1.roundedMantissa < 2 ^ 53 := by
      have half : mantissa / 2 ^ places < 2 ^ 54 - 1 :=
        (Nat.div_lt_iff_lt_mul (Nat.two_pow_pos _)).mpr below
      rw [shift]
      refine lt_of_le_of_lt (roundedMantissa_shiftRight_le _ places) ?_
      rw [mantissa_ofMantissaAndAccuracy]
      omega
    rw [stored]
    rcases roundWithAccuracy_of_short sign short with
      rounded | ⟨whole, place, positive, digits, kept, rounded⟩
    · rw [rounded]
      exact finish _ (Or.inl (unpack_packedZero sign))
    · rw [rounded]
      rcases unpack_pack_finite sign positive digits (by omega : -1074 ≤ place) with
        ⟨tooLarge, -⟩ | ⟨mantissa', exponent', positive', -, -, finite⟩
      · omega
      · exact finish _ (Or.inr ⟨mantissa', exponent', positive', finite⟩)
  · exact finish _ (Or.inr ⟨mantissa', exponent', positive', finite⟩)

theorem isFinite_round (sign : Sign) {mantissa : Nat} {exponent : Int} (low : exponent ≤ 970)
    (below : mantissa < (2 ^ 54 - 1) * 2 ^ (970 - exponent).toNat) :
    (unpack Format.binary64
      (pack Format.binary64 (round Format.binary64 sign mantissa exponent))).isFinite = true := by
  -- Digits are appended first, as many as the exponent is lowered by.
  change (stored sign (mantissa <<< _) (exponent - _) .exact).isFinite = true
  generalize (exponent - Format.binary64.targetExponent (totalExponent mantissa exponent)).toNat =
    places
  have spread : (970 - (exponent - places)).toNat = (970 - exponent).toNat + places := by omega
  refine isFinite_stored sign (by omega) ?_
  rw [Nat.shiftLeft_eq, spread, Nat.pow_add, ← Nat.mul_assoc]
  exact Nat.mul_lt_mul_of_pos_right below (Nat.two_pow_pos places)

theorem isFinite_normalize {mantissa exponent : Int} (low : exponent ≤ 970)
    (below : mantissa.natAbs < (2 ^ 54 - 1) * 2 ^ (970 - exponent).toNat) (sign : Sign) :
    (unpack Format.binary64 (pack Format.binary64
      (UnpackedFloat.normalize Format.binary64 mantissa exponent sign))).isFinite = true := by
  unfold UnpackedFloat.normalize
  split
  · refine isFinite_round .negative low (lt_of_le_of_lt ?_ below)
    omega
  · change (unpack Format.binary64 (packedZero Format.binary64 sign)).isFinite = true
    rw [unpack_packedZero]
    rfl
  · refine isFinite_round .positive low (lt_of_le_of_lt ?_ below)
    omega

/-! ## Operations on finite numbers -/

theorem unpack_one : (1.0 : Float).toModel.unpack =
    .finite .positive (2 ^ 52) (-52) (Nat.two_pow_pos 52) := rfl

/-- Nothing is lost to overflow when a finite number is taken from one. -/
theorem isFinite_one_sub {x : Float} (finite : x.isFinite = true) :
    (1.0 - x : Float).isFinite = true := by
  change (unpack Format.binary64 (pack Format.binary64 (UnpackedFloat.sub Format.binary64
    (1.0 : Float).toModel.unpack x.toModel.unpack))).isFinite = true
  rw [unpack_one]
  rcases (isFinite_iff x).mp finite with
    ⟨sign, zero⟩ | ⟨sign, mantissa, exponent, positive, unpacked⟩
  · rw [zero]
    change (unpack Format.binary64 (pack Format.binary64
      (.finite .positive (2 ^ 52) (-52) (Nat.two_pow_pos 52)))).isFinite = true
    rcases unpack_pack_finite .positive (Nat.two_pow_pos 52) (by decide)
      (by decide : -1074 ≤ (-52 : Int)) with ⟨tooLarge, -⟩ | ⟨_, _, _, -, -, unpacked⟩
    · cases tooLarge
    · rw [unpacked]
      rfl
  · have short := (fits_finite unpacked).1
    have high := exponent_le_of_finite unpacked
    rw [unpacked]
    refine isFinite_normalize (by omega) ?_ .positive
    -- Both mantissas are brought to one place, where the larger one still has room to spare.
    obtain ⟨depth, place⟩ : ∃ depth : Nat, min (-52) exponent = -(depth : Int) :=
      ⟨(-min (-52) exponent).toNat, by omega⟩
    have spread : (970 - min (-52) exponent).toNat = 970 + depth := by omega
    have ones : 2 ^ 52 <<< (-52 - min (-52) exponent).toNat = 2 ^ depth := by
      rw [Nat.shiftLeft_eq, ← Nat.pow_add]
      congr 1
      omega
    have aligned : mantissa <<< (exponent - min (-52) exponent).toNat ≤
        (2 ^ 53 - 1) * (2 * 2 ^ (970 + depth)) := by
      rw [Nat.shiftLeft_eq, ← Nat.pow_succ']
      exact Nat.mul_le_mul (by omega) (Nat.pow_le_pow_right (by decide) (by omega))
    have room : 2 ^ depth < 2 ^ (970 + depth) := Nat.pow_lt_pow_right (by decide) (by omega)
    have size (sign : Sign) (count : Nat) : (sign.apply count).natAbs = count := by
      cases sign with
      | negative => exact (Int.natAbs_neg _).trans (Int.natAbs_natCast count)
      | positive => exact Int.natAbs_natCast count
    refine lt_of_le_of_lt (Int.natAbs_sub_le _ _) ?_
    rw [size, size, spread]
    change 2 ^ 52 <<< (-52 - min (-52) exponent).toNat +
      mantissa <<< (exponent - min (-52) exponent).toNat < _
    rw [ones]
    omega

/-! ## Operations that lead to numbers -/

theorem repack_ne_notANumber (value : UnpackedFloat) (fits : Fits value)
    (number : value ≠ .notANumber) :
    unpack Format.binary64 (pack Format.binary64 value) ≠ .notANumber := by
  cases value with
  | notANumber => exact absurd rfl number
  | infinity sign =>
      change unpack Format.binary64 (packedInfinity Format.binary64 sign) ≠ _
      rw [unpack_packedInfinity]
      exact nofun
  | zero sign =>
      change unpack Format.binary64 (packedZero Format.binary64 sign) ≠ _
      rw [unpack_packedZero]
      exact nofun
  | finite sign mantissa exponent positive =>
      rcases unpack_pack_finite sign positive fits.1 fits.2 with
        ⟨-, unpacked⟩ | ⟨_, _, _, -, -, unpacked⟩ <;>
      · rw [unpacked]
        exact nofun

theorem fits_roundWithAccuracy (sign : Sign) (mantissa : Nat) (exponent : Int)
    (accuracy : Accuracy) :
    Fits (roundWithAccuracy Format.binary64 sign mantissa exponent accuracy) ∧
      roundWithAccuracy Format.binary64 sign mantissa exponent accuracy ≠ .notANumber := by
  rcases roundWithAccuracy_cases sign mantissa exponent accuracy with
    ⟨-, rounded⟩ | ⟨_, _, _, short, -, low, -, rounded⟩
  · rw [rounded]
    exact ⟨trivial, nofun⟩
  · rw [rounded]
    exact ⟨⟨short, (lowest_le_cutExponent _ _).trans low⟩, nofun⟩

theorem fits_normalize (mantissa exponent : Int) (sign : Sign) :
    Fits (UnpackedFloat.normalize Format.binary64 mantissa exponent sign) ∧
      UnpackedFloat.normalize Format.binary64 mantissa exponent sign ≠ .notANumber := by
  unfold UnpackedFloat.normalize
  split
  · exact fits_roundWithAccuracy ..
  · exact ⟨trivial, nofun⟩
  · exact fits_roundWithAccuracy ..

/-- A product of finite numbers may overflow, but it is a number. -/
theorem number_mul {x y : Float} (finite : x.isFinite = true) (finite' : y.isFinite = true) :
    x * y ≤ x * y := by
  rw [number_iff]
  change unpack Format.binary64 (pack Format.binary64
    (UnpackedFloat.mul Format.binary64 x.toModel.unpack y.toModel.unpack)) ≠ .notANumber
  rcases (isFinite_iff x).mp finite with ⟨sign, zero⟩ | ⟨sign, mantissa, exponent, _, unpacked⟩
  · rw [zero]
    rcases (isFinite_iff y).mp finite' with ⟨sign', zero'⟩ | ⟨sign', _, _, _, unpacked'⟩
    · rw [zero']
      exact repack_ne_notANumber (.zero (sign * sign')) trivial nofun
    · rw [unpacked']
      exact repack_ne_notANumber (.zero (sign * sign')) trivial nofun
  · rw [unpacked]
    rcases (isFinite_iff y).mp finite' with
      ⟨sign', zero'⟩ | ⟨sign', mantissa', exponent', _, unpacked'⟩
    · rw [zero']
      exact repack_ne_notANumber (.zero (sign * sign')) trivial nofun
    · rw [unpacked']
      have rounded := fits_roundWithAccuracy (sign * sign') (mantissa * mantissa')
        (exponent + exponent') .exact
      exact repack_ne_notANumber _ rounded.1 rounded.2

/-- What is left of a finite number is a number, whatever number is taken from it. -/
theorem number_sub {x y : Float} (finite : x.isFinite = true) (number : y ≤ y) :
    x - y ≤ x - y := by
  have fits := fits_unpack x
  have fits' := fits_unpack y
  rw [number_iff] at number ⊢
  change unpack Format.binary64 (pack Format.binary64
    (UnpackedFloat.sub Format.binary64 x.toModel.unpack y.toModel.unpack)) ≠ .notANumber
  generalize y.toModel.unpack = taken at number fits' ⊢
  rcases (isFinite_iff x).mp finite with ⟨sign, zero⟩ | ⟨sign, mantissa, exponent, _, unpacked⟩
  · rw [zero]
    cases taken with
    | notANumber => exact absurd rfl number
    | infinity sign' => exact repack_ne_notANumber (.infinity (-sign')) trivial nofun
    | zero sign' =>
        cases sign <;> cases sign' <;> exact repack_ne_notANumber _ trivial nofun
    | finite sign' mantissa' exponent' positive' =>
        exact repack_ne_notANumber (.finite (-sign') ..) fits' nofun
  · rw [unpacked] at fits ⊢
    cases taken with
    | notANumber => exact absurd rfl number
    | infinity sign' => exact repack_ne_notANumber (.infinity (-sign')) trivial nofun
    | zero sign' => exact repack_ne_notANumber _ fits nofun
    | finite sign' mantissa' exponent' positive' =>
        exact repack_ne_notANumber _ (fits_normalize ..).1 (fits_normalize ..).2

end Binary64
end Hexfield
