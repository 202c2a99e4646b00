import Mathlib
import Hexfield.Odds

namespace Hexfield

/-!
Chances of damage over the rational numbers.

Read over the rational numbers, where nothing is rounded, the quotients of the binomial coefficient
are exact, every term of a tail is a term of the binomial theorem, and the sum of a tail lies
between zero and one, so that clamping it changes nothing.  One thing is not exact even there: an
exponent is a word of thirty-two bits with a sign, so the powers are right only as long as counts
stay below `2 ^ 31`.
-/

namespace Scalar

/-! ## Scalars -/

theorem rat_one : @OfScientific.ofScientific ℚ Scalar.toOfScientific 10 true 1 = 1 := by
  change (1.0 : ℚ) = 1
  norm_num

theorem rat_zero : @OfScientific.ofScientific ℚ Scalar.toOfScientific 0 true 1 = 0 := by
  change (0.0 : ℚ) = 0
  norm_num

theorem rat_decimal (mantissa exponent : ℕ) {value : ℚ}
    (denotes : value * 10 ^ exponent = mantissa) :
    @OfScientific.ofScientific ℚ Scalar.toOfScientific mantissa true exponent = value := by
  have power : (10 : ℚ) ^ exponent ≠ 0 := pow_ne_zero exponent (by norm_num)
  change Rat.ofScientific mantissa true exponent = value
  rw [Rat.ofScientific_true_def, Rat.mkRat_eq_div, eq_comm, eq_div_iff (by exact_mod_cast power)]
  exact_mod_cast denotes

theorem powerFrom_rat (k : ℕ) :
    ∀ x product : ℚ, powerFrom x k product = product * x ^ k := by
  induction k using Nat.strong_induction_on with
  | _ k ih =>
      intro x product
      have digits := Nat.div_add_mod k 2
      have digit : (if k % 2 = 1 then product * x else product) = product * x ^ (k % 2) := by
        rcases Nat.mod_two_eq_zero_or_one k with even | odd
        · rw [even]
          simp
        · rw [odd]
          simp
      rw [powerFrom]
      by_cases last : k / 2 = 0
      · rw [if_pos last]
        refine digit.trans ?_
        have low : k % 2 = k := by omega
        rw [low]
      · rw [if_neg last, ih (k / 2) (by omega)]
        change (if k % 2 = 1 then product * x else product) * (x * x) ^ (k / 2) = product * x ^ k
        rw [digit]
        nth_rewrite 3 [← digits]
        ring

theorem power_rat (x : ℚ) (k : ℕ) : power x k = x ^ k := by
  rw [power, powerFrom_rat, rat_one, one_mul]

theorem sum_rat (terms : List ℚ) : sum terms = terms.sum := by
  have shifted : ∀ (terms : List ℚ) (start : ℚ),
      terms.foldl (· + ·) start = start + terms.sum := by
    intro terms
    induction terms with
    | nil =>
        intro start
        simp
    | cons term rest ih =>
        intro start
        rw [List.foldl_cons, ih, List.sum_cons]
        ring
  exact (shifted terms 0).trans (zero_add _)

theorem clampUnit_rat {x : ℚ} (nonneg : 0 ≤ x) (le_one : x ≤ 1) : clampUnit x = x := by
  rw [clampUnit, rat_zero, rat_one, if_neg (not_lt.mpr nonneg), if_neg (not_lt.mpr le_one)]

theorem larger_rat (a b : ℚ) : larger a b = max a b := by
  have self : @BEq.beq ℚ Scalar.toBEq a a = true := beq_self_eq_true a
  rw [larger, self]
  by_cases less : a < b
  · rw [if_pos less, max_eq_right (le_of_lt less)]
  · rw [if_neg less, if_pos rfl, max_eq_left (not_lt.mp less)]

theorem smaller_rat (a b : ℚ) : smaller a b = min a b := by
  have self : @BEq.beq ℚ Scalar.toBEq a a = true := beq_self_eq_true a
  rw [smaller, self]
  by_cases less : b < a
  · rw [if_pos less, min_eq_right (le_of_lt less)]
  · rw [if_neg less, if_pos rfl, min_eq_left (not_lt.mp less)]

theorem percent_rat (n : ℕ) : (percent n : ℚ) = n / 100 := by
  rw [percent, rat_decimal 1000 1 (by norm_num : (100 : ℚ) * 10 ^ 1 = (1000 : ℕ))]
  rfl

end Scalar

namespace Odds

/-! ## Binomial terms -/

theorem powerOfCount_rat (x : ℚ) {count : ℕ} (small : 2 * count < UInt32.size) :
    powerOfCount x count = x ^ count := by
  rw [powerOfCount, signed32_of_lt small, Scalar.integerPower]
  rw [if_neg (by omega), Scalar.power_rat]
  rfl

theorem powerOfCount_pos {x : ℚ} (positive : 0 < x) (count : ℕ) : 0 < powerOfCount x count := by
  rw [powerOfCount, Scalar.integerPower]
  by_cases negative : signed32 count < 0
  · rw [if_pos negative, Scalar.power_rat, Scalar.rat_one]
    exact one_div_pos.mpr (pow_pos positive _)
  · rw [if_neg negative, Scalar.power_rat]
    exact pow_pos positive _

/-- A count that is read as its own opposite turns a power into its inverse. -/
theorem powerOfCount_wrapped (x : ℚ) {count : ℕ} (some : 0 < count)
    (wrapped : signed32 count = -(count : ℤ)) : powerOfCount x count = 1 / x ^ count := by
  rw [powerOfCount, wrapped, Scalar.integerPower]
  rw [if_pos (by omega), Scalar.power_rat, Int.natAbs_neg, Int.natAbs_natCast, Scalar.rat_one]

/-- The first count that does not fit in a word with a sign is read as its own opposite. -/
theorem wrapped_count : ∃ count, count = 2 ^ 31 ∧ signed32 count = -(count : ℤ) :=
  ⟨2 ^ 31, rfl, by decide⟩

/-- The quotients of the product are those of Pascal's triangle along a diagonal. -/
theorem foldl_quotients (base steps : ℕ) :
    (List.range' 1 steps).foldl
        (fun product i => product * ((base + i : ℕ) : ℚ) / (i : ℚ)) (1 : ℚ) =
      (base + steps).choose steps := by
  induction steps with
  | zero => simp
  | succ steps ih =>
      have diagonal := Nat.add_one_mul_choose_eq (base + steps) steps
      have nonzero : ((1 + steps : ℕ) : ℚ) ≠ 0 := Nat.cast_ne_zero.mpr (by omega)
      rw [List.range'_concat, List.foldl_append, ih]
      simp only [List.foldl_cons, List.foldl_nil, one_mul]
      rw [div_eq_iff nonzero]
      have numbers : (base + steps).choose steps * (base + (1 + steps)) =
          (base + (steps + 1)).choose (steps + 1) * (1 + steps) := by
        rw [Nat.add_comm 1 steps, Nat.mul_comm]
        exact diagonal
      exact_mod_cast numbers

theorem binomial_rat (n k : ℕ) : (binomial n k : ℚ) = n.choose k := by
  rw [binomial]
  by_cases few : n < k
  · rw [if_pos few, Scalar.rat_zero, Nat.choose_eq_zero_of_lt few, Nat.cast_zero]
  · rw [if_neg few]
    have within : k ≤ n := Nat.le_of_not_lt few
    have shorter : min k (n - k) ≤ n := by omega
    have product := foldl_quotients (n - min k (n - k)) (min k (n - k))
    rw [Nat.sub_add_cancel shorter] at product
    have symmetric : n.choose (min k (n - k)) = n.choose k := by
      rcases Nat.le_total k (n - k) with low | high
      · rw [Nat.min_eq_left low]
      · rw [Nat.min_eq_right high]
        exact Nat.choose_symm within
    rw [symmetric] at product
    rw [← product, Scalar.rat_one]
    rfl

/-- The chance of exactly this many hits. -/
def term (chance : ℚ) (strikes hits : ℕ) : ℚ :=
  strikes.choose hits * chance ^ hits * (1 - chance) ^ (strikes - hits)

theorem term_eq_zero (chance : ℚ) {strikes hits : ℕ} (many : strikes < hits) :
    term chance strikes hits = 0 := by
  rw [term, Nat.choose_eq_zero_of_lt many, Nat.cast_zero, zero_mul, zero_mul]

theorem term_nonneg {chance : ℚ} (nonneg : 0 ≤ chance) (le_one : chance ≤ 1)
    (strikes hits : ℕ) : 0 ≤ term chance strikes hits := by
  have miss : 0 ≤ 1 - chance := sub_nonneg.mpr le_one
  rw [term]
  positivity

theorem sum_term (chance : ℚ) (strikes : ℕ) :
    ∑ hits ∈ Finset.range (strikes + 1), term chance strikes hits = 1 := by
  have whole := add_pow chance (1 - chance) strikes
  rw [add_sub_cancel, one_pow] at whole
  rw [whole]
  apply Finset.sum_congr rfl
  intro hits _
  rw [term]
  ring

/-- A term of a tail as it is computed: its exponents are read as words with a sign. -/
def computedTerm (chance : ℚ) (strikes hits : ℕ) : ℚ :=
  strikes.choose hits * powerOfCount chance hits * powerOfCount (1 - chance) (strikes - hits)

theorem computedTerm_eq_term (chance : ℚ) {strikes hits : ℕ} (hitsSmall : 2 * hits < UInt32.size)
    (missesSmall : 2 * (strikes - hits) < UInt32.size) :
    computedTerm chance strikes hits = term chance strikes hits := by
  rw [computedTerm, powerOfCount_rat _ hitsSmall, powerOfCount_rat _ missesSmall]
  rfl

/-- The tail is the sum of its terms, each of which is found from the one before. -/
theorem tailFrom_eq_sum (chance : ℚ) (strikes terms : ℕ) :
    ∀ (hits : ℕ) (total : ℚ), hits + terms ≤ strikes + 1 →
      tailFrom chance (1 - chance) strikes terms hits (strikes.choose hits) total =
        total + ∑ i ∈ Finset.range terms, computedTerm chance strikes (hits + i) := by
  induction terms with
  | zero =>
      intro hits total _
      rw [tailFrom, Finset.range_zero, Finset.sum_empty, add_zero]
  | succ terms ih =>
      intro hits total fits
      have next : (strikes.choose hits : ℚ) * Scalar.ofNat (strikes - hits) /
          Scalar.ofNat (hits + 1) = strikes.choose (hits + 1) := by
        change (strikes.choose hits : ℚ) * ((strikes - hits : ℕ) : ℚ) / ((hits + 1 : ℕ) : ℚ) = _
        rw [div_eq_iff (Nat.cast_ne_zero.mpr (Nat.succ_ne_zero hits))]
        exact_mod_cast (Nat.choose_succ_right_eq strikes hits).symm
      have first : (strikes.choose hits : ℚ) * powerOfCount chance hits *
          powerOfCount (1 - chance) (strikes - hits) = computedTerm chance strikes hits := rfl
      rw [tailFrom]
      simp only [next, first]
      rw [ih (hits + 1) _ (by omega), Finset.sum_range_succ']
      have later : ∀ i, computedTerm chance strikes (hits + 1 + i) =
          computedTerm chance strikes (hits + (i + 1)) := by
        intro i
        rw [Nat.add_assoc, Nat.add_comm 1 i]
      simp only [later, Nat.add_zero]
      ring

/-- For so few strikes that every count of them fits in a word with a sign, a tail is a sum of terms
of the binomial theorem. -/
theorem tailFrom_rat (chance : ℚ) {strikes : ℕ} (small : 2 * strikes < UInt32.size)
    (terms hits : ℕ) (total : ℚ) (fits : hits + terms ≤ strikes + 1) :
    tailFrom chance (1 - chance) strikes terms hits (strikes.choose hits) total =
      total + ∑ i ∈ Finset.range terms, term chance strikes (hits + i) := by
  rw [tailFrom_eq_sum chance strikes terms hits total fits]
  refine congrArg (total + ·) (Finset.sum_congr rfl ?_)
  intro i listed
  rw [Finset.mem_range] at listed
  exact computedTerm_eq_term chance (by omega) (by omega)

/-- The chance of fewer hits than a number, however large. -/
theorem sum_term_of_lt (chance : ℚ) {strikes bound : ℕ} (large : strikes < bound) :
    ∑ hits ∈ Finset.range bound, term chance strikes hits = 1 := by
  rw [← sum_term chance strikes]
  symm
  apply Finset.sum_subset
  · intro hits listed
    rw [Finset.mem_range] at listed ⊢
    omega
  · intro hits _ unlisted
    apply term_eq_zero
    rw [Finset.mem_range] at unlisted
    omega

theorem sum_term_nonneg {chance : ℚ} (nonneg : 0 ≤ chance) (le_one : chance ≤ 1)
    (strikes : ℕ) (hits : ℕ → ℕ) (terms : ℕ) :
    0 ≤ ∑ i ∈ Finset.range terms, term chance strikes (hits i) :=
  Finset.sum_nonneg fun i _ => term_nonneg nonneg le_one strikes (hits i)

/-- The chance of at least a number of hits is what the chance of fewer leaves of certainty. -/
theorem sum_tail (chance : ℚ) {strikes needed : ℕ} (enough : needed ≤ strikes) :
    ∑ i ∈ Finset.range (strikes - needed + 1), term chance strikes (needed + i) =
      1 - ∑ hits ∈ Finset.range needed, term chance strikes hits := by
  have parts := Finset.sum_range_add (term chance strikes) needed (strikes - needed + 1)
  have count : needed + (strikes - needed + 1) = strikes + 1 := by omega
  rw [count, sum_term] at parts
  rw [parts]
  ring

theorem atLeast_rat {chance : ℚ} (nonneg : 0 ≤ chance) (le_one : chance ≤ 1) {strikes : ℕ}
    (small : 2 * strikes < UInt32.size) {least damage : ℕ} (some : 0 < least)
    (harmful : 0 < damage) :
    atLeast (least : ℤ) chance strikes damage =
      1 - ∑ hits ∈ Finset.range (hitsNeeded least damage), term chance strikes hits := by
  have positive : ¬ (least : ℤ) ≤ 0 := by omega
  rw [atLeast, if_neg positive, if_neg (Nat.ne_of_gt harmful), Int.toNat_natCast]
  simp only
  by_cases few : strikes < hitsNeeded least damage
  · rw [if_pos few, sum_term_of_lt chance few, Scalar.rat_zero, sub_self]
  · have enough := Nat.le_of_not_lt few
    have tail := tailFrom_rat chance small (strikes - hitsNeeded least damage + 1)
      (hitsNeeded least damage) 0 (by omega)
    have above : 0 ≤ ∑ i ∈ Finset.range (strikes - hitsNeeded least damage + 1),
        term chance strikes (hitsNeeded least damage + i) :=
      sum_term_nonneg nonneg le_one strikes _ _
    have below := sum_term_nonneg nonneg le_one strikes (fun hits => hits)
      (hitsNeeded least damage)
    rw [zero_add] at tail
    rw [if_neg few, binomial_rat, Scalar.rat_one, Scalar.rat_zero]
    refine (congrArg Scalar.clampUnit tail).trans ?_
    rw [Scalar.clampUnit_rat above]
    · exact sum_tail chance enough
    · rw [sum_tail chance enough]
      linarith

end Odds
end Hexfield
