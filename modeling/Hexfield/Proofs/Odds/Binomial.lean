import Hexfield.Proofs.Odds.Tail

namespace Hexfield

/-!
Chances of damage as sums of binomial terms.

The chance that strikes do damage of some extent is the sum of the binomial terms of those numbers
of hits whose damage has this extent.  The closed formulas find it from the least number of hits
that is enough, and the tail that they add up needs no clamping.  All of this holds as long as each
count of strikes fits in a word with a sign, and fails from the first one that does not.
-/

namespace Odds

/-! ## Damage and hits -/

theorem hitsNeeded_le_iff {damage : ℕ} (harmful : 0 < damage) (total hits : ℕ) :
    hitsNeeded total damage ≤ hits ↔ total ≤ hits * damage := by
  rw [hitsNeeded, ← Nat.lt_succ_iff, Nat.div_lt_iff_lt_mul harmful, Nat.succ_mul]
  omega

/-- The numbers of hits that do some damage are those that are not too few for it. -/
theorem sum_damage_eq {chance : ℚ} (strikes : ℕ) {least damage : ℕ} (harmful : 0 < damage) :
    ∑ hits ∈ Finset.range (strikes + 1) with (least : ℤ) ≤ (hits * damage : ℕ),
        term chance strikes hits =
      1 - ∑ hits ∈ Finset.range (hitsNeeded least damage), term chance strikes hits := by
  have enough : ∀ hits : ℕ, (least : ℤ) ≤ (hits * damage : ℕ) ↔ hitsNeeded least damage ≤ hits := by
    intro hits
    rw [Nat.cast_le, hitsNeeded_le_iff harmful]
  have tooFew : ∑ hits ∈ Finset.range (strikes + 1) with ¬ (least : ℤ) ≤ (hits * damage : ℕ),
      term chance strikes hits =
        ∑ hits ∈ Finset.range (hitsNeeded least damage), term chance strikes hits := by
    apply Finset.sum_subset
    · intro hits listed
      rw [Finset.mem_filter, enough] at listed
      exact Finset.mem_range.mpr (Nat.lt_of_not_le listed.2)
    · intro hits few unlisted
      rw [Finset.mem_range] at few
      rw [Finset.mem_filter, enough, Finset.mem_range] at unlisted
      exact term_eq_zero chance (by omega)
  have parts := Finset.sum_filter_add_sum_filter_not (Finset.range (strikes + 1))
    (fun hits : ℕ => (least : ℤ) ≤ (hits * damage : ℕ)) (term chance strikes)
  rw [sum_term, tooFew] at parts
  linarith

/-! ## Exact formulas -/

section Small

variable {chance : ℚ} {strikes : ℕ}

theorem atLeast_eq_sum (nonneg : 0 ≤ chance) (le_one : chance ≤ 1)
    (small : 2 * strikes < UInt32.size) (least : ℤ) (damage : ℕ) :
    atLeast least chance strikes damage =
      ∑ hits ∈ Finset.range (strikes + 1) with least ≤ (hits * damage : ℕ),
        term chance strikes hits := by
  by_cases certain : least ≤ 0
  · have all : ∀ hits ∈ Finset.range (strikes + 1), least ≤ (hits * damage : ℕ) := by
      intro hits _
      omega
    rw [atLeast, if_pos certain, Scalar.rat_one, Finset.filter_true_of_mem all, sum_term]
  · rcases Int.eq_ofNat_of_zero_le (by omega : 0 ≤ least) with ⟨total, rfl⟩
    by_cases harmless : damage = 0
    · have none : ∀ hits ∈ Finset.range (strikes + 1), ¬ (total : ℤ) ≤ (hits * damage : ℕ) := by
        intro hits _
        rw [harmless, Nat.mul_zero]
        exact certain
      rw [atLeast, if_neg certain, if_pos harmless, Scalar.rat_zero,
        Finset.filter_false_of_mem none, Finset.sum_empty]
    · have harmful := Nat.pos_of_ne_zero harmless
      rw [atLeast_rat nonneg le_one small (by omega) harmful, sum_damage_eq strikes harmful]

theorem between_eq_sum (nonneg : 0 ≤ chance) (le_one : chance ≤ 1)
    (small : 2 * strikes < UInt32.size) {least bound : ℤ} (ordered : least ≤ bound) (damage : ℕ) :
    between least bound chance strikes damage =
      ∑ hits ∈ Finset.range (strikes + 1) with
          least ≤ (hits * damage : ℕ) ∧ ((hits * damage : ℕ) : ℤ) < bound,
        term chance strikes hits := by
  have beyond :
      ((Finset.range (strikes + 1)).filter fun hits : ℕ => least ≤ (hits * damage : ℕ)).filter
        (fun hits => ¬ ((hits * damage : ℕ) : ℤ) < bound) =
        (Finset.range (strikes + 1)).filter fun hits : ℕ => bound ≤ (hits * damage : ℕ) := by
    rw [Finset.filter_filter]
    apply Finset.filter_congr
    intro hits _
    omega
  have parts := Finset.sum_filter_add_sum_filter_not
    ((Finset.range (strikes + 1)).filter fun hits : ℕ => least ≤ (hits * damage : ℕ))
    (fun hits => ((hits * damage : ℕ) : ℤ) < bound) (term chance strikes)
  rw [beyond, Finset.filter_filter] at parts
  have within : 0 ≤ ∑ hits ∈ Finset.range (strikes + 1) with
      least ≤ (hits * damage : ℕ) ∧ ((hits * damage : ℕ) : ℤ) < bound, term chance strikes hits :=
    Finset.sum_nonneg fun hits _ => term_nonneg nonneg le_one strikes hits
  rw [between, atLeast_eq_sum nonneg le_one small, atLeast_eq_sum nonneg le_one small,
    Scalar.rat_zero, Scalar.larger_rat]
  rw [← parts, add_sub_cancel_right]
  exact max_eq_left within

end Small

/-- The sum of the tail before it is clamped. -/
def unclamped (chance : ℚ) (strikes needed : ℕ) : ℚ :=
  tailFrom chance (1.0 - chance) strikes (strikes - needed + 1) needed (binomial strikes needed) 0.0

theorem unclamped_eq_sum (chance : ℚ) {strikes needed : ℕ} (enough : needed ≤ strikes) :
    unclamped chance strikes needed =
      ∑ i ∈ Finset.range (strikes - needed + 1), computedTerm chance strikes (needed + i) := by
  rw [unclamped, binomial_rat, Scalar.rat_one, Scalar.rat_zero]
  exact (tailFrom_eq_sum chance strikes _ needed 0 (by omega)).trans (zero_add _)

/-- The tail of few strikes is a chance. -/
theorem clampUnit_unclamped {chance : ℚ} (nonneg : 0 ≤ chance) (le_one : chance ≤ 1)
    {strikes needed : ℕ} (small : 2 * strikes < UInt32.size) (enough : needed ≤ strikes) :
    Scalar.clampUnit (unclamped chance strikes needed) = unclamped chance strikes needed := by
  have exact : unclamped chance strikes needed =
      ∑ i ∈ Finset.range (strikes - needed + 1), term chance strikes (needed + i) := by
    rw [unclamped_eq_sum chance enough]
    apply Finset.sum_congr rfl
    intro i listed
    rw [Finset.mem_range] at listed
    exact computedTerm_eq_term chance (by omega) (by omega)
  rw [exact]
  apply Scalar.clampUnit_rat
  · exact sum_term_nonneg nonneg le_one strikes _ _
  · have fewer := sum_term_nonneg nonneg le_one strikes (fun hits => hits) needed
    rw [sum_tail chance enough]
    linarith

/-! ## Counts beyond a word with a sign -/

/-- The closed formulas for a number of strikes are exact: whatever damage a word with a sign asks
for, the chance of it is the sum of the terms of the hits that do it, the tail is not changed when
it is clamped, and the chance of a damage within bounds is the sum of the terms between them. -/
structure ExactFor (strikes : ℕ) : Prop where
  atLeast : ∀ {chance : ℚ} (least : ℤ) (damage : ℕ), 0 ≤ chance → chance ≤ 1 →
    -2 ^ 31 ≤ least → least < 2 ^ 31 →
    Odds.atLeast least chance strikes damage =
      ∑ hits ∈ Finset.range (strikes + 1) with least ≤ (hits * damage : ℕ),
        term chance strikes hits
  clamp : ∀ {chance : ℚ} {needed : ℕ}, 0 ≤ chance → chance ≤ 1 → 0 < needed → needed ≤ strikes →
    Scalar.clampUnit (unclamped chance strikes needed) = unclamped chance strikes needed
  between : ∀ {chance : ℚ} (least bound : ℤ) (damage : ℕ), 0 ≤ chance → chance ≤ 1 →
    -2 ^ 31 ≤ least → least ≤ bound → bound < 2 ^ 31 →
    Odds.between least bound chance strikes damage =
      ∑ hits ∈ Finset.range (strikes + 1) with
          least ≤ (hits * damage : ℕ) ∧ ((hits * damage : ℕ) : ℤ) < bound,
        term chance strikes hits

theorem exactFor_of_lt {strikes : ℕ} (few : strikes < 2 ^ 31) : ExactFor strikes := by
  have small : 2 * strikes < UInt32.size := by
    simp only [UInt32.size]
    omega
  constructor
  · intro chance least damage nonneg le_one _ _
    exact atLeast_eq_sum nonneg le_one small least damage
  · intro chance needed nonneg le_one _ enough
    exact clampUnit_unclamped nonneg le_one small enough
  · intro chance least bound damage nonneg le_one _ ordered _
    exact between_eq_sum nonneg le_one small ordered damage

/-- The term of the first count that is read as its opposite is larger than any chance: the power of
its hits is the inverse of what it should be, and the power of its misses is not small enough to
make up for it. -/
theorem two_le_computedTerm {strikes count : ℕ} (word : strikes < UInt32.size)
    (limit : count = 2 ^ 31) (wrapped : signed32 count = -(count : ℤ)) (many : count ≤ strikes) :
    2 ≤ computedTerm (1 / 2) strikes count := by
  have misses : strikes - count + 1 ≤ count := by
    rw [limit] at many ⊢
    simp only [UInt32.size] at word
    omega
  have missesSmall : 2 * (strikes - count) < UInt32.size := by
    simp only [UInt32.size] at word ⊢
    omega
  have positive : 0 < count := by omega
  have ways : (1 : ℚ) ≤ strikes.choose count := by
    exact_mod_cast Nat.choose_pos many
  have even : (1 : ℚ) - 1 / 2 = 1 / 2 := by norm_num
  have balance : 2 ≤ (1 : ℚ) / (1 / 2) ^ count * (1 / 2) ^ (strikes - count) := by
    have shorter : ((1 : ℚ) / 2) ^ count ≤ (1 / 2) ^ (strikes - count + 1) :=
      pow_le_pow_of_le_one (by norm_num) (by norm_num) misses
    have power : (0 : ℚ) < (1 / 2) ^ count := pow_pos (by norm_num) _
    rw [pow_succ] at shorter
    rw [div_mul_eq_mul_div, le_div_iff₀ power]
    linarith
  rw [computedTerm, even, powerOfCount_wrapped _ positive wrapped, powerOfCount_rat _ missesSmall,
    mul_assoc]
  exact balance.trans (le_mul_of_one_le_left (by linarith) ways)

/-- From the first count that does not fit in a word with a sign, a damage that is not even likely
is taken to be certain. -/
theorem atLeast_of_overlong {strikes : ℕ} (word : strikes < UInt32.size) (many : 2 ^ 31 ≤ strikes) :
    (atLeast (2 ^ 31 - 1) (1 / 2) strikes 1 : ℚ) = 1 := by
  rcases wrapped_count with ⟨count, limit, wrapped⟩
  have least : (2 ^ 31 - 1 : ℤ) = ((count - 1 : ℕ) : ℤ) := by
    rw [limit]
    norm_num
  have needed : hitsNeeded (count - 1) 1 = count - 1 := by
    rw [hitsNeeded, Nat.add_sub_cancel, Nat.div_one]
  have positive : 2 ≤ count := by omega
  have fits : count ≤ strikes := limit.trans_le many
  have nonneg : ∀ i ∈ Finset.range (strikes - (count - 1) + 1),
      0 ≤ computedTerm (1 / 2) strikes (count - 1 + i) := by
    intro i _
    have hit := powerOfCount_pos (by norm_num : (0 : ℚ) < 1 / 2) (count - 1 + i)
    have miss := powerOfCount_pos (by norm_num : (0 : ℚ) < 1 - 1 / 2) (strikes - (count - 1 + i))
    exact mul_nonneg (mul_nonneg (Nat.cast_nonneg _) hit.le) miss.le
  have second : 1 ∈ Finset.range (strikes - (count - 1) + 1) := by
    rw [Finset.mem_range]
    omega
  have large : 2 ≤ unclamped (1 / 2) strikes (count - 1) := by
    have single := Finset.single_le_sum nonneg second
    rw [Nat.sub_add_cancel (by omega : 1 ≤ count)] at single
    rw [unclamped_eq_sum _ (by omega)]
    exact (two_le_computedTerm word limit wrapped fits).trans single
  rw [least, atLeast, if_neg (by omega), if_neg Nat.one_ne_zero, Int.toNat_natCast, needed]
  simp only
  rw [if_neg (by omega)]
  change Scalar.clampUnit (unclamped (1 / 2) strikes (count - 1)) = 1
  rw [Scalar.clampUnit, Scalar.rat_zero, Scalar.rat_one, if_neg (by linarith), if_pos (by linarith)]

/-- No damage but none is certain to be done by strikes that may miss. -/
theorem sum_damage_lt_one (strikes : ℕ) {least : ℕ} (some : 0 < least) :
    ∑ hits ∈ Finset.range (strikes + 1) with (least : ℤ) ≤ (hits * 1 : ℕ),
      term (1 / 2) strikes hits < 1 := by
  have missed : 0 < term (1 / 2) strikes 0 := by
    rw [term, Nat.choose_zero_right]
    positivity
  have few : 0 ∈ Finset.range (hitsNeeded least 1) := by
    rw [Finset.mem_range, hitsNeeded, Nat.add_sub_cancel, Nat.div_one]
    exact some
  have single := Finset.single_le_sum
    (fun hits _ => term_nonneg (by norm_num : (0 : ℚ) ≤ 1 / 2) (by norm_num) strikes hits) few
  rw [sum_damage_eq strikes Nat.one_pos]
  linarith

theorem not_exact_of_overlong {strikes : ℕ} (word : strikes < UInt32.size)
    (many : 2 ^ 31 ≤ strikes) :
    (atLeast (2 ^ 31 - 1) (1 / 2) strikes 1 : ℚ) ≠
      ∑ hits ∈ Finset.range (strikes + 1) with (2 ^ 31 - 1 : ℤ) ≤ (hits * 1 : ℕ),
        term (1 / 2) strikes hits := by
  have least : (2 ^ 31 - 1 : ℤ) = ((2 ^ 31 - 1 : ℕ) : ℤ) := by norm_num
  have small := sum_damage_lt_one strikes (by norm_num : 0 < 2 ^ 31 - 1)
  rw [atLeast_of_overlong word many, least]
  exact small.ne'

/-- The chances of damage are sums of binomial terms, for all chances, damages and totals, just when
the number of strikes fits in a word with a sign. -/
theorem exactFor_iff_strikes_lt {strikes : ℕ} (word : strikes < UInt32.size) :
    ExactFor strikes ↔ strikes < 2 ^ 31 := by
  constructor
  · intro always
    by_contra many
    apply not_exact_of_overlong word (Nat.le_of_not_lt many)
    exact always.atLeast _ 1 (by norm_num) (by norm_num) (by norm_num) (by norm_num)
  · exact exactFor_of_lt

/-- Of two strikes of eight with seven chances in ten, exactly one hits in 42 of 100 cases. -/
theorem exactFor_twoStrikes :
    ExactFor 2 ∧ (between 8 16 (7 / 10) 2 8 : ℚ) = 42 / 100 := by
  have exact : ExactFor 2 := (exactFor_iff_strikes_lt (by decide)).mpr (by norm_num)
  refine ⟨exact, ?_⟩
  rw [exact.between 8 16 8 (by norm_num) (by norm_num) (by norm_num) (by norm_num) (by norm_num)]
  norm_num [Finset.sum_filter, Finset.sum_range_succ, term]

/-- Of `2 ^ 31 + 1` strikes that hit every other time it is not certain that all but two hit; the
formula says that it is. -/
theorem not_exact_overlongVolley :
    (atLeast (2 ^ 31 - 1) (1 / 2) (2 ^ 31 + 1) 1 : ℚ) ≠
      ∑ hits ∈ Finset.range (2 ^ 31 + 1 + 1) with (2 ^ 31 - 1 : ℤ) ≤ (hits * 1 : ℕ),
        term (1 / 2) (2 ^ 31 + 1) hits :=
  not_exact_of_overlong (by norm_num [UInt32.size]) (by norm_num)

end Odds
end Hexfield
