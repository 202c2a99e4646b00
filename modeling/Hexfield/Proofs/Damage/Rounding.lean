import Hexfield.Damage
import Mathlib.Data.Rat.Floor
import Mathlib.Tactic.Linarith
import Mathlib.Tactic.NormNum
import Mathlib.Tactic.Ring

namespace Hexfield

/-!
What rounding makes of an exact damage.

An exact damage is a fraction.  It is rounded to the nearest integer, and of two integers that are
equally near to the one on the side of the weapon's own damage.  `roundDamage` gets there with a
single division, by adding almost half of the divisor first.  For an even divisor this is exact.
For an odd one there is no half to be resolved, yet the addition still avoids one where the damage
is increased; so the result is one too low where the fraction lies just above the middle.
-/

/-! ## The nearest integer -/

/-- The integer nearest to `q`.  Of two that are equally near, it is the one on the side of
`base`. -/
def nearestToward (base : ℤ) (q : ℚ) : ℤ :=
  if q < base then ⌊q + 1 / 2⌋ else ⌈q - 1 / 2⌉

private theorem le_of_cast_lt_add_one {m n : ℤ} (lt : (m : ℚ) < n + 1) : m ≤ n :=
  Int.lt_add_one_iff.mp (by exact_mod_cast lt)

section Nearest

variable {base base' n : ℤ} {q q' : ℚ}

theorem nearestToward_eq_iff :
    nearestToward base q = n ↔
      if q < base then 2 * (n : ℚ) - 1 ≤ 2 * q ∧ 2 * q < 2 * n + 1
      else 2 * (n : ℚ) - 1 < 2 * q ∧ 2 * q ≤ 2 * n + 1 := by
  unfold nearestToward
  split
  · rw [Int.floor_eq_iff]
    constructor <;> rintro ⟨lower, upper⟩ <;> constructor <;> linarith
  · rw [Int.ceil_eq_iff]
    constructor <;> rintro ⟨lower, upper⟩ <;> constructor <;> linarith

theorem nearestToward_of_lt (below : q < base) :
    2 * (nearestToward base q : ℚ) - 1 ≤ 2 * q ∧ 2 * q < 2 * nearestToward base q + 1 := by
  have bounds := nearestToward_eq_iff.mp (Eq.refl (nearestToward base q))
  rwa [if_pos below] at bounds

theorem nearestToward_of_le (above : base ≤ q) :
    2 * (nearestToward base q : ℚ) - 1 < 2 * q ∧ 2 * q ≤ 2 * nearestToward base q + 1 := by
  have bounds := nearestToward_eq_iff.mp (Eq.refl (nearestToward base q))
  rwa [if_neg (not_lt.mpr above)] at bounds

/-- Whichever way halves go, it is at most a half away. -/
theorem nearestToward_bounds (base : ℤ) (q : ℚ) :
    2 * (nearestToward base q : ℚ) - 1 ≤ 2 * q ∧ 2 * q ≤ 2 * nearestToward base q + 1 := by
  rcases lt_or_ge q base with below | above
  · have bounds := nearestToward_of_lt below
    exact ⟨bounds.1, bounds.2.le⟩
  · have bounds := nearestToward_of_le above
    exact ⟨bounds.1.le, bounds.2⟩

theorem abs_sub_nearestToward_le_half (base : ℤ) (q : ℚ) :
    |q - nearestToward base q| ≤ 1 / 2 := by
  have bounds := nearestToward_bounds base q
  rw [abs_le]
  constructor <;> linarith

/-- No integer is nearer. -/
theorem abs_sub_nearestToward_le (base : ℤ) (q : ℚ) (n : ℤ) :
    |q - nearestToward base q| ≤ |q - n| := by
  by_cases same : nearestToward base q = n
  · rw [same]
  · have half := abs_sub_nearestToward_le_half base q
    have apart : (1 : ℚ) ≤ |(nearestToward base q : ℚ) - n| := by
      exact_mod_cast Int.one_le_abs (sub_ne_zero.mpr same)
    have triangle := abs_sub_le (nearestToward base q : ℚ) q n
    rw [abs_sub_comm _ q] at triangle
    linarith

/-- Of two integers that are equally near, it is the one that is nearer to the base. -/
theorem abs_sub_nearestToward_le_of_tie (tie : |q - n| = |q - nearestToward base q|) :
    |base - nearestToward base q| ≤ |base - n| := by
  rcases abs_eq_abs.mp tie with same | mirrored
  · have same : n = nearestToward base q := by exact_mod_cast sub_right_injective same
    rw [same]
  · rcases lt_or_ge q base with below | above
    · have bounds := nearestToward_of_lt below
      have lower : n ≤ nearestToward base q := le_of_cast_lt_add_one (by linarith)
      have within : nearestToward base q ≤ base := le_of_cast_lt_add_one (by linarith)
      rw [abs_of_nonneg (by omega), abs_of_nonneg (by omega)]
      omega
    · have bounds := nearestToward_of_le above
      have upper : nearestToward base q ≤ n := le_of_cast_lt_add_one (by linarith)
      have within : base ≤ nearestToward base q := le_of_cast_lt_add_one (by linarith)
      rw [abs_of_nonpos (by omega), abs_of_nonpos (by omega)]
      omega

/-- More is not rounded to less, also when the base grows and with it the way halves go. -/
theorem nearestToward_mono (bases : base ≤ base') (quotients : q ≤ q') :
    nearestToward base q ≤ nearestToward base' q' := by
  have bases : (base : ℚ) ≤ base' := by exact_mod_cast bases
  apply le_of_cast_lt_add_one
  rcases lt_or_ge q base with below | above <;> rcases lt_or_ge q' base' with below' | above'
  · have bounds := nearestToward_of_lt below
    have bounds' := nearestToward_of_lt below'
    linarith
  · -- A half below one base and a half above the other are a whole apart, with a base between.
    have bounds := nearestToward_of_lt below
    have bounds' := nearestToward_of_le above'
    have first : nearestToward base q ≤ base := le_of_cast_lt_add_one (by linarith)
    have second : base' ≤ nearestToward base' q' := le_of_cast_lt_add_one (by linarith)
    have first : (nearestToward base q : ℚ) ≤ base := by exact_mod_cast first
    have second : (base' : ℚ) ≤ nearestToward base' q' := by exact_mod_cast second
    linarith
  · have bounds := nearestToward_of_le above
    have bounds' := nearestToward_of_lt below'
    linarith
  · have bounds := nearestToward_of_le above
    have bounds' := nearestToward_of_le above'
    linarith

end Nearest

/-! ## Rounding a quotient of counts -/

/-- Of a quotient of counts the nearest integer is found without fractions. -/
theorem nearestToward_div_eq_iff {base total divisor : ℕ} {n : ℤ} (divides : 0 < divisor) :
    nearestToward base (total / divisor) = n ↔
      if total < base * divisor then
        (2 * n - 1) * divisor ≤ 2 * total ∧ 2 * total < (2 * n + 1) * divisor
      else
        (2 * n - 1) * divisor < 2 * total ∧ 2 * total ≤ (2 * n + 1) * divisor := by
  have positive : (0 : ℚ) < divisor := by exact_mod_cast divides
  have below : (total : ℚ) / divisor < (base : ℤ) ↔ total < base * divisor := by
    rw [div_lt_iff₀ positive]
    exact_mod_cast Iff.rfl
  simp only [nearestToward_eq_iff, below, ← mul_div_assoc, le_div_iff₀ positive,
    div_lt_iff₀ positive, lt_div_iff₀ positive, div_le_iff₀ positive]
  exact_mod_cast Iff.rfl

/-- The remainder is worth a point: it exceeds half of the divisor, or is half of it where halves
are rounded up. -/
def RoundsUp (base total divisor : ℕ) : Prop :=
  if total < base * divisor then divisor ≤ 2 * (total % divisor)
  else divisor < 2 * (total % divisor)

instance (base total divisor : ℕ) : Decidable (RoundsUp base total divisor) := by
  unfold RoundsUp
  infer_instance

/-- The nearest integer is the whole quotient, or one more where the remainder is worth it. -/
theorem nearestToward_div (base total : ℕ) {divisor : ℕ} (divides : 0 < divisor) :
    nearestToward base (total / divisor) =
      (total / divisor : ℕ) + if RoundsUp base total divisor then 1 else 0 := by
  have whole : (total : ℤ) = divisor * (total / divisor : ℕ) + (total % divisor : ℕ) := by
    exact_mod_cast (Nat.div_add_mod total divisor).symm
  have remainder : ((total % divisor : ℕ) : ℤ) < divisor := by
    exact_mod_cast Nat.mod_lt total divides
  have nonneg : (0 : ℤ) ≤ (total % divisor : ℕ) := Int.natCast_nonneg _
  rw [nearestToward_div_eq_iff divides]
  unfold RoundsUp
  split
  · split
    · rename_i up
      have up : (divisor : ℤ) ≤ 2 * (total % divisor : ℕ) := by exact_mod_cast up
      constructor <;> linarith
    · rename_i down
      have down : 2 * ((total % divisor : ℕ) : ℤ) < divisor := by
        exact_mod_cast not_le.mp down
      constructor <;> linarith
  · split
    · rename_i up
      have up : (divisor : ℤ) < 2 * (total % divisor : ℕ) := by exact_mod_cast up
      constructor <;> linarith
    · rename_i down
      have down : 2 * ((total % divisor : ℕ) : ℤ) ≤ divisor := by
        exact_mod_cast not_lt.mp down
      constructor <;> linarith

/-! ## Rounding a damage -/

/-- The scaled damage as it is rounded, before the least point is added and the word is full. -/
def roundedQuotient (base bonus divisor : ℕ) : ℕ :=
  (base * bonus + (divisor / 2 - (if bonus < divisor then 0 else 1))) / divisor

theorem roundDamage_eq {base bonus divisor : ℕ} (based : 0 < base) (scaled : 0 < bonus)
    (divides : 0 < divisor) :
    roundDamage base bonus divisor = low32 (max (roundedQuotient base bonus divisor) 1) := by
  have something : ¬ (base = 0 ∨ bonus = 0 ∨ divisor = 0) := by omega
  rw [roundDamage, if_neg something]
  rfl

/-- The one case in which the rounding goes astray: the divisor is odd, the damage is not
decreased, and the remainder exceeds half of the divisor by a half. -/
def FallsShort (base bonus divisor : ℕ) : Prop :=
  divisor % 2 = 1 ∧ divisor ≤ bonus ∧ 2 * (base * bonus % divisor) = divisor + 1

instance (base bonus divisor : ℕ) : Decidable (FallsShort base bonus divisor) :=
  inferInstanceAs (Decidable (_ ∧ _))

/-- The addend carries the remainder over the divisor at most once. -/
theorem roundedQuotient_eq_add {base bonus divisor : ℕ} (divides : 0 < divisor) :
    roundedQuotient base bonus divisor =
      base * bonus / divisor +
        if divisor ≤ base * bonus % divisor + (divisor / 2 - (if bonus < divisor then 0 else 1))
          then 1 else 0 := by
  have whole := Nat.div_add_mod (base * bonus) divisor
  have remainder := Nat.mod_lt (base * bonus) divides
  generalize addend : divisor / 2 - (if bonus < divisor then 0 else 1) = r
  have small : r ≤ divisor / 2 := addend ▸ Nat.sub_le _ _
  unfold roundedQuotient
  rw [addend]
  nth_rewrite 1 [← whole]
  rw [Nat.add_assoc, Nat.mul_add_div divides]
  congr 1
  split
  · apply Nat.div_eq_of_lt_le <;> omega
  · apply Nat.div_eq_of_lt
    omega

/-- Outside of the one case the rounded quotient is the nearest integer, and in it one less. -/
theorem roundedQuotient_eq {base divisor : ℕ} (bonus : ℕ) (based : 0 < base)
    (divides : 2 ≤ divisor) :
    (roundedQuotient base bonus divisor : ℤ) =
      nearestToward base (base * bonus / divisor) -
        if FallsShort base bonus divisor then 1 else 0 := by
  have positive : 0 < divisor := Nat.zero_lt_of_lt divides
  have remainder := Nat.mod_lt (base * bonus) positive
  have below : base * bonus < base * divisor ↔ bonus < divisor := Nat.mul_lt_mul_left based
  have nearest := nearestToward_div base (base * bonus) positive
  rw [Nat.cast_mul] at nearest
  rw [nearest, roundedQuotient_eq_add positive]
  by_cases decreased : bonus < divisor
  · simp only [RoundsUp, FallsShort, below, if_pos decreased]
    split_ifs <;> omega
  · simp only [RoundsUp, FallsShort, below, if_neg decreased]
    split_ifs <;> omega

/-- A damage that is not decreased is not rounded below the base. -/
theorem le_roundedQuotient (base : ℕ) {bonus divisor : ℕ} (divides : 0 < divisor)
    (kept : divisor ≤ bonus) : base ≤ roundedQuotient base bonus divisor := by
  have whole : base ≤ base * bonus / divisor :=
    (Nat.le_div_iff_mul_le divides).mpr (Nat.mul_le_mul_left base kept)
  rw [roundedQuotient_eq_add divides]
  omega

/-- A half goes down where the damage is not decreased, and up where it is. -/
theorem roundedQuotient_of_half {base bonus divisor whole : ℕ} (divides : 0 < divisor)
    (half : 2 * (base * bonus) = (2 * whole + 1) * divisor) :
    roundedQuotient base bonus divisor = if divisor ≤ bonus then whole else whole + 1 := by
  have total : base * bonus = divisor * whole + divisor / 2 := by
    have doubled : (2 * whole + 1) * divisor = 2 * (divisor * whole) + divisor := by ring
    omega
  have even : divisor / 2 + divisor / 2 = divisor := by
    have doubled : (2 * whole + 1) * divisor = 2 * (divisor * whole) + divisor := by ring
    omega
  have small : divisor / 2 < divisor := Nat.div_lt_self divides Nat.one_lt_two
  rw [roundedQuotient_eq_add divides, total, Nat.mul_add_div divides, Nat.mul_add_mod,
    Nat.div_eq_of_lt small, Nat.mod_eq_of_lt small]
  split_ifs <;> omega

/-- Rounding gives the nearest integer, but at least a point, in every case but one; then it gives
one less.  A half goes down where the damage is not decreased, and up where it is. -/
theorem roundDamage_nearest_iff {base bonus divisor : ℕ} (based : 1 ≤ base) (scaled : 1 ≤ bonus)
    (divides : 2 ≤ divisor)
    (fits : nearestToward base (base * bonus / divisor) < UInt32.size) :
    ((roundDamage base bonus divisor : ℤ) = max 1 (nearestToward base (base * bonus / divisor)) ↔
        ¬ FallsShort base bonus divisor) ∧
      (FallsShort base bonus divisor →
        (roundDamage base bonus divisor : ℤ) =
          nearestToward base (base * bonus / divisor) - 1) ∧
      ∀ whole : ℕ, 2 * (base * bonus) = (2 * whole + 1) * divisor →
        roundDamage base bonus divisor =
          max 1 (if divisor ≤ bonus then whole else whole + 1) := by
  have positive : 0 < divisor := Nat.zero_lt_of_lt divides
  have rounded := roundedQuotient_eq bonus based divides
  have small : max (roundedQuotient base bonus divisor) 1 < UInt32.size := by
    simp only [UInt32.size] at fits ⊢
    split at rounded <;> omega
  rw [roundDamage_eq based scaled positive, low32_of_lt small]
  refine ⟨?_, ?_, ?_⟩
  · by_cases short : FallsShort base bonus divisor
    · have enough := le_roundedQuotient base positive short.2.1
      rw [if_pos short] at rounded
      refine iff_of_false ?_ (not_not_intro short)
      omega
    · rw [if_neg short] at rounded
      refine iff_of_true ?_ short
      omega
  · intro short
    have enough := le_roundedQuotient base positive short.2.1
    rw [if_pos short] at rounded
    omega
  · intro whole half
    rw [roundedQuotient_of_half positive half, max_comm]

/-- Six and a quarter of it are seven and a half, which goes down; five and a third of it are more
than six and a half, and fall short. -/
theorem roundDamage_nearest_iff_instances :
    (roundDamage 6 125 100 : ℤ) = max 1 (nearestToward 6 (6 * 125 / 100)) ∧
      (roundDamage 5 4 3 : ℤ) = nearestToward 5 (5 * 4 / 3) - 1 := by
  constructor
  · have kept : ¬ FallsShort 6 125 100 := by decide
    exact (roundDamage_nearest_iff (by decide) (by decide) (by decide)
      (by decide +kernel)).1.mpr kept
  · have short : FallsShort 5 4 3 := by decide
    exact (roundDamage_nearest_iff (by decide) (by decide) (by decide)
      (by decide +kernel)).2.1 short

/-- Five and a third of it are six and two thirds, which is rounded to six. -/
theorem roundDamage_of_thirds :
    5 * 4 + 3 < UInt64.size ∧ max 1 (nearestToward 5 (5 * 4 / 3)) = 7 ∧ roundDamage 5 4 3 = 6 := by
  decide +kernel

/-! ## The damage of a hit -/

/-- The damage that a hit does if its exact damage is `q`: none if that is none, and otherwise the
nearest integer, but at least a point. -/
def settledDamage (base : ℕ) (q : ℚ) : ℤ :=
  if q = 0 then 0 else max 1 (nearestToward base q)

theorem settledDamage_nonneg (base : ℕ) (q : ℚ) : 0 ≤ settledDamage base q := by
  unfold settledDamage
  split <;> omega

theorem settledDamage_mono {base base' : ℕ} {q q' : ℚ} (nonneg : 0 ≤ q) (bases : base ≤ base')
    (le : q ≤ q') : settledDamage base q ≤ settledDamage base' q' := by
  unfold settledDamage
  by_cases none : q = 0
  · rw [if_pos none]
    exact settledDamage_nonneg base' q'
  · have some : q' ≠ 0 := (lt_of_lt_of_le (lt_of_le_of_ne nonneg (Ne.symm none)) le).ne'
    rw [if_neg none, if_neg some]
    exact max_le_max_left 1 (nearestToward_mono (by exact_mod_cast bases) le)

/-- For an even divisor rounding settles the exact damage. -/
theorem roundDamage_of_even {base bonus divisor : ℕ} (divides : 0 < divisor)
    (even : divisor % 2 = 0) :
    roundDamage base bonus divisor =
      low32 (settledDamage base (base * bonus / divisor)).toNat := by
  unfold settledDamage
  by_cases something : 0 < base ∧ 0 < bonus
  · rcases something with ⟨based, scaled⟩
    have exact : (base * bonus / divisor : ℚ) ≠ 0 := by positivity
    have nearest : (roundedQuotient base bonus divisor : ℤ) =
        nearestToward base (base * bonus / divisor) := by
      rw [roundedQuotient_eq bonus based (by omega), if_neg (fun short => by
        have := short.1
        omega), sub_zero]
    rw [roundDamage_eq based scaled divides, if_neg exact, ← nearest]
    congr 1
    omega
  · have nothing : base = 0 ∨ bonus = 0 := by omega
    have exact : (base * bonus / divisor : ℚ) = 0 := by
      rcases nothing with rfl | rfl <;> simp
    rw [if_pos exact, roundDamage, if_pos (by tauto)]
    rfl

end Hexfield
