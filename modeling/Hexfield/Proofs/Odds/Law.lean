import Hexfield.Proofs.Odds.Tail

namespace Hexfield

/-!
The law of a round of strikes.

A round is played swing by swing, and each swing either hits or misses; what is left of the round
depends on the hitpoints that are left.  `kills` is the chance that one side kills the other, in the
form of this recursion.  The closed formula of a single swing is a product: the striker's hits fell
the target exactly at this swing, and the hits of the other side have not felled the striker before.
Both factors obey the recursion of the round, each in the swings of its own side, and so does the
sum over all swings.
-/

namespace Odds

/-- The chance that a unit survives a number of strikes. -/
def survives (chance : ℚ) (damage : ℕ) : (strikes hitpoints : ℕ) → ℚ
  | 0, hitpoints => if hitpoints = 0 then 0 else 1
  | strikes + 1, hitpoints =>
      if hitpoints = 0 then 0
      else
        chance * survives chance damage strikes (hitpoints - damage) +
          (1 - chance) * survives chance damage strikes hitpoints

/-- The chance that a unit dies at exactly the last of a number of strikes. -/
def fellsAt (chance : ℚ) (damage : ℕ) : (strikes hitpoints : ℕ) → ℚ
  | 0, hitpoints => if hitpoints = 0 then 1 else 0
  | strikes + 1, hitpoints =>
      if hitpoints = 0 then 0
      else
        chance * fellsAt chance damage strikes (hitpoints - damage) +
          (1 - chance) * fellsAt chance damage strikes hitpoints

section Hits

variable (chance : ℚ) {damage hitpoints : ℕ}

theorem survives_dead (damage strikes : ℕ) : survives chance damage strikes 0 = 0 := by
  cases strikes <;> rfl

theorem fellsAt_dead (damage strikes : ℕ) : fellsAt chance damage (strikes + 1) 0 = 0 :=
  rfl

theorem survives_zero (damage : ℕ) (alive : 0 < hitpoints) :
    survives chance damage 0 hitpoints = 1 :=
  if_neg (Nat.ne_of_gt alive)

theorem survives_succ (damage strikes : ℕ) (alive : 0 < hitpoints) :
    survives chance damage (strikes + 1) hitpoints =
      chance * survives chance damage strikes (hitpoints - damage) +
        (1 - chance) * survives chance damage strikes hitpoints :=
  if_neg (Nat.ne_of_gt alive)

theorem fellsAt_succ (damage strikes : ℕ) (alive : 0 < hitpoints) :
    fellsAt chance damage (strikes + 1) hitpoints =
      chance * fellsAt chance damage strikes (hitpoints - damage) +
        (1 - chance) * fellsAt chance damage strikes hitpoints :=
  if_neg (Nat.ne_of_gt alive)

theorem hitsNeeded_zero (harmful : 0 < damage) : hitsNeeded 0 damage = 0 := by
  rw [hitsNeeded, Nat.zero_add]
  exact Nat.div_eq_of_lt (Nat.sub_lt harmful Nat.one_pos)

/-- Every hit brings the target one hit nearer to its end. -/
theorem hitsNeeded_of_pos (harmful : 0 < damage) (alive : 0 < hitpoints) :
    hitsNeeded hitpoints damage = hitsNeeded (hitpoints - damage) damage + 1 := by
  rcases Nat.lt_or_ge damage hitpoints with beyond | lethal
  · have shifted : hitpoints + damage - 1 = hitpoints - damage + damage - 1 + damage := by omega
    rw [hitsNeeded, hitsNeeded, shifted, Nat.add_div_right _ harmful]
  · rw [Nat.sub_eq_zero_of_le lethal, hitsNeeded_zero harmful, hitsNeeded]
    have twice : hitpoints + damage - 1 = (hitpoints - 1) + damage := by omega
    rw [twice, Nat.add_div_right _ harmful, Nat.div_eq_of_lt (by omega)]

theorem hitsNeeded_le (harmful : 0 < damage) (hitpoints : ℕ) :
    hitsNeeded hitpoints damage ≤ hitpoints := by
  induction hitpoints using Nat.strong_induction_on with
  | _ hitpoints ih =>
      rcases Nat.eq_zero_or_pos hitpoints with rfl | alive
      · rw [hitsNeeded_zero harmful]
      · have fewer := ih (hitpoints - damage) (Nat.sub_lt alive harmful)
        rw [hitsNeeded_of_pos harmful alive]
        omega

theorem term_zero (strikes : ℕ) :
    term chance (strikes + 1) 0 = (1 - chance) * term chance strikes 0 := by
  rw [term, term, Nat.choose_zero_right, Nat.choose_zero_right, Nat.sub_zero, Nat.sub_zero]
  ring

/-- The first of the strikes hits or misses. -/
theorem term_succ (strikes hits : ℕ) :
    term chance (strikes + 1) (hits + 1) =
      chance * term chance strikes hits + (1 - chance) * term chance strikes (hits + 1) := by
  rcases Nat.lt_or_ge hits strikes with few | many
  · have misses : strikes - hits = strikes - (hits + 1) + 1 := by omega
    rw [term, term, term, Nat.choose_succ_succ, Nat.succ_sub_succ, misses, Nat.cast_add]
    ring
  · rw [term_eq_zero chance (Nat.lt_succ_of_le many), mul_zero, add_zero, term, term,
      Nat.choose_succ_succ, Nat.choose_eq_zero_of_lt (Nat.lt_succ_of_le many), Nat.succ_sub_succ,
      Nat.add_zero]
    ring

theorem survives_eq_sum (harmful : 0 < damage) (strikes : ℕ) :
    ∀ hitpoints, survives chance damage strikes hitpoints =
      ∑ hits ∈ Finset.range (hitsNeeded hitpoints damage), term chance strikes hits := by
  induction strikes with
  | zero =>
      intro hitpoints
      rcases Nat.eq_zero_or_pos hitpoints with rfl | alive
      · rw [hitsNeeded_zero harmful]
        rfl
      · rw [survives_zero chance damage alive, hitsNeeded_of_pos harmful alive]
        exact (sum_term_of_lt chance (Nat.succ_pos _)).symm
  | succ strikes ih =>
      intro hitpoints
      rcases Nat.eq_zero_or_pos hitpoints with rfl | alive
      · rw [hitsNeeded_zero harmful, survives_dead]
        rfl
      · have whole := ih hitpoints
        rw [hitsNeeded_of_pos harmful alive] at whole ⊢
        rw [survives_succ chance damage strikes alive, ih (hitpoints - damage), whole,
          Finset.sum_range_succ', Finset.sum_range_succ', term_zero]
        simp only [term_succ, Finset.sum_add_distrib, Finset.mul_sum, mul_add]
        ring

/-- A unit dies at a strike that hits when all but one of the hits that are needed fell before. -/
theorem fellsAt_eq_term (harmful : 0 < damage) (strikes : ℕ) :
    ∀ {hitpoints : ℕ}, 0 < hitpoints →
      fellsAt chance damage (strikes + 1) hitpoints =
        chance * term chance strikes (hitsNeeded hitpoints damage - 1) := by
  induction strikes with
  | zero =>
      intro hitpoints alive
      have unhurt : fellsAt chance damage 0 hitpoints = 0 := if_neg (Nat.ne_of_gt alive)
      rw [fellsAt_succ chance damage 0 alive, unhurt, hitsNeeded_of_pos harmful alive,
        Nat.add_sub_cancel, mul_zero, add_zero]
      rcases Nat.eq_zero_or_pos (hitpoints - damage) with dead | left
      · rw [dead, hitsNeeded_zero harmful]
        simp [fellsAt, term]
      · have more : 0 < hitsNeeded (hitpoints - damage) damage := by
          rw [hitsNeeded_of_pos harmful left]
          exact Nat.succ_pos _
        rw [term_eq_zero chance more]
        simp [fellsAt, Nat.ne_of_gt left]
  | succ strikes ih =>
      intro hitpoints alive
      rw [fellsAt_succ chance damage _ alive, ih alive, hitsNeeded_of_pos harmful alive,
        Nat.add_sub_cancel]
      rcases Nat.eq_zero_or_pos (hitpoints - damage) with dead | left
      · rw [dead, fellsAt_dead, hitsNeeded_zero harmful, term_zero]
        ring
      · rw [ih left, hitsNeeded_of_pos harmful left, Nat.add_sub_cancel, term_succ]
        ring

theorem survives_harmless (alive : 0 < hitpoints) (strikes : ℕ) :
    survives chance 0 strikes hitpoints = 1 := by
  induction strikes with
  | zero => exact survives_zero chance 0 alive
  | succ strikes ih =>
      rw [survives_succ chance 0 strikes alive, Nat.sub_zero, ih]
      ring

theorem fellsAt_harmless (alive : 0 < hitpoints) (strikes : ℕ) :
    fellsAt chance 0 strikes hitpoints = 0 := by
  induction strikes with
  | zero => exact if_neg (Nat.ne_of_gt alive)
  | succ strikes ih =>
      rw [fellsAt_succ chance 0 strikes alive, Nat.sub_zero, ih]
      ring

/-- What the chance of enough damage leaves of certainty is the chance to survive. -/
theorem one_sub_atLeast (nonneg : 0 ≤ chance) (le_one : chance ≤ 1) (strikes : ℕ)
    (small : 2 * strikes < UInt32.size) (alive : 0 < hitpoints) (damage : ℕ) :
    1 - atLeast (hitpoints : ℤ) chance strikes damage =
      survives chance damage strikes hitpoints := by
  rcases Nat.eq_zero_or_pos damage with rfl | harmful
  · have positive : ¬ (hitpoints : ℤ) ≤ 0 := by omega
    rw [survives_harmless chance alive, atLeast, if_neg positive, if_pos rfl, Scalar.rat_zero,
      sub_zero]
  · rw [atLeast_rat nonneg le_one small alive harmful, survives_eq_sum chance harmful]
    ring

end Hits

/-! ## A single swing of the closed formula -/

theorem count_take_le (mark : Bool) (order : List Bool) (n : ℕ) :
    (order.take n).count mark ≤ order.count mark :=
  (List.take_sublist n order).count_le mark

/-- The striker of a swing has one more with it than before. -/
theorem count_take_succ {mark : Bool} {order : List Bool} {n : ℕ} (swings : order[n]? = some mark) :
    (order.take (n + 1)).count mark = (order.take n).count mark + 1 := by
  rw [List.take_add_one, swings, List.count_append]
  simp

variable {first second : Striker ℚ}

/-- The chance that the last hit that is needed falls on a swing. -/
theorem killNow_rat (chance : ℚ) {damage hitpoints : ℕ} (harmful : 0 < damage)
    (alive : 0 < hitpoints) (fits : 2 * hitpoints < UInt32.size) (own : ℕ)
    (small : 2 * own < UInt32.size) (enough : hitsNeeded hitpoints damage ≤ own + 1) :
    (binomial own (hitsNeeded hitpoints damage - 1) : ℚ) *
        powerOfCount chance (hitsNeeded hitpoints damage) *
        powerOfCount (1 - chance) (own + 1 - hitsNeeded hitpoints damage) =
      fellsAt chance damage (own + 1) hitpoints := by
  have hits := hitsNeeded_le harmful hitpoints
  have some := hitsNeeded_of_pos harmful alive
  rw [fellsAt_eq_term chance harmful own alive, binomial_rat, powerOfCount_rat _ (by omega),
    powerOfCount_rat _ (by omega), term]
  rw [some, Nat.add_sub_cancel, Nat.succ_sub_succ, pow_succ]
  ring

/-- The closed formula of a swing is the chance that the striker fells its target right then, times
the chance that the striker has survived until then. -/
theorem killDuringSwing_rat (nonneg : 0 ≤ second.chance) (le_one : second.chance ≤ 1)
    (firstSmall : 2 * first.strikes ≤ UInt32.size)
    (short : first.strikes + second.strikes < UInt32.size) (firstAlive : 0 < first.hitpoints)
    (secondAlive : 0 < second.hitpoints) (firstFits : 2 * first.hitpoints < UInt32.size)
    (secondFits : 2 * second.hitpoints < UInt32.size) (firstLeads : Bool) (n : ℕ) :
    let order := Schedule.round first.strikes second.strikes firstLeads
    killDuringSwing first second firstLeads n =
      if order[n]? = some true then
        fellsAt first.chance first.damage ((order.take (n + 1)).count true) second.hitpoints *
          survives second.chance second.damage ((order.take n).count false) first.hitpoints
      else 0 := by
  intro order
  rw [killDuringSwing]
  simp only
  by_cases swings : order[n]? = some true
  · have ownSwings := count_take_succ swings
    have ownLimit : (order.take (n + 1)).count true ≤ first.strikes := by
      have limit := count_take_le true order (n + 1)
      rw [(Schedule.count_round first.strikes second.strikes firstLeads).1] at limit
      exact limit
    have foeLimit : (order.take n).count false ≤ second.strikes := by
      have limit := count_take_le false order n
      rw [(Schedule.count_round first.strikes second.strikes firstLeads).2] at limit
      exact limit
    have balanced : (order.take n).count false ≤ (order.take (n + 1)).count true :=
      Schedule.count_take_round swings
    rw [if_pos swings]
    rcases Nat.eq_zero_or_pos first.damage with harmless | harmful
    · rw [if_pos (Or.inr harmless), harmless, fellsAt_harmless first.chance secondAlive, zero_mul]
      exact Scalar.rat_zero
    · have nothing : ¬ (order[n]? ≠ some true ∨ first.damage = 0) := by
        rintro (other | harmless)
        · exact other swings
        · exact absurd harmless (Nat.ne_of_gt harmful)
      have living : max second.hitpoints 1 = second.hitpoints := Nat.max_eq_left secondAlive
      rw [if_neg nothing, living, ownSwings]
      by_cases few : (order.take n).count true + 1 < hitsNeeded second.hitpoints first.damage
      · rw [if_pos few, fellsAt_eq_term first.chance harmful _ secondAlive,
          term_eq_zero first.chance (Nat.lt_sub_of_add_lt few), mul_zero, zero_mul]
        exact Scalar.rat_zero
      · have survived := one_sub_atLeast second.chance nonneg le_one
          ((order.take n).count false) (by omega) firstAlive second.damage
        have killed := killNow_rat first.chance harmful secondAlive secondFits
          ((order.take n).count true) (by omega) (Nat.le_of_not_lt few)
        rw [if_neg few, signed32_of_lt firstFits, Nat.add_sub_cancel, Scalar.rat_one]
        exact congrArg₂ (· * ·) killed survived
  · rw [if_neg swings, if_pos (Or.inl swings)]
    exact Scalar.rat_zero

/-- Against a harmless target with a single hitpoint, a swing kills with the chance that it hits and
all before it have missed, as far as the power is one. -/
theorem killDuringSwing_harmless (harmful : first.damage = 1) (harmless : second.damage = 0)
    (firstLast : first.hitpoints = 1) (secondLast : second.hitpoints = 1) (firstLeads : Bool)
    (n : ℕ) :
    let order := Schedule.round first.strikes second.strikes firstLeads
    killDuringSwing first second firstLeads n =
      if order[n]? = some true then
        first.chance *
          powerOfCount (1 - first.chance) ((order.take (n + 1)).count true - 1) * 1
      else 0 := by
  intro order
  rw [killDuringSwing]
  simp only
  by_cases swings : order[n]? = some true
  · have nothing : ¬ (order[n]? ≠ some true ∨ first.damage = 0) := by
      rintro (other | none)
      · exact other swings
      · omega
    have needed : hitsNeeded (max second.hitpoints 1) first.damage = 1 := by
      rw [secondLast, harmful]
      rfl
    have enough : ¬ (order.take (n + 1)).count true < 1 := by
      rw [count_take_succ swings]
      omega
    have survived : atLeast (signed32 first.hitpoints) second.chance
        ((order.take n).count false) second.damage = (0 : ℚ) := by
      rw [firstLast, harmless, atLeast, if_neg (by decide), if_pos rfl, Scalar.rat_zero]
    have hit : (binomial ((order.take (n + 1)).count true - 1) (1 - 1) : ℚ) *
        powerOfCount first.chance 1 = first.chance := by
      rw [binomial_rat, powerOfCount_rat _ (by decide), Nat.choose_zero_right, Nat.cast_one,
        one_mul, pow_one]
    rw [if_neg nothing, if_pos swings, needed, if_neg enough]
    change _ * _ * powerOfCount (_ - first.chance) _ * (_ - atLeast _ _ _ _) = _
    rw [survived, hit, Scalar.rat_one, sub_zero]
  · rw [if_neg swings, if_pos (Or.inl swings)]
    exact Scalar.rat_zero

/-! ## The sum over a round -/

/-- The sum over the swings of the first side of a number read from its swings up to then, times a
number read from the other side's swings before. -/
def swingSum : (order : List Bool) → (own foe : ℕ → ℚ) → ℚ
  | [], _, _ => 0
  | true :: rest, own, foe => own 1 * foe 0 + swingSum rest (fun n => own (n + 1)) foe
  | false :: rest, own, foe => swingSum rest own (fun n => foe (n + 1))

theorem sum_range_eq_swingSum (order : List Bool) :
    ∀ own foe : ℕ → ℚ, ∑ n ∈ Finset.range order.length,
        (if order[n]? = some true then
          own ((order.take (n + 1)).count true) * foe ((order.take n).count false)
        else 0) =
      swingSum order own foe := by
  induction order with
  | nil =>
      intro own foe
      rfl
  | cons mark rest ih =>
      intro own foe
      rw [List.length_cons, Finset.sum_range_succ']
      cases mark with
      | true =>
          have later := ih (fun n => own (n + 1)) foe
          simp only [List.getElem?_cons_succ, List.take_succ_cons, List.count_cons_self,
            List.count_cons_of_ne (by decide : (true : Bool) ≠ false)]
          rw [later]
          simp [swingSum, add_comm]
      | false =>
          have later := ih own (fun n => foe (n + 1))
          simp only [List.getElem?_cons_succ, List.take_succ_cons, List.count_cons_self,
            List.count_cons_of_ne (by decide : (false : Bool) ≠ true)]
          rw [later]
          simp [swingSum]

theorem swingSum_own (order : List Bool) (p : ℚ) :
    ∀ own own' foe : ℕ → ℚ,
      swingSum order (fun n => p * own n + (1 - p) * own' n) foe =
        p * swingSum order own foe + (1 - p) * swingSum order own' foe := by
  induction order with
  | nil =>
      intro own own' foe
      simp [swingSum]
  | cons mark rest ih =>
      intro own own' foe
      cases mark with
      | true =>
          simp only [swingSum]
          rw [ih]
          ring
      | false =>
          simp only [swingSum]
          rw [ih]

theorem swingSum_foe (order : List Bool) (p : ℚ) :
    ∀ own foe foe' : ℕ → ℚ,
      swingSum order own (fun n => p * foe n + (1 - p) * foe' n) =
        p * swingSum order own foe + (1 - p) * swingSum order own foe' := by
  induction order with
  | nil =>
      intro own foe foe'
      simp [swingSum]
  | cons mark rest ih =>
      intro own foe foe'
      cases mark with
      | true =>
          simp only [swingSum]
          rw [ih]
          ring
      | false =>
          simp only [swingSum]
          rw [ih]

/-- The numbers of the first side are read only from its first swing on. -/
theorem swingSum_own_zero (order : List Bool) :
    ∀ {own : ℕ → ℚ} (foe : ℕ → ℚ), (∀ n, own (n + 1) = 0) → swingSum order own foe = 0 := by
  induction order with
  | nil =>
      intro own foe none
      rfl
  | cons mark rest ih =>
      intro own foe none
      cases mark with
      | true =>
          rw [swingSum, none 0, zero_mul, zero_add]
          exact ih foe fun n => none (n + 1)
      | false => exact ih _ none

theorem swingSum_foe_zero (order : List Bool) :
    ∀ (own : ℕ → ℚ) {foe : ℕ → ℚ}, (∀ n, foe n = 0) → swingSum order own foe = 0 := by
  induction order with
  | nil =>
      intro own foe none
      rfl
  | cons mark rest ih =>
      intro own foe none
      cases mark with
      | true =>
          rw [swingSum, none 0, mul_zero, zero_add]
          exact ih _ none
      | false => exact ih own fun n => none (n + 1)

theorem swingSum_foe_one (order : List Bool) :
    ∀ own : ℕ → ℚ, swingSum order own (fun _ => 1) =
      ∑ n ∈ Finset.range (order.count true), own (n + 1) := by
  induction order with
  | nil =>
      intro own
      rfl
  | cons mark rest ih =>
      intro own
      cases mark with
      | true =>
          rw [swingSum, ih, List.count_cons_self, Finset.sum_range_succ', mul_one, add_comm]
      | false =>
          rw [swingSum, ih, List.count_cons_of_ne (by decide)]

/-! ## The recursion of a round -/

/-- The chance that the first side kills the second in the rest of a round, where `true` marks its
swings, before it is killed itself. -/
def kills (first second : Striker ℚ) : (order : List Bool) → (own foe : ℕ) → ℚ
  | [], _, _ => 0
  | true :: rest, own, foe =>
      first.chance *
          (if foe - first.damage = 0 then 1 else kills first second rest own (foe - first.damage)) +
        (1 - first.chance) * kills first second rest own foe
  | false :: rest, own, foe =>
      second.chance *
          (if own - second.damage = 0 then 0
            else kills first second rest (own - second.damage) foe) +
        (1 - second.chance) * kills first second rest own foe

/-- The sum of the closed formula obeys the recursion of the round. -/
theorem kills_eq_swingSum (first second : Striker ℚ) (order : List Bool) :
    ∀ {own foe : ℕ}, 0 < own → 0 < foe →
      kills first second order own foe =
        swingSum order (fun n => fellsAt first.chance first.damage n foe)
          (fun n => survives second.chance second.damage n own) := by
  induction order with
  | nil =>
      intro own foe _ _
      rfl
  | cons mark rest ih =>
      intro own foe ownAlive foeAlive
      cases mark with
      | true =>
          have unhurt : fellsAt first.chance first.damage 0 foe = 0 :=
            if_neg (Nat.ne_of_gt foeAlive)
          simp only [kills, swingSum, fellsAt_succ first.chance first.damage _ foeAlive]
          rw [swingSum_own, survives_zero second.chance second.damage ownAlive,
            ← ih ownAlive foeAlive, unhurt]
          by_cases dead : foe - first.damage = 0
          · have felled : fellsAt first.chance first.damage 0 0 = 1 := rfl
            rw [if_pos dead, dead, felled,
              swingSum_own_zero rest _ (fun n => fellsAt_dead first.chance first.damage n)]
            ring
          · have spared : fellsAt first.chance first.damage 0 (foe - first.damage) = 0 :=
              if_neg dead
            rw [if_neg dead, spared, ih ownAlive (Nat.pos_of_ne_zero dead)]
            ring
      | false =>
          simp only [kills, swingSum, survives_succ second.chance second.damage _ ownAlive]
          rw [swingSum_foe, ← ih ownAlive foeAlive]
          by_cases dead : own - second.damage = 0
          · rw [if_pos dead, dead,
              swingSum_foe_zero rest _ (fun n => survives_dead second.chance second.damage n)]
          · rw [if_neg dead, ih (Nat.pos_of_ne_zero dead) foeAlive]

theorem kills_add_kills_le_one {first second : Striker ℚ} (firstNonneg : 0 ≤ first.chance)
    (firstLeOne : first.chance ≤ 1) (secondNonneg : 0 ≤ second.chance)
    (secondLeOne : second.chance ≤ 1) (order : List Bool) :
    ∀ own foe : ℕ,
      kills first second order own foe + kills second first (order.map (!·)) foe own ≤ 1 := by
  induction order with
  | nil =>
      intro own foe
      simp [kills]
  | cons mark rest ih =>
      intro own foe
      have missed := ih own foe
      cases mark with
      | true =>
          simp only [List.map_cons, Bool.not_true, kills]
          by_cases dead : foe - first.damage = 0
          · rw [if_pos dead, if_pos dead]
            nlinarith
          · have hit := ih own (foe - first.damage)
            rw [if_neg dead, if_neg dead]
            nlinarith
      | false =>
          simp only [List.map_cons, Bool.not_false, kills]
          by_cases dead : own - second.damage = 0
          · rw [if_pos dead, if_pos dead]
            nlinarith
          · have hit := ih (own - second.damage) foe
            rw [if_neg dead, if_neg dead]
            nlinarith

end Odds
end Hexfield
