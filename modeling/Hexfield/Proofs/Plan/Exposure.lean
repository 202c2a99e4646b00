import Hexfield.Proofs.Plan.Valuation

namespace Hexfield

/-!
What the strength of the enemy does to a rating.

More of it takes more off the value of a plan that leaves cover, and it makes for a rejection.  But
then the value is divided by it, gains and losses alike, so a plan that is a loss anyway looks less
of one the stronger the enemy is.  A plan that no enemy can reach is not divided by anything, and a
weak enemy may multiply its value.  And a rejection is not the lowest rating there is.  These are
the three ways in which a plan can be flattered by a stronger enemy, and there are no others.
-/

namespace Plan

variable {ρ : Type} {plan : Plan ℚ} {aggression caution strength : ℚ} {treasury : Option ℤ}

/-- The same plan, where the enemy can bring so much onto the hexes of the attackers. -/
def facing (plan : Plan ℚ) (strength : ℚ) : Plan ℚ :=
  { plan with vulnerability := strength }

theorem Nonnegative.facing (nonnegative : plan.Nonnegative) (nonneg : 0 ≤ strength) :
    (plan.facing strength).Nonnegative :=
  { nonnegative with vulnerability := nonneg }

/-- The value of a plan without regard to the enemy, and what is taken off for each unit of enemy
strength. -/
theorem rawValue_facing (plan : Plan ℚ) (strength aggression caution : ℚ)
    (treasury : Option ℤ) :
    (plan.facing strength).rawValue aggression caution treasury =
      (plan.facing 0).rawValue aggression caution treasury -
        strength * (plan.exposureRate caution * (1 - aggression)) := by
  have rate : (plan.facing strength).exposureRate caution = plan.exposureRate caution := rfl
  have rate' : (plan.facing 0).exposureRate caution = plan.exposureRate caution := rfl
  rw [rawValue_rat, rawValue_rat, rate, rate']
  simp only [facing]
  ring

theorem facing_vulnerability (plan : Plan ℚ) : plan.facing plan.vulnerability = plan :=
  rfl

theorem rawValue_eq (plan : Plan ℚ) (aggression caution : ℚ) (treasury : Option ℤ) :
    plan.rawValue aggression caution treasury =
      (plan.facing 0).rawValue aggression caution treasury -
        plan.vulnerability * (plan.exposureRate caution * (1 - aggression)) :=
  plan.rawValue_facing plan.vulnerability aggression caution treasury

/-- Who would be reckless is so all the more against a stronger enemy. -/
theorem Reckless.facing {engaged : List Hex} (reckless : plan.Reckless aggression engaged)
    (stronger : plan.vulnerability ≤ strength) :
    (plan.facing strength).Reckless aggression engaged :=
  { reckless with
    threatened := reckless.threatened.trans_le stronger
    outmatched := reckless.outmatched.trans_le stronger }

/-! ## Dividing by the strength of the enemy -/

theorem footing_facing (safe : plan.leaderThreat = false) (ground : 0 < plan.terrainQuality)
    (threatened : 0 < strength) :
    (plan.facing strength).footing = plan.support / (strength * plan.terrainQuality) := by
  unfold footing
  rw [if_pos]
  · rfl
  · exact ⟨by simp [Plan.facing, safe], mul_pos threatened ground⟩

theorem footing_eq_one (unrelated : plan.vulnerability * plan.terrainQuality ≤ 0) :
    plan.footing = 1 :=
  if_neg fun related => absurd related.2 (not_lt.mpr unrelated)

/-- Of two positive strengths, the larger one makes for the larger quotient just of a loss. -/
theorem div_lt_div_iff_neg {value weaker stronger : ℚ} (positive : 0 < weaker)
    (less : weaker < stronger) : value / weaker < value / stronger ↔ value < 0 := by
  rw [div_lt_div_iff₀ positive (positive.trans less)]
  constructor
  · intro larger
    by_contra gain
    exact absurd (mul_le_mul_of_nonneg_left less.le (not_lt.mp gain)) (not_le.mpr larger)
  · exact mul_lt_mul_of_neg_left less

/-- What is left of a value that is set in relation to the strength of the enemy: its share for each
unit of that strength, less what each of them takes off. -/
theorem related_eq (aggression caution : ℚ) (treasury : Option ℤ)
    (safe : plan.leaderThreat = false) (ground : 0 < plan.terrainQuality)
    (threatened : 0 < strength) :
    (plan.facing strength).rawValue aggression caution treasury *
        (plan.facing strength).footing =
      plan.support / plan.terrainQuality *
        ((plan.facing 0).rawValue aggression caution treasury / strength -
          plan.exposureRate caution * (1 - aggression)) := by
  rw [footing_facing safe ground threatened, rawValue_facing]
  field_simp

/-- The cost of a plan is the same against any enemy. -/
theorem relate_lt_relate_facing_iff {value value' : ℚ} :
    plan.relate value < (plan.facing strength).relate value' ↔
      value * plan.footing < value' * (plan.facing strength).footing := by
  have price : (plan.facing strength).perCost = plan.perCost := rfl
  rw [relate_rat, relate_rat, price, mul_lt_mul_iff_of_pos_right plan.perCost_pos]

/-- Where the attackers cannot be hit, nothing is divided, and a stronger enemy only takes off
more. -/
theorem relate_le_of_flat (nonnegative : plan.Nonnegative) (careful : 0 ≤ caution)
    (bounded : aggression ≤ 1) (flat : plan.terrainQuality = 0)
    (stronger : plan.vulnerability ≤ strength) :
    (plan.facing strength).relate
        ((plan.facing strength).rawValue aggression caution treasury) ≤
      plan.relate (plan.rawValue aggression caution treasury) := by
  have drain : 0 ≤ plan.exposureRate caution * (1 - aggression) :=
    mul_nonneg (exposureRate_nonneg nonnegative careful) (sub_nonneg.mpr bounded)
  have footing : plan.footing = 1 := footing_eq_one (by rw [flat, mul_zero])
  have footing' : (plan.facing strength).footing = 1 :=
    footing_eq_one (by simp [Plan.facing, flat])
  rw [← not_lt, relate_lt_relate_facing_iff, footing, footing', mul_one, mul_one, not_lt,
    rawValue_eq plan, rawValue_facing plan strength]
  exact sub_le_sub_left (mul_le_mul_of_nonneg_right stronger drain) _

/-- A plan that no enemy could reach is not divided, and then it is. -/
theorem relate_lt_iff_of_unreached (safe : plan.leaderThreat = false)
    (ground : 0 < plan.terrainQuality) (unreached : plan.vulnerability = 0)
    (threatened : 0 < strength) :
    plan.relate (plan.rawValue aggression caution treasury) <
        (plan.facing strength).relate
          ((plan.facing strength).rawValue aggression caution treasury) ↔
      (plan.facing 0).rawValue aggression caution treasury * (strength * plan.terrainQuality) <
        (plan.facing strength).rawValue aggression caution treasury * plan.support := by
  have same : plan.facing 0 = plan := by
    rw [← unreached, facing_vulnerability]
  have footing : plan.footing = 1 := footing_eq_one (by rw [unreached, zero_mul])
  rw [relate_lt_relate_facing_iff, footing, mul_one, footing_facing safe ground threatened,
    ← mul_div_assoc, lt_div_iff₀ (mul_pos threatened ground), same]

/-- Otherwise a loss is divided by more than before. -/
theorem relate_lt_iff_of_threatened (nonneg : 0 ≤ plan.support)
    (safe : plan.leaderThreat = false) (ground : 0 < plan.terrainQuality)
    (threatened : 0 < plan.vulnerability) (stronger : plan.vulnerability < strength) :
    plan.relate (plan.rawValue aggression caution treasury) <
        (plan.facing strength).relate
          ((plan.facing strength).rawValue aggression caution treasury) ↔
      0 < plan.support ∧ (plan.facing 0).rawValue aggression caution treasury < 0 := by
  have before := related_eq aggression caution treasury safe ground threatened
  rw [facing_vulnerability] at before
  rw [relate_lt_relate_facing_iff, before,
    related_eq _ _ _ safe ground (threatened.trans stronger)]
  rcases nonneg.eq_or_lt with unsupported | supported
  · rw [← unsupported, zero_div, zero_mul, zero_mul]
    exact iff_of_false (lt_irrefl 0) fun backed => lt_irrefl 0 backed.1
  · rw [and_iff_right supported, mul_lt_mul_iff_of_pos_left (div_pos supported ground),
      sub_lt_sub_iff_right, div_lt_div_iff_neg threatened stronger]

/-! ## The rating -/

/-- The ways in which a stronger enemy makes a plan look better.  Of `plan` that is rated `rating`,
with so much gold forgone, `strength` is what the enemy could bring against it instead. -/
inductive Flattered (plan : Plan ℚ) (strength effective : ℚ) (context : Context ℚ ρ)
    (treasury : Option ℤ) (rating : ℚ) : Prop where
  /-- The plan is worth less than a rejection, and now it is rejected. -/
  | spared (accepted : ¬ plan.Reckless effective context.engaged)
      (rejected : (plan.facing strength).Reckless effective context.engaged)
      (poor : rating < Plan.rejected)
  /-- The plan is a loss even without any enemy, and the loss is divided by a larger number. -/
  | diluted (accepted : ¬ (plan.facing strength).Reckless effective context.engaged)
      (ground : 0 < plan.terrainQuality) (threatened : 0 < plan.vulnerability)
      (supported : 0 < plan.support)
      (loss : (plan.facing 0).rawValue effective context.personality.caution treasury < 0)
  /-- The plan was not set in relation to any enemy, and now that it is, that does it good. -/
  | related (accepted : ¬ (plan.facing strength).Reckless effective context.engaged)
      (ground : 0 < plan.terrainQuality) (unreached : plan.vulnerability = 0)
      (gain : (plan.facing 0).rawValue effective context.personality.caution treasury *
          (strength * plan.terrainQuality) <
        (plan.facing strength).rawValue effective context.personality.caution treasury *
          plan.support)

theorem caution_nonneg_of_validated {personality : Personality ℚ}
    (validated : personality.flaw? = none) : 0 ≤ personality.caution := by
  unfold Personality.flaw? at validated
  by_cases flawed : Personality.isFraction personality.aggression = true
  · rw [if_neg (not_not.mpr flawed)] at validated
    by_cases flawed' : Personality.isFraction personality.caution = true
    · unfold Personality.isFraction at flawed'
      rw [Scalar.rat_zero, Bool.and_eq_true] at flawed'
      exact of_decide_eq_true flawed'.1
    · rw [if_pos flawed'] at validated
      cases validated
  · rw [if_pos flawed] at validated
    cases validated

/-- Where a leader is threatened, the strength of the enemy is disregarded. -/
theorem verdict_facing (leader : plan.leaderThreat = true) (context : Context ℚ ρ) :
    (plan.facing strength).verdict aggression context treasury =
      plan.verdict aggression context treasury := by
  have effective : ∀ plan : Plan ℚ, plan.leaderThreat = true →
      plan.effectiveAggression aggression context.personality.caution = 1 := by
    intro plan leader
    rw [effectiveAggression_rat, if_pos leader]
  have footing : ∀ plan : Plan ℚ, plan.leaderThreat = true → plan.footing = 1 :=
    fun plan leader => if_neg fun related => related.1 leader
  have value : ∀ plan : Plan ℚ, plan.leaderThreat = true →
      plan.verdict aggression context treasury =
        plan.rawValue 1 context.personality.caution treasury * plan.perCost := by
    intro plan leader
    have accepted : ¬ plan.Reckless
        (plan.effectiveAggression aggression context.personality.caution) context.engaged :=
      fun reckless => reckless.hesitant.ne (effective plan leader)
    rw [verdict_of_not_reckless accepted, effective plan leader, relate_rat, footing plan leader,
      mul_one]
  have price : (plan.facing strength).perCost = plan.perCost := rfl
  rw [value plan leader, value (plan.facing strength) leader, price, rawValue_eq plan,
    rawValue_facing plan strength, sub_self, mul_zero, mul_zero, mul_zero]

/-- Where no leader is threatened, these are all the ways there are. -/
theorem verdict_lt_iff_flattered (nonnegative : plan.Nonnegative)
    (stronger : plan.vulnerability < strength) {context : Context ℚ ρ}
    (careful : 0 ≤ context.personality.caution) (bounded : aggression ≤ 1)
    (safe : plan.leaderThreat = false) :
    plan.verdict aggression context treasury <
        (plan.facing strength).verdict aggression context treasury ↔
      plan.Flattered strength (plan.effectiveAggression aggression context.personality.caution)
        context treasury (plan.verdict aggression context treasury) := by
  have bounded' := plan.effectiveAggression_le_one context.personality.caution bounded
  by_cases reckless : plan.Reckless
      (plan.effectiveAggression aggression context.personality.caution) context.engaged
  · have reckless' := reckless.facing stronger.le
    rw [verdict_of_reckless reckless, verdict_of_reckless reckless']
    refine iff_of_false (lt_irrefl _) ?_
    intro flattered
    cases flattered with
    | spared accepted => exact accepted reckless
    | diluted accepted => exact accepted reckless'
    | related accepted => exact accepted reckless'
  · by_cases reckless' : (plan.facing strength).Reckless
        (plan.effectiveAggression aggression context.personality.caution) context.engaged
    · rw [verdict_of_reckless reckless']
      constructor
      · exact fun poor => .spared reckless reckless' poor
      · intro flattered
        cases flattered with
        | spared _ _ poor => exact poor
        | diluted accepted => exact absurd reckless' accepted
        | related accepted => exact absurd reckless' accepted
    · constructor
      · intro higher
        rw [verdict_of_not_reckless reckless, verdict_of_not_reckless reckless'] at higher
        rcases nonnegative.terrainQuality.eq_or_lt with flat | ground
        · exact absurd higher (not_lt.mpr
            (relate_le_of_flat nonnegative careful bounded' flat.symm stronger.le))
        · rcases nonnegative.vulnerability.eq_or_lt with unreached | threatened
          · exact .related reckless' ground unreached.symm
              ((relate_lt_iff_of_unreached safe ground unreached.symm
                (unreached.trans_lt stronger)).mp higher)
          · rcases (relate_lt_iff_of_threatened nonnegative.support safe ground threatened
              stronger).mp higher with ⟨supported, loss⟩
            exact .diluted reckless' ground threatened supported loss
      · intro flattered
        rw [verdict_of_not_reckless reckless, verdict_of_not_reckless reckless']
        cases flattered with
        | spared _ rejected => exact absurd rejected reckless'
        | diluted _ ground threatened supported loss =>
            exact (relate_lt_iff_of_threatened nonnegative.support safe ground threatened
              stronger).mpr ⟨supported, loss⟩
        | related _ ground unreached gain =>
            exact (relate_lt_iff_of_unreached safe ground unreached
              (unreached.symm.trans_lt stronger)).mpr gain

/-- A stronger enemy leaves the rating of a plan as it is or lowers it, unless the plan is worth
less than the rejection that it now gets, or is a loss that is now divided by more, or was out of
reach of every enemy and gains by being set in relation to one.  In these cases it raises the
rating, as long as no leader is threatened. -/
theorem rate_lt_iff_flattered (nonnegative : plan.Nonnegative)
    (stronger : plan.vulnerability < strength) {context : Context ℚ ρ}
    (validated : context.personality.flaw? = none) (bounded : aggression ≤ 1) {rating : ℚ}
    (rated : plan.rate aggression context = .ok rating) :
    ∃ treasury other, plan.forgone context = .ok treasury ∧
      (plan.facing strength).rate aggression context = .ok other ∧
      (rating < other ↔
        plan.leaderThreat = false ∧
          plan.Flattered strength
            (plan.effectiveAggression aggression context.personality.caution) context treasury
            rating) := by
  rw [rate_eq] at rated ⊢
  have forgone : (plan.facing strength).forgone context = plan.forgone context := rfl
  rw [forgone]
  cases gold : plan.forgone context with
  | error fault =>
      rw [gold] at rated
      cases rated
  | ok treasury =>
      rw [gold] at rated
      cases rated
      refine ⟨treasury, _, rfl, rfl, ?_⟩
      cases leader : plan.leaderThreat with
      | true =>
          rw [verdict_facing leader]
          exact iff_of_false (lt_irrefl _) fun flattered => Bool.noConfusion flattered.1
      | false =>
          rw [and_iff_right rfl]
          exact verdict_lt_iff_flattered nonnegative stronger
            (caution_nonneg_of_validated validated) bounded leader

/-- A plan without a chance to kill, on ground that is as good as any. -/
def forlornHope : Plan ℚ :=
  { (against ⟨1⟩ ⟨1, 0⟩) with
    movements := [(⟨0⟩, ⟨0, 0⟩)]
    targetValue := 20, averageLosses := 10, resourcesUsed := 20
    terrainQuality := 3 / 5, alternativeTerrainQuality := 3 / 5, vulnerability := 5, support := 4 }

theorem nonnegative_forlornHope : forlornHope.Nonnegative := by
  constructor <;> decide +kernel

/-- Against twice the enemy strength it is rated half as badly. -/
theorem forlornHope_against_more :
    exactSkirmish.personality.flaw? = none ∧ forlornHope.Nonnegative ∧
      (forlornHope.facing 10).Nonnegative ∧ forlornHope.vulnerability < 10 ∧
      forlornHope.rate exactSkirmish.personality.aggression exactSkirmish = .ok (-1 / 2) ∧
      (forlornHope.facing 10).rate exactSkirmish.personality.aggression exactSkirmish =
        .ok (-1 / 4) ∧
      ¬ ((-1 / 4 : ℚ) ≤ -1 / 2) := by
  refine ⟨?_, nonnegative_forlornHope, nonnegative_forlornHope.facing ?_, ?_,
    eq_ok_of_toOption ?_, eq_ok_of_toOption ?_, ?_⟩ <;> decide +kernel

theorem rate_lt_iff_flattered_forlornHope :
    ∃ other, (forlornHope.facing 10).rate (2 / 5) exactSkirmish = .ok other ∧ -1 / 2 < other := by
  have rated : forlornHope.rate (2 / 5) exactSkirmish = .ok (-1 / 2) :=
    eq_ok_of_toOption (by decide +kernel)
  have stronger : forlornHope.vulnerability < 10 := by decide +kernel
  rcases rate_lt_iff_flattered nonnegative_forlornHope stronger (by decide +kernel)
      (by decide +kernel) rated with ⟨treasury, other, forgone, rated', iff⟩
  refine ⟨other, rated', iff.mpr ⟨rfl, .diluted ?_ ?_ ?_ ?_ ?_⟩⟩
  · intro reckless
    exact absurd reckless.threatened (by decide +kernel)
  · decide +kernel
  · decide +kernel
  · decide +kernel
  · cases forgone
    decide +kernel

end Plan
end Hexfield
