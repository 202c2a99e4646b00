import Mathlib
import Hexfield.Plan.Rating
import Hexfield.Proofs.Odds.Tail
import Hexfield.Proofs.Plan.Undisturbed

namespace Hexfield

/-!
What a plan is worth in exact arithmetic, and that a better outcome is never worth less.

Read over the rational numbers, a rating is one linear expression in the outcome of the plan, times
two factors that the outcome does not enter.  The outcome does enter three conditions: whether the
leader in the plan is bound by caution, whether the plan is reckless, and whether it is cornered, so
that recklessness is forgiven.  Each of them is moved by a better outcome in the direction that
raises the rating, as long as the plan was not rejected before.
-/

namespace Plan

variable {ρ : Type}

section

variable {α : Type} [Scalar α]

/-- The gold that is left to spend if a leader fights who could recruit. -/
def forgone (plan : Plan α) (context : Context α ρ) : Except Fault (Option ℤ) :=
  if plan.usesLeader && !plan.leaderThreat then
    (plan.leaderCouldRecruit context).map fun recruits =>
      if recruits then some (context.field.teams.gold context.side) else none
  else
    .ok none

/-- The rating of a plan for which so much gold is forgone. -/
def verdict (plan : Plan α) (aggression : α) (context : Context α ρ) (treasury : Option ℤ) : α :=
  let caution := context.personality.caution
  let effective := plan.effectiveAggression aggression caution
  if plan.isReckless effective context.engaged then rejected
  else plan.relate (plan.rawValue effective caution treasury)

theorem rate_eq (plan : Plan α) (aggression : α) (context : Context α ρ) :
    plan.rate aggression context =
      (plan.forgone context).map (plan.verdict aggression context) := by
  unfold rate forgone
  by_cases involved : (plan.usesLeader && !plan.leaderThreat) = true
  · rw [if_pos involved]
    simp only [if_pos involved]
    cases plan.leaderCouldRecruit context with
    | error fault => rfl
    | ok recruits => exact (apply_ite Except.ok _ _ _).symm
  · rw [if_neg involved]
    simp only [if_neg involved]
    exact (apply_ite Except.ok _ _ _).symm

end

/-! ## The rating in exact arithmetic -/

variable {plan : Plan ℚ} {aggression caution : ℚ}

/-- None of the quantities of a plan is negative. -/
structure Nonnegative (plan : Plan ℚ) : Prop where
  targetValue : 0 ≤ plan.targetValue
  averageLosses : 0 ≤ plan.averageLosses
  chanceToKill : 0 ≤ plan.chanceToKill
  averageDamageInflicted : 0 ≤ plan.averageDamageInflicted
  averageDamageTaken : 0 ≤ plan.averageDamageTaken
  resourcesUsed : 0 ≤ plan.resourcesUsed
  terrainQuality : 0 ≤ plan.terrainQuality
  alternativeTerrainQuality : 0 ≤ plan.alternativeTerrainQuality
  vulnerability : 0 ≤ plan.vulnerability
  support : 0 ≤ plan.support

theorem effectiveAggression_rat (plan : Plan ℚ) (aggression caution : ℚ) :
    plan.effectiveAggression aggression caution =
      if plan.leaderThreat then 1
      else if plan.usesLeader ∧ ¬ (9 / 10 ≤ plan.chanceToKill ∧ plan.averageLosses = 0) then
        min aggression caution
      else aggression := by
  have sure : @OfScientific.ofScientific ℚ Scalar.toOfScientific 9 true 1 = 9 / 10 :=
    Scalar.rat_decimal 9 1 (by norm_num)
  have none : (@BEq.beq ℚ Scalar.toBEq plan.averageLosses 0 = true) ↔ plan.averageLosses = 0 :=
    beq_iff_eq
  unfold effectiveAggression
  rw [Scalar.rat_one, Scalar.rat_zero, sure, Scalar.smaller_rat]
  simp only [none]

/-- What each unit of enemy strength costs a plan that leaves better cover, in the eyes of someone
without any aggression. -/
def exposureRate (plan : Plan ℚ) (caution : ℚ) : ℚ :=
  if plan.alternativeTerrainQuality < plan.terrainQuality then
    (if plan.usesLeader then 2 else caution) * plan.resourcesUsed *
      (plan.terrainQuality - plan.alternativeTerrainQuality) / max plan.support (1 / 100)
  else 0

/-- The cost of the attackers, where it is the higher the worse their ground is. -/
def costOnGround (plan : Plan ℚ) : ℚ :=
  plan.resourcesUsed / 2 + plan.resourcesUsed / 2 * plan.terrainQuality

/-- The factor by which a value is set in relation to support and threat. -/
def footing (plan : Plan ℚ) : ℚ :=
  if ¬ plan.leaderThreat ∧ 0 < plan.vulnerability * plan.terrainQuality then
    plan.support / (plan.vulnerability * plan.terrainQuality)
  else 1

/-- The factor by which a value is set in relation to cost; it is five times as high where a leader
is threatened. -/
def perCost (plan : Plan ℚ) : ℚ :=
  (if plan.leaderThreat then 5 else 1) / (if 0 < plan.costOnGround then plan.costOnGround else 1)

theorem exposure_rat (plan : Plan ℚ) (caution : ℚ) :
    plan.exposure caution =
      (if plan.usesLeader then 2 else caution) * plan.resourcesUsed *
        (plan.terrainQuality - plan.alternativeTerrainQuality) * plan.vulnerability /
          max plan.support (1 / 100) := by
  have two : @OfScientific.ofScientific ℚ Scalar.toOfScientific 20 true 1 = 2 :=
    Scalar.rat_decimal 20 1 (by norm_num)
  have hundredth : @OfScientific.ofScientific ℚ Scalar.toOfScientific 1 true 2 = 1 / 100 :=
    Scalar.rat_decimal 1 2 (by norm_num)
  unfold exposure
  rw [two, hundredth, Scalar.larger_rat]

theorem damageBalance_rat (plan : Plan ℚ) (aggression : ℚ) :
    plan.damageBalance aggression =
      plan.targetStartingDamage / 3 + plan.averageDamageInflicted -
        (1 - aggression) * plan.averageDamageTaken := by
  have three : @OfScientific.ofScientific ℚ Scalar.toOfScientific 30 true 1 = 3 :=
    Scalar.rat_decimal 30 1 (by norm_num)
  unfold damageBalance
  rw [three, Scalar.rat_one]
  rfl

/-- The value of a plan is linear in its outcome, and in the strength of the enemy. -/
theorem rawValue_rat (plan : Plan ℚ) (aggression caution : ℚ) (treasury : Option ℤ) :
    plan.rawValue aggression caution treasury =
      plan.chanceToKill * plan.targetValue - plan.averageLosses * (1 - aggression) -
        plan.vulnerability * plan.exposureRate caution * (1 - aggression) -
        (treasury.getD 0 : ℤ) / 2 +
        (plan.targetStartingDamage / 3 + plan.averageDamageInflicted -
          (1 - aggression) * plan.averageDamageTaken) / 10 := by
  have half : @OfScientific.ofScientific ℚ Scalar.toOfScientific 5 true 1 = 1 / 2 :=
    Scalar.rat_decimal 5 1 (by norm_num)
  have ten : @OfScientific.ofScientific ℚ Scalar.toOfScientific 100 true 1 = 10 :=
    Scalar.rat_decimal 100 1 (by norm_num)
  have exposed : (if plan.alternativeTerrainQuality < plan.terrainQuality then
      plan.chanceToKill * plan.targetValue - plan.averageLosses * (1 - aggression) -
        plan.exposure caution * (1 - aggression)
      else plan.chanceToKill * plan.targetValue - plan.averageLosses * (1 - aggression)) =
      plan.chanceToKill * plan.targetValue - plan.averageLosses * (1 - aggression) -
        plan.vulnerability * plan.exposureRate caution * (1 - aggression) := by
    unfold exposureRate
    by_cases better : plan.alternativeTerrainQuality < plan.terrainQuality
    · rw [if_pos better, if_pos better, exposure_rat]
      ring
    · rw [if_neg better, if_neg better]
      ring
  unfold rawValue
  simp only [half, ten, Scalar.rat_one, damageBalance_rat]
  rw [← exposed]
  cases treasury with
  | none => simp
  | some gold =>
      change _ - (gold : ℚ) * (1 / 2) + _ = _ - (gold : ℚ) / 2 + _
      rw [mul_one_div]

theorem relate_rat (plan : Plan ℚ) (value : ℚ) :
    plan.relate value = value * plan.footing * plan.perCost := by
  have two : @OfScientific.ofScientific ℚ Scalar.toOfScientific 20 true 1 = 2 :=
    Scalar.rat_decimal 20 1 (by norm_num)
  have five : @OfScientific.ofScientific ℚ Scalar.toOfScientific 50 true 1 = 5 :=
    Scalar.rat_decimal 50 1 (by norm_num)
  have supported : (if ¬ plan.leaderThreat ∧ 0 < plan.vulnerability * plan.terrainQuality then
      value * (plan.support / (plan.vulnerability * plan.terrainQuality)) else value) =
      value * plan.footing := by
    unfold footing
    split
    · rfl
    · exact (mul_one value).symm
  have normalized : ∀ supported : ℚ,
      (if 0 < plan.costOnGround then supported / plan.costOnGround else supported) =
        supported / (if 0 < plan.costOnGround then plan.costOnGround else 1) := by
    intro supported
    split
    · rfl
    · exact (div_one supported).symm
  have fivefold : ∀ normalized : ℚ,
      (if plan.leaderThreat then normalized * 5 else normalized) =
        normalized * (if plan.leaderThreat then 5 else 1) := by
    intro normalized
    split
    · rfl
    · exact (mul_one normalized).symm
  unfold relate perCost
  rw [two, five, Scalar.rat_zero, mul_div_assoc', mul_div_right_comm, ← fivefold, ← normalized,
    ← supported]
  rfl

/-- The attackers would stand in overwhelming threat with hardly a chance to kill, hesitantly and
far from any other attack of the side.  They are not cornered, or else could be helped and have
something to fear. -/
structure Reckless (plan : Plan ℚ) (aggression : ℚ) (engaged : List Hex) : Prop where
  free : plan.isSurrounded = false ∨ plan.support ≠ 0 ∧ plan.averageDamageTaken ≠ 0
  threatened : 50 < plan.vulnerability
  outmatched : plan.support * 2 < plan.vulnerability
  hopeless : plan.chanceToKill < 1 / 50
  hesitant : aggression < 1
  alone : plan.engagementNearby engaged = false

theorem isReckless_iff {engaged : List Hex} :
    plan.isReckless aggression engaged = true ↔ plan.Reckless aggression engaged := by
  have two : @OfScientific.ofScientific ℚ Scalar.toOfScientific 20 true 1 = 2 :=
    Scalar.rat_decimal 20 1 (by norm_num)
  have fifty : @OfScientific.ofScientific ℚ Scalar.toOfScientific 500 true 1 = 50 :=
    Scalar.rat_decimal 500 1 (by norm_num)
  have fiftieth : @OfScientific.ofScientific ℚ Scalar.toOfScientific 2 true 2 = 1 / 50 :=
    Scalar.rat_decimal 2 2 (by norm_num)
  have zero : ∀ x : ℚ, @BEq.beq ℚ Scalar.toBEq x 0 = decide (x = 0) := fun _ => rfl
  unfold isReckless
  rw [two, fifty, fiftieth, Scalar.rat_zero, Scalar.rat_one]
  simp only [zero, Bool.and_eq_true, Bool.or_eq_true, Bool.not_eq_true', decide_eq_true_eq,
    decide_eq_false_iff_not]
  constructor
  · rintro ⟨⟨⟨⟨⟨free, threatened⟩, outmatched⟩, hopeless⟩, hesitant⟩, alone⟩
    exact ⟨free, threatened, outmatched, hopeless, hesitant, alone⟩
  · rintro ⟨free, threatened, outmatched, hopeless, hesitant, alone⟩
    exact ⟨⟨⟨⟨⟨free, threatened⟩, outmatched⟩, hopeless⟩, hesitant⟩, alone⟩

section

variable {context : Context ℚ ρ} {treasury : Option ℤ}

theorem verdict_of_reckless
    (reckless : plan.Reckless (plan.effectiveAggression aggression context.personality.caution)
      context.engaged) : plan.verdict aggression context treasury = rejected :=
  if_pos (isReckless_iff.mpr reckless)

theorem verdict_of_not_reckless
    (accepted : ¬ plan.Reckless
      (plan.effectiveAggression aggression context.personality.caution) context.engaged) :
    plan.verdict aggression context treasury =
      plan.relate (plan.rawValue
        (plan.effectiveAggression aggression context.personality.caution)
        context.personality.caution treasury) :=
  if_neg fun veto => accepted (isReckless_iff.mp veto)

end

/-! ## Signs -/

theorem exposureRate_nonneg (nonnegative : plan.Nonnegative) (careful : 0 ≤ caution) :
    0 ≤ plan.exposureRate caution := by
  unfold exposureRate
  by_cases better : plan.alternativeTerrainQuality < plan.terrainQuality
  · rw [if_pos better]
    have weight : (0 : ℚ) ≤ if plan.usesLeader then 2 else caution := by
      split
      · norm_num
      · exact careful
    have support : 0 ≤ max plan.support (1 / 100) := le_max_of_le_left nonnegative.support
    exact div_nonneg
      (mul_nonneg (mul_nonneg weight nonnegative.resourcesUsed) (sub_nonneg.mpr better.le)) support
  · rw [if_neg better]

theorem footing_nonneg (nonnegative : plan.Nonnegative) : 0 ≤ plan.footing := by
  unfold footing
  split
  · exact div_nonneg nonnegative.support
      (mul_nonneg nonnegative.vulnerability nonnegative.terrainQuality)
  · norm_num

theorem perCost_pos (plan : Plan ℚ) : 0 < plan.perCost := by
  unfold perCost
  apply div_pos
  · split <;> norm_num
  · split
    · assumption
    · norm_num

theorem relate_le_relate (nonnegative : plan.Nonnegative) {value value' : ℚ} (le : value ≤ value') :
    plan.relate value ≤ plan.relate value' := by
  rw [relate_rat, relate_rat]
  exact mul_le_mul_of_nonneg_right (mul_le_mul_of_nonneg_right le (footing_nonneg nonnegative))
    plan.perCost_pos.le

theorem effectiveAggression_le_one (plan : Plan ℚ) (caution : ℚ) (bounded : aggression ≤ 1) :
    plan.effectiveAggression aggression caution ≤ 1 := by
  rw [effectiveAggression_rat]
  split
  · exact le_refl 1
  · split
    · exact (min_le_left aggression caution).trans bounded
    · exact bounded

/-! ## Better outcomes -/

/-- The outcome of one plan is at least as good as that of another, and nothing else is
different. -/
structure Outdoes (second first : Plan ℚ) : Prop where
  otherwise : second =
    { first with
      chanceToKill := second.chanceToKill
      averageLosses := second.averageLosses
      averageDamageInflicted := second.averageDamageInflicted
      averageDamageTaken := second.averageDamageTaken }
  chanceToKill : first.chanceToKill ≤ second.chanceToKill
  averageLosses : second.averageLosses ≤ first.averageLosses
  averageDamageInflicted : first.averageDamageInflicted ≤ second.averageDamageInflicted
  averageDamageTaken : second.averageDamageTaken ≤ first.averageDamageTaken

namespace Outdoes

variable {first second : Plan ℚ}

/-- Whoever is not bound by caution with the worse outcome is not with the better one. -/
theorem effectiveAggression_le (outdoes : second.Outdoes first) (nonneg : 0 ≤ second.averageLosses)
    (aggression caution : ℚ) :
    first.effectiveAggression aggression caution ≤
      second.effectiveAggression aggression caution := by
  have leaderThreat : second.leaderThreat = first.leaderThreat := by rw [outdoes.otherwise]
  have usesLeader : second.usesLeader = first.usesLeader := by rw [outdoes.otherwise]
  rw [effectiveAggression_rat, effectiveAggression_rat, leaderThreat, usesLeader]
  by_cases threat : first.leaderThreat = true
  · rw [if_pos threat, if_pos threat]
  · rw [if_neg threat, if_neg threat]
    by_cases bound : first.usesLeader = true ∧
        ¬ (9 / 10 ≤ first.chanceToKill ∧ first.averageLosses = 0)
    · rw [if_pos bound]
      split
      · exact le_refl _
      · exact min_le_left aggression caution
    · rw [if_neg bound, if_neg]
      rintro ⟨leader, unsure⟩
      apply bound
      refine ⟨leader, ?_⟩
      rintro ⟨sure, free⟩
      exact unsure ⟨sure.trans outdoes.chanceToKill,
        le_antisymm (outdoes.averageLosses.trans free.le) nonneg⟩

theorem reckless (outdoes : second.Outdoes first) (nonneg : 0 ≤ second.averageDamageTaken)
    {effective effective' : ℚ} (le : effective ≤ effective') {engaged : List Hex}
    (reckless : second.Reckless effective' engaged) : first.Reckless effective engaged := by
  have isSurrounded : second.isSurrounded = first.isSurrounded := by rw [outdoes.otherwise]
  have support : second.support = first.support := by rw [outdoes.otherwise]
  have vulnerability : second.vulnerability = first.vulnerability := by rw [outdoes.otherwise]
  have targetHex : second.targetHex = first.targetHex := by rw [outdoes.otherwise]
  refine ⟨?_, vulnerability ▸ reckless.threatened, support ▸ vulnerability ▸ reckless.outmatched,
    outdoes.chanceToKill.trans_lt reckless.hopeless, le.trans_lt reckless.hesitant, ?_⟩
  · rw [← isSurrounded, ← support]
    refine reckless.free.imp_right fun fearful => ⟨fearful.1, ?_⟩
    exact ((lt_of_le_of_ne nonneg fearful.2.symm).trans_le outdoes.averageDamageTaken).ne'
  · have alone := reckless.alone
    unfold engagementNearby at alone ⊢
    rw [targetHex] at alone
    exact alone

theorem rawValue_le (outdoes : second.Outdoes first) (nonnegative : first.Nonnegative)
    (nonneg : 0 ≤ second.averageDamageTaken) {effective effective' : ℚ}
    (le : effective ≤ effective') (bounded : effective' ≤ 1) (careful : 0 ≤ caution)
    (treasury : Option ℤ) :
    first.rawValue effective caution treasury ≤ second.rawValue effective' caution treasury := by
  have targetValue : second.targetValue = first.targetValue := by rw [outdoes.otherwise]
  have vulnerability : second.vulnerability = first.vulnerability := by rw [outdoes.otherwise]
  have starting : second.targetStartingDamage = first.targetStartingDamage := by
    rw [outdoes.otherwise]
  have exposureRate : second.exposureRate caution = first.exposureRate caution := by
    rw [outdoes.otherwise]
    rfl
  have regard : 0 ≤ 1 - effective' := sub_nonneg.mpr bounded
  have less : 1 - effective' ≤ 1 - effective := sub_le_sub_left le 1
  rw [rawValue_rat, rawValue_rat, targetValue, vulnerability, starting, exposureRate]
  have kill : first.chanceToKill * first.targetValue ≤ second.chanceToKill * first.targetValue :=
    mul_le_mul_of_nonneg_right outdoes.chanceToKill nonnegative.targetValue
  have losses : second.averageLosses * (1 - effective') ≤
      first.averageLosses * (1 - effective) :=
    mul_le_mul outdoes.averageLosses less regard nonnegative.averageLosses
  have exposure : first.vulnerability * first.exposureRate caution * (1 - effective') ≤
      first.vulnerability * first.exposureRate caution * (1 - effective) :=
    mul_le_mul_of_nonneg_left less
      (mul_nonneg nonnegative.vulnerability (exposureRate_nonneg nonnegative careful))
  have taken : (1 - effective') * second.averageDamageTaken ≤
      (1 - effective) * first.averageDamageTaken :=
    mul_le_mul less outdoes.averageDamageTaken nonneg (regard.trans less)
  have inflicted := outdoes.averageDamageInflicted
  linarith

end Outdoes

/-- A plan that is rated higher than a rejection is rated no lower with a better outcome. -/
theorem rate_le_of_outdoes {first second : Plan ℚ} (nonnegative : first.Nonnegative)
    (nonnegative' : second.Nonnegative) (outdoes : second.Outdoes first) {context : Context ℚ ρ}
    (careful : 0 ≤ context.personality.caution) {aggression : ℚ} (bounded : aggression ≤ 1)
    {rating : ℚ} (rated : first.rate aggression context = .ok rating)
    (accepted : rejected < rating) :
    ∃ better, second.rate aggression context = .ok better ∧ rating ≤ better := by
  rw [rate_eq] at rated ⊢
  have forgone : second.forgone context = first.forgone context := by
    rw [outdoes.otherwise]
    rfl
  rw [forgone]
  cases gold : first.forgone context with
  | error fault =>
      rw [gold] at rated
      cases rated
  | ok treasury =>
      rw [gold] at rated
      cases rated
      refine ⟨second.verdict aggression context treasury, rfl, ?_⟩
      have le := outdoes.effectiveAggression_le nonnegative'.averageLosses aggression
        context.personality.caution
      by_cases reckless : first.Reckless
          (first.effectiveAggression aggression context.personality.caution) context.engaged
      · rw [verdict_of_reckless reckless] at accepted
        exact absurd accepted (lt_irrefl _)
      · have reckless' : ¬ second.Reckless
            (second.effectiveAggression aggression context.personality.caution) context.engaged :=
          fun veto => reckless (outdoes.reckless nonnegative'.averageDamageTaken le veto)
        have related : ∀ value : ℚ, second.relate value = first.relate value := by
          intro value
          rw [outdoes.otherwise]
          rfl
        rw [verdict_of_not_reckless reckless, verdict_of_not_reckless reckless', related]
        have higher := outdoes.rawValue_le nonnegative nonnegative'.averageDamageTaken le
          (second.effectiveAggression_le_one _ bounded) careful treasury
        exact relate_le_relate nonnegative higher

theorem eq_ok_of_toOption {answer : Except Fault ℚ} {value : ℚ}
    (answered : answer.toOption = some value) : answer = .ok value := by
  cases answer with
  | error fault => cases answered
  | ok other =>
      cases answered
      rfl

/-- The raider plans in exact arithmetic. -/
def exactSkirmish : Context ℚ (List Roll) :=
  .begin .skirmish ⟨1⟩ (.ofName "Raiders") .terrain [] []

/-- A plan that leads the raiders' leader out of cover. -/
def sortie : Plan ℚ :=
  { (against ⟨1⟩ ⟨1, 0⟩) with
    movements := [(⟨0⟩, ⟨0, 0⟩)]
    targetValue := 20, chanceToKill := 1 / 2, averageLosses := 10
    averageDamageInflicted := 8, averageDamageTaken := 6, resourcesUsed := 20
    terrainQuality := 3 / 5, alternativeTerrainQuality := 2 / 5, vulnerability := 12, support := 6
    usesLeader := true }

theorem nonnegative_sortie : sortie.Nonnegative := by
  constructor <;> decide +kernel

/-- Once the kill is almost sure and costs nothing, the leader no longer has to be cautious. -/
theorem rate_le_of_outdoes_sortie :
    sortie.rate (2 / 5) exactSkirmish = .ok (-61 / 128) ∧
      ∃ better,
        { sortie with chanceToKill := 19 / 20, averageLosses := 0 }.rate (2 / 5) exactSkirmish =
          .ok better ∧
        -61 / 128 ≤ better := by
  have rated : sortie.rate (2 / 5) exactSkirmish = .ok (-61 / 128) :=
    eq_ok_of_toOption (by decide +kernel)
  refine ⟨rated, rate_le_of_outdoes nonnegative_sortie ?_ ?_ ?_ ?_ rated ?_⟩
  · constructor <;> decide +kernel
  · refine ⟨rfl, ?_, ?_, ?_, ?_⟩ <;> decide +kernel
  · decide +kernel
  · decide +kernel
  · decide +kernel

end Plan
end Hexfield
