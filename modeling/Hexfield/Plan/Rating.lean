import Hexfield.Plan
import Hexfield.Plan.Context

namespace Hexfield
namespace Plan

/-!
One number for what a plan is worth.

The rating starts from the value of the kill less the losses, takes off for exposed ground and for a
leader who had better recruit, adds something for damage, and is then set in relation to support,
threat and cost.  A plan that must not be carried out is rated `Plan.rejected`.
-/

variable {α ρ : Type} [Scalar α]

/-- The treasury above which a leader had better recruit than fight. -/
def recruitingGold : Int := 20

/-- Attacks of the own side nearer than this to the target belong to the same engagement. -/
def engagementRadius : Nat := 4

/-- The aggression with which a plan is rated.  Where a leader is threatened nothing else counts;
where one takes part, caution is its bound, unless the kill is almost sure and costs nothing. -/
@[specialize] def effectiveAggression (plan : Plan α) (aggression caution : α) : α :=
  if plan.leaderThreat then 1.0
  else if plan.usesLeader ∧ ¬ (0.9 ≤ plan.chanceToKill ∧ plan.averageLosses == 0.0) then
    Scalar.smaller aggression caution
  else
    aggression

/-- What is taken off for leaving better cover: the more is at stake, the worse the ground is, and
the more the enemy can bring onto it compared with the own side. -/
@[specialize] def exposure (plan : Plan α) (caution : α) : α :=
  let weight := if plan.usesLeader then 2.0 else caution
  weight * plan.resourcesUsed * (plan.terrainQuality - plan.alternativeTerrainQuality) *
    plan.vulnerability / Scalar.larger plan.support 0.01

/-- The target's damage so far and the damage dealt, less the damage taken. -/
@[specialize] def damageBalance (plan : Plan α) (aggression : α) : α :=
  (Scalar.ofNat plan.targetStartingDamage / 3.0 + plan.averageDamageInflicted) -
    (1.0 - aggression) * plan.averageDamageTaken

/-- A leader among the attackers could be back on a keep in this turn, and there is gold to
spend. -/
def leaderCouldRecruit (plan : Plan α) (context : Context α ρ) : Except Fault Bool :=
  if context.field.teams.gold context.side ≤ recruitingGold then .ok false
  else search context.field.board.keeps plan.attackers
where
  search (keeps : List Hex) : List UnitId → Except Fault Bool
    | [] => .ok false
    | attacker :: others => do
        let unit ← context.field.unit attacker
        if unit.canRecruit &&
            (context.ownMoves.destinations attacker).any (Halving.contains keeps) then
          pure true
        else
          search keeps others

/-- The own side has attacked near the target before. -/
def engagementNearby (plan : Plan α) (engaged : List Hex) : Bool :=
  engaged.any fun hex => hex.distance plan.targetHex < engagementRadius

/-- The attackers would stand in overwhelming threat without a real chance to kill, and nothing
speaks for it.  A cornered attacker that could not be helped anyway is not held back. -/
@[specialize] def isReckless (plan : Plan α) (aggression : α) (engaged : List Hex) : Bool :=
  (!plan.isSurrounded || (!(plan.support == 0.0) && !(plan.averageDamageTaken == 0.0))) &&
    decide (50.0 < plan.vulnerability) && decide (plan.support * 2.0 < plan.vulnerability) &&
    decide (plan.chanceToKill < 0.02) && decide (aggression < 1.0) &&
    !plan.engagementNearby engaged

/-- The value of a plan before it is set in relation to anything. -/
@[specialize] def rawValue (plan : Plan α) (aggression caution : α) (treasury : Option Int) : α :=
  let kill := plan.chanceToKill * plan.targetValue - plan.averageLosses * (1.0 - aggression)
  let covered :=
    if plan.alternativeTerrainQuality < plan.terrainQuality then
      kill - plan.exposure caution * (1.0 - aggression)
    else
      kill
  let spent :=
    match treasury with
    | some gold => covered - Scalar.ofInt gold * 0.5
    | none => covered
  spent + plan.damageBalance aggression / 10.0

/-- A value in relation to support, threat and cost. -/
@[specialize] def relate (plan : Plan α) (value : α) : α :=
  let threat := plan.vulnerability * plan.terrainQuality
  let supported :=
    if ¬ plan.leaderThreat ∧ 0.0 < threat then value * (plan.support / threat) else value
  let cost :=
    plan.resourcesUsed / 2.0 + plan.resourcesUsed / 2.0 * plan.terrainQuality
  let normalized := if 0.0 < cost then supported / cost else supported
  if plan.leaderThreat then normalized * 5.0 else normalized

@[specialize] def rate (plan : Plan α) (aggression : α) (context : Context α ρ) :
    Except Fault α := do
  let caution := context.personality.caution
  let aggression := plan.effectiveAggression aggression caution
  let recruits ←
    if plan.usesLeader && !plan.leaderThreat then plan.leaderCouldRecruit context else pure false
  let treasury := if recruits then some (context.field.teams.gold context.side) else none
  let value := plan.rawValue aggression caution treasury
  if plan.isReckless aggression context.engaged then pure rejected else pure (plan.relate value)

end Plan
end Hexfield
