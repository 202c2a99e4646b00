import Hexfield.Matchup
import Hexfield.Odds

namespace Hexfield

/-!
The chances of one round, for the preview of an attack.

An exchange that may last longer is forecast for its first round only.
-/

structure Forecast (α : Type) where
  attackerKills : α
  defenderKills : α
  bothSurvive : α

namespace Forecast

variable {α : Type} [Scalar α]

/-- A side of a round with its hitpoints. -/
@[specialize] def striker (profile : StrikeProfile) (hitpoints : Nat) : Odds.Striker α :=
  { hitpoints, damage := profile.damage, chance := profile.hitProbability
    strikes := profile.strikes }

/-- The chance that the first side kills the second in a round: the sum over its swings. -/
@[specialize] def killChance (first second : Odds.Striker α) (firstLeads : Bool) : α :=
  Scalar.sum ((List.range (first.strikes + second.strikes)).map
    (Odds.killDuringSwing first second firstLeads))

/-- The chances of the first round of a matchup between sides with the given hitpoints. -/
@[specialize] def ofMatchup (matchup : Matchup) (attackerHitpoints defenderHitpoints : Nat) :
    Forecast α :=
  let attacker := striker matchup.attacker attackerHitpoints
  let defender := striker matchup.defender defenderHitpoints
  let attackerLeads := !matchup.defenderStrikesFirst
  let attackerKills := killChance attacker defender attackerLeads
  let defenderKills := killChance defender attacker (!attackerLeads)
  { attackerKills, defenderKills
    bothSurvive := Scalar.larger (1.0 - attackerKills - defenderKills) 0.0 }

end Forecast

end Hexfield
