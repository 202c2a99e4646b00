import Hexfield.Matchup

namespace Hexfield

/-!
Attack plans: which units move where to strike one target together.

A plan carries its movements and what they were found to be worth.  Everything but the target and
the movements is worked out by the analysis, the search and the rating.
-/

structure Plan (α : Type) where
  target : UnitId
  targetHex : Hex
  /-- The attackers with the hexes that they strike from, in the order of their attacks. -/
  movements : List (UnitId × Hex)
  /-- The weapon of each attacker; `none` for one that has nothing to strike with. -/
  weapons : List (Option Nat)
  /-- The numbers of each attacker's exchange. -/
  matchups : List (Option Matchup)
  /-- The cost of the target, more for its experience. -/
  targetValue : α
  /-- The cost of the attackers that are lost on average. -/
  averageLosses : α
  chanceToKill : α
  averageDamageInflicted : α
  /-- The damage that the target has taken before. -/
  targetStartingDamage : Nat
  averageDamageTaken : α
  /-- The cost of all attackers. -/
  resourcesUsed : α
  /-- The chance of the attackers to be hit where they strike from, weighted by their costs. -/
  terrainQuality : α
  /-- The same, if each attacker took the best cover in its reach instead. -/
  alternativeTerrainQuality : α
  /-- What the enemy can bring onto the hexes that the attackers strike from. -/
  vulnerability : α
  /-- What the own side can bring onto them. -/
  support : α
  /-- The target stands next to a leader of the own side. -/
  leaderThreat : Bool
  /-- A leader is among the attackers. -/
  usesLeader : Bool
  /-- The attacker that joined last stands among enemies. -/
  isSurrounded : Bool
  rating : α

namespace Plan

variable {α : Type} [Scalar α]

@[specialize] def against (target : UnitId) (targetHex : Hex) : Plan α :=
  { target, targetHex, movements := [], weapons := [], matchups := []
    targetValue := 0.0, averageLosses := 0.0, chanceToKill := 0.0
    averageDamageInflicted := 0.0, targetStartingDamage := 0, averageDamageTaken := 0.0
    resourcesUsed := 0.0, terrainQuality := 0.0, alternativeTerrainQuality := 0.0
    vulnerability := 0.0, support := 0.0, leaderThreat := false, usesLeader := false
    isSurrounded := false, rating := 0.0 }

def attackers (plan : Plan α) : List UnitId :=
  plan.movements.map Prod.fst

/-- The rating of a plan that must not be carried out. -/
@[specialize] def rejected : α :=
  0.0 - 1.0

end Plan

end Hexfield
