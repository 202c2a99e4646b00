import Hexfield.Plan
import Hexfield.Plan.Approach
import Hexfield.Plan.Formation
import Hexfield.Simulation

namespace Hexfield

/-!
What a plan is expected to bring.

The attackers are moved onto their hexes, each chooses its weapon there, and they are moved back.
Then the plan is played out again and again on these numbers.  Each attacker strikes in its turn at
what is left of the target, until the target is dead or turned to stone.
-/

/-- What a plan brings about when it is played out once or more often. -/
structure Tally (α : Type) where
  kills : Nat
  /-- The cost of the attackers lost. -/
  losses : α
  inflicted : Nat
  taken : Nat

/-- An attacker's part in a plan. -/
structure Assault where
  cost : Nat
  vitals : Vitals
  /-- The numbers of its exchange, if it has a weapon to strike with. -/
  matchup : Option Matchup

namespace Assault

variable {α ρ : Type} [Scalar α] [RollSource ρ]

/-- The attackers strike one after another at a target of which `target` is left.  The hitpoints
that remain to it come first in the result. -/
@[specialize] def playOut : List Assault → Vitals → Tally α → ρ → Vitals × Tally α × ρ
  | [], target, tally, rolls => (target, tally, rolls)
  | assault :: others, target, tally, rolls =>
      match assault.matchup with
      | none => playOut others target tally rolls
      | some matchup =>
          let (outcome, rolls) := Simulation.play matchup assault.vitals target rolls
          let taken := tally.taken + (assault.vitals.hitpoints - outcome.attackerHitpoints)
          let losses :=
            if outcome.attackerDied then tally.losses + Scalar.ofNat assault.cost
            else tally.losses
          let target := { target with hitpoints := outcome.defenderHitpoints }
          if outcome.defenderDied || outcome.defenderPetrified then
            (target, { tally with kills := tally.kills + 1, losses, taken }, rolls)
          else
            let losses :=
              if outcome.attackerPetrified then losses + Scalar.ofNat assault.cost else losses
            playOut others target { tally with losses, taken } rolls

/-- The plan is played out a number of times against the same target. -/
@[specialize] def playOften (assaults : List Assault) (target : Vitals) :
    Nat → Tally α → ρ → Tally α × ρ
  | 0, tally, rolls => (tally, rolls)
  | trials + 1, tally, rolls =>
      let (remains, tally, rolls) := playOut assaults target tally rolls
      let inflicted := tally.inflicted + (target.hitpoints - remains.hitpoints)
      playOften assaults target trials { tally with inflicted } rolls

end Assault

namespace Plan

variable {α ρ : Type} [Scalar α]

/-- What a target is worth: its cost, scaled up by the experience it has gathered. -/
@[specialize] def valueOf (target : Combatant) : α :=
  let progress : α :=
    if 0 < target.maxExperience then
      Scalar.ofNat target.experience / Scalar.ofNat target.maxExperience
    else
      0.0
  Scalar.ofNat target.cost * (1.0 + progress)

/-- A leader of the side or of its allies stands next to a hex. -/
def threatensLeader (field : Battlefield) (side : Side) (hex : Hex) : Bool :=
  hex.neighbors.any fun neighbor =>
    (field.roster.unitAt? neighbor).any fun unit =>
      unit.canRecruit && !field.isEnemy unit.side side

/-- The plan with what it says of its target as the field stands. -/
@[specialize] def appraise (plan : Plan α) (field : Battlefield) (side : Side)
    (target : Combatant) : Plan α :=
  { plan with
    targetValue := valueOf target
    targetStartingDamage := target.maxHitpoints - target.hitpoints
    leaderThreat := threatensLeader field side plan.targetHex
    usesLeader := false
    resourcesUsed := 0.0
    terrainQuality := 0.0
    alternativeTerrainQuality := 0.0 }

@[specialize] def enlist (plan : Plan α) (field : Battlefield) (unit : Combatant) (hex : Hex)
    (cover : Cover α) : Plan α :=
  let cost : α := Scalar.ofNat unit.cost
  let chance : α := Scalar.ofNat (unit.chanceToBeHit (field.terrainAt hex))
  { plan with
    usesLeader := plan.usesLeader || unit.canRecruit
    resourcesUsed := plan.resourcesUsed + cost
    terrainQuality := plan.terrainQuality + cost * chance / 100.0
    alternativeTerrainQuality := plan.alternativeTerrainQuality + cost * cover.chance }

/-- The sums of terrain qualities become averages. -/
@[specialize] def averageTerrain (plan : Plan α) : Plan α :=
  if 0.0 < plan.resourcesUsed then
    { plan with
      terrainQuality := plan.terrainQuality / plan.resourcesUsed
      alternativeTerrainQuality := plan.alternativeTerrainQuality / plan.resourcesUsed }
  else
    plan

@[specialize] def withTally (plan : Plan α) (trials : Nat) (tally : Tally α) : Plan α :=
  if 0 < trials then
    let n : α := Scalar.ofNat trials
    { plan with
      chanceToKill := Scalar.ofNat tally.kills / n
      averageLosses := tally.losses / n
      averageDamageInflicted := Scalar.ofNat tally.inflicted / n
      averageDamageTaken := Scalar.ofNat tally.taken / n }
  else
    { plan with
      chanceToKill := 0.0, averageLosses := 0.0, averageDamageInflicted := 0.0
      averageDamageTaken := 0.0 }

/-- The weapon choices of the attackers of a plan, in their order, on a field where they stand in
place. -/
@[specialize] def chooseWeapons (plan : Plan α) (aggression : α) (field : Battlefield) :
    Except Fault (List (Option (Nat × Matchup))) :=
  plan.attackers.mapM fun attacker => field.chooseWeapon attacker plan.target aggression

/-- The attackers are taken stock of one by one. -/
@[specialize] def muster : List (UnitId × Hex) → Plan α → Planner α ρ (Plan α × List Combatant)
  | [], plan => pure (plan, [])
  | (id, hex) :: others, plan => do
      let cover ← Planner.cover id
      let context ← get
      let unit ← ofExcept (context.field.unit id)
      let (plan, units) ← muster others (plan.enlist context.field unit hex cover)
      pure (plan, unit :: units)

/-- What `read` finds on the field while the attackers of a plan stand on their hexes.  They are
back in their places afterwards, whether it finds anything or fails. -/
@[specialize] def inFormation {β : Type} (movements : List (UnitId × Hex))
    (read : Battlefield → Except Fault β) : Planner α ρ β := do
  let context ← get
  let formation := Formation.form context.field movements
  set { context with field := formation.disband }
  ofExcept (read formation.field)

@[specialize] def tally [RollSource ρ] (assaults : List Assault) (target : Vitals) (trials : Nat) :
    Planner α ρ (Tally α) := do
  let context ← get
  let none : Tally α := { kills := 0, losses := 0.0, inflicted := 0, taken := 0 }
  let (tally, rolls) := Assault.playOften assaults target trials none context.rolls
  set { context with rolls }
  pure tally

/-- A plan with everything worked out that its movements bring, except its rating. -/
@[specialize] def analyze [RollSource ρ] (plan : Plan α) : Planner α ρ (Plan α) := do
  let context ← get
  let target ← ofExcept (context.field.unit plan.target)
  let (plan, units) ← muster plan.movements (plan.appraise context.field context.side target)
  let plan := plan.averageTerrain
  let personality := context.personality
  let choices ← inFormation plan.movements (plan.chooseWeapons personality.aggression)
  let plan :=
    { plan with
      weapons := choices.map (Option.map Prod.fst)
      matchups := choices.map (Option.map Prod.snd) }
  let assaults := (units.zip plan.matchups).map fun (unit, matchup) =>
    ({ cost := unit.cost, vitals := unit.vitals, matchup } : Assault)
  let tally ← tally assaults target.vitals personality.simulationTrials
  pure (plan.withTally personality.simulationTrials tally)

end Plan

end Hexfield
