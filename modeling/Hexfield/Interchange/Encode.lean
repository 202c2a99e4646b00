import Hexfield.Exchange
import Hexfield.Forecast
import Hexfield.Plan
import Hexfield.Plan.Personality
import Hexfield.Simulation
import Hexfield.Text.Json

namespace Hexfield

/-!
The records of the library as trees of data, in the form in which programs exchange them.

Each record lists its fields in their declared order; members of finite types stand by their names.
-/

open Text (Json)

private def nameToJson {α : Type} [Named α] (member : α) : Json :=
  .text (Named.name member)

namespace UnitId

def toJson (id : UnitId) : Json :=
  .natural id.val

end UnitId

namespace Hex

def toJson (hex : Hex) : Json :=
  .record [("q", .integer hex.q), ("r", .integer hex.r)]

end Hex

/-! ## Units -/

namespace Special

/-- An ability without content is its name. -/
def toJson : Special → Json
  | firstStrike => .text "first_strike"
  | drain => .text "drain"
  | contagion spawnType =>
      .record [("contagion", .record [("spawn_type", .option .text spawnType)])]
  | poison => .text "poison"
  | slow => .text "slow"
  | petrify => .text "petrify"
  | magical => .text "magical"
  | marksman => .text "marksman"
  | charge => .text "charge"
  | backstab => .text "backstab"
  | berserk => .text "berserk"
  | swarm => .text "swarm"
  | unrecognized name => .record [("unrecognized", .text name)]

end Special

namespace Weapon

def toJson (weapon : Weapon) : Json :=
  .record
    [("name", .text weapon.name),
      ("damage", .natural weapon.damage),
      ("strikes", .natural weapon.strikes),
      ("range", nameToJson weapon.range),
      ("damage_type", nameToJson weapon.damageType),
      ("defense_weight", .number weapon.defenseWeight),
      ("specials", .listOf Special.toJson weapon.specials)]

end Weapon

namespace Resistances

def toJson (resistances : Resistances) : Json :=
  .record ((Named.all : List DamageType).map fun damageType =>
    (Named.name damageType, .integer (resistances.get damageType)))

end Resistances

namespace Abilities

def toJson (abilities : Abilities) : Json :=
  .record
    [("leadership", .boolean abilities.leadership),
      ("skirmisher", .boolean abilities.skirmisher),
      ("steadfast", .option (.listOf nameToJson) abilities.steadfast)]

end Abilities

namespace Status

def toJson (status : Status) : Json :=
  .record
    [("slowed", .boolean status.slowed),
      ("poisoned", .boolean status.poisoned),
      ("petrified", .boolean status.petrified),
      ("resting", .boolean status.resting)]

end Status

namespace Combatant

def toJson (unit : Combatant) : Json :=
  .record
    [("unit_type", .text unit.unitType),
      ("side", .natural unit.side.number),
      ("hex", unit.hex.toJson),
      ("level", .natural unit.level),
      ("hitpoints", .natural unit.hitpoints),
      ("max_hitpoints", .natural unit.maxHitpoints),
      ("experience", .natural unit.experience),
      ("max_experience", .natural unit.maxExperience),
      ("cost", .natural unit.cost),
      ("movement", .natural unit.movement),
      ("movement_type", nameToJson unit.movementType),
      ("alignment", nameToJson unit.alignment),
      ("resistances", unit.resistances.toJson),
      ("weapons", .listOf Weapon.toJson unit.weapons),
      ("abilities", unit.abilities.toJson),
      ("living", .boolean unit.living),
      ("can_recruit", .boolean unit.canRecruit),
      ("status", unit.status.toJson)]

end Combatant

/-! ## The field -/

namespace Team

def toJson (team : Team) : Json :=
  .record
    [("side", .natural team.side.number),
      ("alliance", .natural team.alliance),
      ("gold", .integer team.gold)]

end Team

namespace Board

/-- The terrains stand row by row. -/
def toJson (board : Board) : Json :=
  .record
    [("width", .natural board.width),
      ("height", .natural board.height),
      ("terrain", .listOf nameToJson board.cells.toList)]

end Board

namespace Rules

def toJson (rules : Rules) : Json :=
  .record
    [("kill_experience", .natural rules.killExperience),
      ("berserk_rounds", .natural rules.berserkRounds),
      ("magical_chance", .natural rules.magicalChance),
      ("marksman_floor", .natural rules.marksmanFloor),
      ("steadfast_cap", .integer rules.steadfastCap),
      ("leadership_per_level", .integer rules.leadershipPerLevel),
      ("slow_divisor", .natural rules.slowDivisor),
      ("village_blocks_contagion", .boolean rules.villageBlocksContagion)]

end Rules

/-! ## Attacks -/

namespace StrikeProfile

def toJson (profile : StrikeProfile) : Json :=
  .record
    [("weapon", .option .natural profile.weapon),
      ("chance_to_hit", .natural profile.chanceToHit),
      ("damage", .natural profile.damage),
      ("strikes", .natural profile.strikes),
      ("drains", .boolean profile.drains),
      ("slows", .boolean profile.slows),
      ("poisons", .boolean profile.poisons),
      ("petrifies", .boolean profile.petrifies),
      ("first_strike", .boolean profile.firstStrike),
      ("backstab", .boolean profile.backstab),
      ("contagion", .option .text profile.contagion)]

end StrikeProfile

namespace Matchup

def toJson (matchup : Matchup) : Json :=
  .record
    [("attacker", matchup.attacker.toJson),
      ("defender", matchup.defender.toJson),
      ("rounds", .natural matchup.rounds),
      ("to_the_death", .boolean matchup.toTheDeath),
      ("defender_strikes_first", .boolean matchup.defenderStrikesFirst)]

end Matchup

namespace Breakdown

private def line (labelled : String × String) : Json :=
  .list [.text labelled.1, .text labelled.2]

def toJson (breakdown : Breakdown) : Json :=
  .record
    [("attacker", .listOf line breakdown.attacker),
      ("defender", .listOf line breakdown.defender)]

end Breakdown

namespace Forecast

def toJson (forecast : Forecast Float) : Json :=
  .record
    [("attacker_kills", .number forecast.attackerKills),
      ("defender_kills", .number forecast.defenderKills),
      ("both_survive", .number forecast.bothSurvive)]

end Forecast

namespace Simulation

def Summary.toJson (summary : Summary Float) : Json :=
  .record
    [("trials", .natural summary.trials),
      ("defender_killed", .number summary.defenderKilled),
      ("attacker_killed", .number summary.attackerKilled),
      ("avg_damage_to_defender", .number summary.averageDamageToDefender),
      ("avg_damage_to_attacker", .number summary.averageDamageToAttacker)]

end Simulation

namespace SwingRecord

def toJson (record : SwingRecord) : Json :=
  .record
    [("hit", .boolean record.hit),
      ("damage", .natural record.damage),
      ("chance", .natural record.chance),
      ("dies", .boolean record.dies)]

end SwingRecord

namespace Report

private def swing (applied : AppliedSwing) : Json :=
  .record [("striker", nameToJson applied.striker), ("result", applied.record.toJson)]

def toJson (report : Report) : Json :=
  .record
    [("attacker", report.attacker.toJson),
      ("defender", report.defender.toJson),
      ("swings", .listOf swing report.swings),
      ("end", nameToJson report.ending),
      ("desyncs", .natural report.desyncs),
      ("spawned", .option UnitId.toJson report.spawned)]

end Report

namespace Announcement

/-- An announcement stands under the name of its kind; why an attack ended is not part of it. -/
def toJson : Announcement → Json
  | attack attacker defender weapon =>
      .record [("Attack", .record
        [("attacker", attacker.toJson), ("defender", defender.toJson),
          ("weapon", .natural weapon)])]
  | death victim killer hex =>
      .record [("Die", .record
        [("victim", victim.toJson), ("killer", killer.toJson), ("hex", hex.toJson)])]
  | contagionSpawn spawned unitType side hex =>
      .record [("ContagionSpawn", .record
        [("spawned", spawned.toJson), ("unit_type", .text unitType),
          ("side", .natural side.number), ("hex", hex.toJson)])]
  | attackEnd attacker defender _ =>
      .record [("AttackEnd", .record
        [("attacker", attacker.toJson), ("defender", defender.toJson)])]

end Announcement

namespace Event

def toJson (event : Event) : Json :=
  .record
    [("swing", .natural event.swing),
      ("event_type", event.announcement.toJson),
      ("description", .text event.announcement.describe)]

end Event

/-! ## Planning -/

namespace Personality

def toJson (personality : Personality Float) : Json :=
  .record
    [("name", .text personality.name),
      ("behavior", .record
        [("aggression", .number personality.aggression),
          ("caution", .number personality.caution)]),
      ("search", .record
        [("attack_depth", .natural personality.attackDepth),
          ("simulation_trials", .natural personality.simulationTrials),
          ("max_results", .natural personality.maxResults),
          ("seed", .natural personality.seed)])]

end Personality

namespace Plan

private def movement (move : UnitId × Hex) : Json :=
  .list [move.1.toJson, move.2.toJson]

def toJson (plan : Plan Float) : Json :=
  .record
    [("target", plan.target.toJson),
      ("target_hex", plan.targetHex.toJson),
      ("movements", .listOf movement plan.movements),
      ("weapons", .listOf (.option .natural) plan.weapons),
      ("stats", .listOf (.option Matchup.toJson) plan.matchups),
      ("target_value", .number plan.targetValue),
      ("avg_losses", .number plan.averageLosses),
      ("chance_to_kill", .number plan.chanceToKill),
      ("avg_damage_inflicted", .number plan.averageDamageInflicted),
      ("target_starting_damage", .natural plan.targetStartingDamage),
      ("avg_damage_taken", .number plan.averageDamageTaken),
      ("resources_used", .number plan.resourcesUsed),
      ("terrain_quality", .number plan.terrainQuality),
      ("alternative_terrain_quality", .number plan.alternativeTerrainQuality),
      ("vulnerability", .number plan.vulnerability),
      ("support", .number plan.support),
      ("leader_threat", .boolean plan.leaderThreat),
      ("uses_leader", .boolean plan.usesLeader),
      ("is_surrounded", .boolean plan.isSurrounded),
      ("rating", .number plan.rating)]

end Plan

end Hexfield
