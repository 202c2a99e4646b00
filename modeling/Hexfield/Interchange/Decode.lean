import Hexfield.Exchange.Record
import Hexfield.Matchup
import Hexfield.Plan
import Hexfield.Toml.Value

namespace Hexfield

/-!
The records of the library read back from the form in which programs exchange them.

Where a record is read over another one, the fields that are left out stay as they are, also within
the records that it contains.
-/

open Toml

private def decodeName {α : Type} [Named α] : Decoder α :=
  Decoder.oneOf Named.ofName?

/-! ## Units -/

namespace Special

/-- An ability by its name, or with its content under the name of its kind. -/
def decode : Decoder Special
  | .text name => .ok (ofName name)
  | .table [("contagion", content)] => do
      let fields ← content.fields ["spawn_type"]
      pure (contagion (← fields.optional "spawn_type" (.present .text) none))
  | .table [("unrecognized", name)] => (Decoder.text name).map unrecognized
  | _ => .error (.mismatch "an ability")

end Special

namespace Weapon

/-- What every weapon says of itself. -/
def decodePlain : Decoder Weapon := fun value => do
  let fields ← value.fields ["name", "damage", "strikes", "range", "damage_type"]
  pure
    { name := ← fields.required "name" .text
      damage := ← fields.required "damage" (.natural 32)
      strikes := ← fields.required "strikes" (.natural 32)
      range := ← fields.required "range" decodeName
      damageType := ← fields.required "damage_type" decodeName }

def decode : Decoder Weapon := fun value => do
  let weapon ← decodePlain value
  let fields ← value.fields []
  pure
    { weapon with
      defenseWeight := ← fields.optional "defense_weight" .float weapon.defenseWeight
      specials := ← fields.optional "specials" (.list Special.decode) weapon.specials }

end Weapon

namespace Resistances

def decodeOver (base : Resistances) : Decoder Resistances := fun value => do
  let fields ← value.fields ["blade", "pierce", "impact", "fire", "cold", "arcane"]
  (Named.all : List DamageType).foldlM (fun resistances damageType => do
    let amount ← fields.optional (Named.name damageType) (.signed 32) (base.get damageType)
    pure (resistances.set damageType amount)) base

end Resistances

namespace Abilities

def decodeOver (base : Abilities) : Decoder Abilities := fun value => do
  let fields ← value.fields ["leadership", "skirmisher", "steadfast"]
  pure
    { leadership := ← fields.optional "leadership" .boolean base.leadership
      skirmisher := ← fields.optional "skirmisher" .boolean base.skirmisher
      steadfast := ← fields.optional "steadfast" (.present (.list decodeName)) base.steadfast }

end Abilities

namespace Status

def decodeOver (base : Status) : Decoder Status := fun value => do
  let fields ← value.fields ["slowed", "poisoned", "petrified", "resting"]
  pure
    { slowed := ← fields.optional "slowed" .boolean base.slowed
      poisoned := ← fields.optional "poisoned" .boolean base.poisoned
      petrified := ← fields.optional "petrified" .boolean base.petrified
      resting := ← fields.optional "resting" .boolean base.resting }

end Status

namespace Hex

def decodeOver (base : Hex) : Decoder Hex := fun value => do
  let fields ← value.fields ["q", "r"]
  pure
    { q := ← fields.optional "q" (.signed 32) base.q
      r := ← fields.optional "r" (.signed 32) base.r }

end Hex

namespace Combatant

def decodeOver (base : Combatant) : Decoder Combatant := fun value => do
  let fields ← value.fields []
  let count (name : String) (fallback : Nat) : Except DecodeError Nat :=
    fields.optional name (.natural 32) fallback
  pure
    { unitType := ← fields.optional "unit_type" .text base.unitType
      side := ⟨← fields.optional "side" (.natural 8) base.side.number⟩
      hex := ← fields.optional "hex" (Hex.decodeOver base.hex) base.hex
      level := ← count "level" base.level
      hitpoints := ← count "hitpoints" base.hitpoints
      maxHitpoints := ← count "max_hitpoints" base.maxHitpoints
      experience := ← count "experience" base.experience
      maxExperience := ← count "max_experience" base.maxExperience
      cost := ← count "cost" base.cost
      movement := ← count "movement" base.movement
      movementType := ← fields.optional "movement_type" decodeName base.movementType
      alignment := ← fields.optional "alignment" decodeName base.alignment
      resistances :=
        ← fields.optional "resistances" (Resistances.decodeOver base.resistances) base.resistances
      weapons := ← fields.optional "weapons" (.list Weapon.decode) base.weapons
      abilities :=
        ← fields.optional "abilities" (Abilities.decodeOver base.abilities) base.abilities
      living := ← fields.optional "living" .boolean base.living
      canRecruit := ← fields.optional "can_recruit" .boolean base.canRecruit
      status := ← fields.optional "status" (Status.decodeOver base.status) base.status }

end Combatant

/-! ## Attacks -/

namespace StrikeProfile

def decode : Decoder StrikeProfile := fun value => do
  let fields ← value.fields []
  let flag (name : String) : Except DecodeError Bool := fields.optional name .boolean false
  let count (name : String) : Except DecodeError Nat := fields.optional name (.natural 32) 0
  pure
    { weapon := ← fields.optional "weapon" (.present (.natural 64)) none
      chanceToHit := ← count "chance_to_hit"
      damage := ← count "damage"
      strikes := ← count "strikes"
      drains := ← flag "drains"
      slows := ← flag "slows"
      poisons := ← flag "poisons"
      petrifies := ← flag "petrifies"
      firstStrike := ← flag "first_strike"
      backstab := ← flag "backstab"
      contagion := ← fields.optional "contagion" (.present .text) none }

end StrikeProfile

namespace Matchup

def decode : Decoder Matchup := fun value => do
  let fields ← value.fields []
  pure
    { attacker := ← fields.optional "attacker" StrikeProfile.decode {}
      defender := ← fields.optional "defender" StrikeProfile.decode {}
      rounds := ← fields.optional "rounds" (.natural 32) 0
      toTheDeath := ← fields.optional "to_the_death" .boolean false
      defenderStrikesFirst := ← fields.optional "defender_strikes_first" .boolean false }

end Matchup

namespace SwingRecord

def decode : Decoder SwingRecord := fun value => do
  let fields ← value.fields ["hit", "damage", "chance", "dies"]
  pure
    { hit := ← fields.required "hit" .boolean
      damage := ← fields.required "damage" (.natural 32)
      chance := ← fields.required "chance" (.natural 32)
      dies := ← fields.required "dies" .boolean }

end SwingRecord

/-! ## Planning -/

namespace Plan

private def decodeMovement : Decoder (UnitId × Hex)
  | .array [id, hex] => do
      let id ← Decoder.natural 32 id
      let hex ← Hex.decodeOver ⟨0, 0⟩ hex
      pure (⟨id⟩, hex)
  | _ => .error (.mismatch "a movement")

/-- The target of a plan and whatever its rating depends on. -/
def decodeOver (base : Plan Float) : Decoder (Plan Float) := fun value => do
  let fields ← value.fields []
  let flag (name : String) (fallback : Bool) : Except DecodeError Bool :=
    fields.optional name .boolean fallback
  let number (name : String) (fallback : Float) : Except DecodeError Float :=
    fields.optional name .float fallback
  pure
    { base with
      target := ⟨← fields.optional "target" (.natural 32) base.target.val⟩
      targetHex := ← fields.optional "target_hex" (Hex.decodeOver base.targetHex) base.targetHex
      movements := ← fields.optional "movements" (.list decodeMovement) base.movements
      targetValue := ← number "target_value" base.targetValue
      averageLosses := ← number "avg_losses" base.averageLosses
      chanceToKill := ← number "chance_to_kill" base.chanceToKill
      averageDamageInflicted := ← number "avg_damage_inflicted" base.averageDamageInflicted
      targetStartingDamage :=
        ← fields.optional "target_starting_damage" (.natural 32) base.targetStartingDamage
      averageDamageTaken := ← number "avg_damage_taken" base.averageDamageTaken
      resourcesUsed := ← number "resources_used" base.resourcesUsed
      terrainQuality := ← number "terrain_quality" base.terrainQuality
      alternativeTerrainQuality :=
        ← number "alternative_terrain_quality" base.alternativeTerrainQuality
      vulnerability := ← number "vulnerability" base.vulnerability
      support := ← number "support" base.support
      leaderThreat := ← flag "leader_threat" base.leaderThreat
      usesLeader := ← flag "uses_leader" base.usesLeader
      isSurrounded := ← flag "is_surrounded" base.isSurrounded
      rating := ← number "rating" base.rating }

end Plan

end Hexfield
