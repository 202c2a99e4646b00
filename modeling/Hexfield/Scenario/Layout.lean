import Hexfield.Combatant
import Hexfield.Toml.Value

namespace Hexfield
namespace Layout

/-!
Scenarios as they are written down.

Each record stands for one table of a scenario document and has a decoder, which knows the names of
the fields, which of them may be left out, and what they then are.
-/

open Toml

structure WeaponEntry where
  name : String
  damage : Nat
  strikes : Nat
  range : RangeClass
  damageType : DamageType
  defenseWeight : Float
  specials : List String

structure UnitEntry where
  unitType : String
  side : Nat
  q : Int
  r : Int
  maxHitpoints : Nat
  /-- The maximum, if left out. -/
  hitpoints : Option Nat
  level : Nat
  experience : Nat
  cost : Option Nat
  movement : Option Nat
  movementType : MovementType
  alignment : Alignment
  resistances : Resistances
  abilities : Abilities
  leader : Bool
  living : Bool
  weapons : List WeaponEntry

structure SideEntry where
  side : Nat
  alliance : Nat
  gold : Int

structure PatchEntry where
  q : Int
  r : Int
  terrain : Terrain

/-- The duel that a scenario is about: two of its units, and a weapon of the first. -/
structure DuelEntry where
  attacker : Nat
  defender : Nat
  weapon : Nat

/-- A whole scenario. -/
structure Document where
  name : String
  width : Nat
  height : Nat
  time : TimeOfDay
  rules : Rules
  /-- Two sides without allies, if the list is empty. -/
  sides : List SideEntry
  terrain : List PatchEntry
  units : List UnitEntry
  templates : List UnitEntry
  duel : Option DuelEntry
  aiSide : Option Nat

private def named {α : Type} [Named α] : Decoder α :=
  Decoder.oneOf Named.ofName?

/-- A ruleset laid over another: fields that are left out stay. -/
def decodeRules (base : Rules) : Decoder Rules := fun value => do
  let fields ← value.fields
    ["kill_experience", "berserk_rounds", "magical_chance", "marksman_floor", "steadfast_cap",
      "leadership_per_level", "slow_divisor", "village_blocks_contagion"]
  pure
    { killExperience := ← fields.optional "kill_experience" (.natural 32) base.killExperience
      berserkRounds := ← fields.optional "berserk_rounds" (.natural 32) base.berserkRounds
      magicalChance := ← fields.optional "magical_chance" (.natural 32) base.magicalChance
      marksmanFloor := ← fields.optional "marksman_floor" (.natural 32) base.marksmanFloor
      steadfastCap := ← fields.optional "steadfast_cap" (.signed 32) base.steadfastCap
      leadershipPerLevel :=
        ← fields.optional "leadership_per_level" (.signed 32) base.leadershipPerLevel
      slowDivisor := ← fields.optional "slow_divisor" (.natural 32) base.slowDivisor
      villageBlocksContagion :=
        ← fields.optional "village_blocks_contagion" .boolean base.villageBlocksContagion }

def decodeResistances : Decoder Resistances := fun value => do
  let fields ← value.fields ["blade", "pierce", "impact", "fire", "cold", "arcane"]
  pure
    { blade := ← fields.optional "blade" (.signed 32) 0
      pierce := ← fields.optional "pierce" (.signed 32) 0
      impact := ← fields.optional "impact" (.signed 32) 0
      fire := ← fields.optional "fire" (.signed 32) 0
      cold := ← fields.optional "cold" (.signed 32) 0
      arcane := ← fields.optional "arcane" (.signed 32) 0 }

def decodeAbilities : Decoder Abilities := fun value => do
  let fields ← value.fields ["leadership", "skirmisher", "steadfast"]
  pure
    { leadership := ← fields.optional "leadership" .boolean false
      skirmisher := ← fields.optional "skirmisher" .boolean false
      steadfast := ← fields.optional "steadfast" (.present (.list named)) none }

def decodeWeapon : Decoder WeaponEntry := fun value => do
  let fields ← value.fields
    ["name", "damage", "strikes", "range", "damage_type", "defense_weight", "specials"]
  pure
    { name := ← fields.required "name" .text
      damage := ← fields.required "damage" (.natural 32)
      strikes := ← fields.required "strikes" (.natural 32)
      range := ← fields.optional "range" named .melee
      damageType := ← fields.optional "damage_type" named .blade
      defenseWeight := ← fields.optional "defense_weight" .float 1.0
      specials := ← fields.optional "specials" (.list .text) [] }

def decodeUnit : Decoder UnitEntry := fun value => do
  let fields ← value.fields
    ["unit_type", "side", "q", "r", "max_hitpoints", "hitpoints", "level", "experience", "cost",
      "movement", "movement_type", "alignment", "resistances", "abilities", "leader", "living",
      "weapons"]
  pure
    { unitType := ← fields.required "unit_type" .text
      side := ← fields.optional "side" (.natural 32) 1
      q := ← fields.optional "q" (.signed 32) 0
      r := ← fields.optional "r" (.signed 32) 0
      maxHitpoints := ← fields.required "max_hitpoints" (.natural 32)
      hitpoints := ← fields.optional "hitpoints" (.present (.natural 32)) none
      level := ← fields.optional "level" (.natural 32) 1
      experience := ← fields.optional "experience" (.natural 32) 0
      cost := ← fields.optional "cost" (.present (.natural 32)) none
      movement := ← fields.optional "movement" (.present (.natural 32)) none
      movementType := ← fields.optional "movement_type" named .infantry
      alignment := ← fields.optional "alignment" named .neutral
      resistances := ← fields.optional "resistances" decodeResistances {}
      abilities := ← fields.optional "abilities" decodeAbilities {}
      leader := ← fields.optional "leader" .boolean false
      living := ← fields.optional "living" .boolean true
      weapons := ← fields.optional "weapons" (.list decodeWeapon) [] }

def decodeSide : Decoder SideEntry := fun value => do
  let fields ← value.fields ["side", "alliance", "gold"]
  pure
    { side := ← fields.required "side" (.natural 8)
      alliance := ← fields.required "alliance" (.natural 32)
      gold := ← fields.optional "gold" (.signed 32) 0 }

def decodePatch : Decoder PatchEntry := fun value => do
  let fields ← value.fields ["q", "r", "terrain"]
  pure
    { q := ← fields.required "q" (.signed 32)
      r := ← fields.required "r" (.signed 32)
      terrain := ← fields.required "terrain" named }

def decodeDuel : Decoder DuelEntry := fun value => do
  let fields ← value.fields ["attacker", "defender", "weapon"]
  pure
    { attacker := ← fields.required "attacker" (.natural 64)
      defender := ← fields.required "defender" (.natural 64)
      weapon := ← fields.optional "weapon" (.natural 64) 0 }

def decodeDocument : Decoder Document := fun value => do
  let fields ← value.fields
    ["name", "width", "height", "time_of_day", "rules", "sides", "terrain", "units", "templates",
      "duel", "ai_side"]
  pure
    { name := ← fields.required "name" .text
      width := ← fields.required "width" (.natural 32)
      height := ← fields.required "height" (.natural 32)
      time := ← fields.optional "time_of_day" named .morning
      rules := ← fields.optional "rules" (decodeRules {}) {}
      sides := ← fields.optional "sides" (.list decodeSide) []
      terrain := ← fields.optional "terrain" (.list decodePatch) []
      units := ← fields.optional "units" (.list decodeUnit) []
      templates := ← fields.optional "templates" (.list decodeUnit) []
      duel := ← fields.optional "duel" (.present decodeDuel) none
      aiSide := ← fields.optional "ai_side" (.present (.natural 8)) none }

end Layout
end Hexfield
