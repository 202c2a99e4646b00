import Hexfield.Fault
import Hexfield.Team
import Hexfield.Terrain
import Hexfield.Daylight
import Hexfield.Weapon
import Hexfield.Scalar

namespace Hexfield

/-!
Units: what they are, what they carry, and what has befallen them; and the templates from which
units are raised.
-/

/-- Abilities of a unit that do not belong to one of its weapons. -/
structure Abilities where
  /-- Neighbours of the same side and of lower level deal more damage. -/
  leadership : Bool := false
  /-- Enemy zones of control do not stop it. -/
  skirmisher : Bool := false
  /-- Resistances are doubled in defence, on the listed terrains; on all of them, if the list is
  empty. -/
  steadfast : Option (List Terrain) := none
deriving DecidableEq

/-- Conditions that outlast an exchange. -/
structure Status where
  slowed : Bool := false
  /-- Poisoned, or marked by contagion. -/
  poisoned : Bool := false
  petrified : Bool := false
  resting : Bool := false
deriving DecidableEq

structure Combatant where
  unitType : String
  side : Side
  hex : Hex
  level : Nat := 1
  hitpoints : Nat
  maxHitpoints : Nat
  experience : Nat := 0
  maxExperience : Nat := 40
  /-- What recruiting it costs, which is also what it is worth. -/
  cost : Nat := 14
  /-- Movement points in one turn. -/
  movement : Nat := 5
  movementType : MovementType := .infantry
  alignment : Alignment := .neutral
  resistances : Resistances := {}
  weapons : List Weapon := []
  abilities : Abilities := {}
  /-- What does not live cannot be drained, poisoned or raised. -/
  living : Bool := true
  /-- A leader: it recruits, and its own side protects it. -/
  canRecruit : Bool := false
  status : Status := {}

namespace Combatant

/-- A healthy unit of level one without weapons. -/
def ofType (unitType : String) (side : Side) (hex : Hex) (maxHitpoints : Nat) : Combatant :=
  { unitType, side, hex, hitpoints := maxHitpoints, maxHitpoints }

def withWeapon (unit : Combatant) (weapon : Weapon) : Combatant :=
  { unit with weapons := unit.weapons ++ [weapon] }

/-- The unit with its hitpoints set, but not above their maximum. -/
def withHitpoints (unit : Combatant) (hitpoints : Nat) : Combatant :=
  { unit with hitpoints := min hitpoints unit.maxHitpoints }

def withResistance (unit : Combatant) (damageType : DamageType) (value : Int) : Combatant :=
  { unit with resistances := unit.resistances.set damageType value }

/-- The weapon at an index, which the caller promises to be in range. -/
def weapon (unit : Combatant) (index : Nat) : Except Fault Weapon :=
  match unit.weapons[index]? with
  | some weapon => .ok weapon
  | none => .error (.noSuchWeapon index unit.unitType unit.weapons.length)

/-- A petrified unit neither fights nor threatens. -/
def incapacitated (unit : Combatant) : Bool :=
  unit.status.petrified

/-- The unit has a weapon with a strike. -/
def canInitiate (unit : Combatant) : Bool :=
  unit.weapons.any (fun weapon => 0 < weapon.strikes)

def wields (unit : Combatant) (special : Special) : Bool :=
  unit.weapons.any (·.hasSpecial special)

def chanceToBeHit (unit : Combatant) (terrain : Terrain) : Nat :=
  unit.movementType.chanceToBeHit terrain

/-- The unit's resistances are doubled in defence on this terrain. -/
def steadfastOn (unit : Combatant) (terrain : Terrain) : Bool :=
  match unit.abilities.steadfast with
  | some terrains => terrains.isEmpty || terrains.contains terrain
  | none => false

/-- The strikes that the unit makes in a round with a weapon. -/
def strikesWith (unit : Combatant) (weapon : Weapon) : Nat :=
  weapon.effectiveStrikes unit.hitpoints unit.maxHitpoints

/-- The share of its hitpoints that the unit still has. -/
@[specialize] def health {α : Type} [Scalar α] (unit : Combatant) : α :=
  if unit.maxHitpoints = 0 then 0.0
  else Scalar.ofNat unit.hitpoints / Scalar.ofNat unit.maxHitpoints

def takeDamage (unit : Combatant) (amount : Nat) : Combatant :=
  { unit with hitpoints := unit.hitpoints - amount }

/-- The unit healed, but not above its maximum.  The bound comes after the sum, which may wrap. -/
def heal (unit : Combatant) (amount : Nat) : Combatant :=
  { unit with hitpoints := min (low32 (unit.hitpoints + amount)) unit.maxHitpoints }

def gainExperience (unit : Combatant) (amount : Nat) : Combatant :=
  { unit with experience := low32 (unit.experience + amount) }

end Combatant

/-- Templates, the one added last in front. -/
structure Catalog where
  templates : List Combatant := []

namespace Catalog

/-- A template is added under its own type, in place of an earlier one of that type. -/
def add (catalog : Catalog) (template : Combatant) : Catalog :=
  ⟨template :: catalog.templates⟩

def find? (catalog : Catalog) (unitType : String) : Option Combatant :=
  catalog.templates.find? (fun template => template.unitType == unitType)

def contains (catalog : Catalog) (unitType : String) : Bool :=
  (catalog.find? unitType).isSome

/-- A fresh unit of a type: healthy, inexperienced, in no special condition and not a leader. -/
def instantiate (catalog : Catalog) (unitType : String) (side : Side) (hex : Hex) :
    Option Combatant :=
  (catalog.find? unitType).map fun template =>
    { template with
      side, hex
      hitpoints := template.maxHitpoints
      experience := 0
      status := {}
      canRecruit := false }

end Catalog

end Hexfield
