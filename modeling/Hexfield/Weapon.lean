import Hexfield.Scalar
import Hexfield.Weapon.Special

namespace Hexfield

/-!
Weapons and resistances to the damage they deal.
-/

/-- How far a weapon reaches.  Weapons are answered by weapons of the same class. -/
inductive RangeClass where
  | melee
  | ranged
deriving DecidableEq

inductive DamageType where
  | blade
  | pierce
  | impact
  | fire
  | cold
  | arcane
deriving DecidableEq

instance : Named RangeClass where
  all := [.melee, .ranged]
  name
    | .melee => "melee"
    | .ranged => "ranged"

instance : Named DamageType where
  all := [.blade, .pierce, .impact, .fire, .cold, .arcane]
  name
    | .blade => "blade"
    | .pierce => "pierce"
    | .impact => "impact"
    | .fire => "fire"
    | .cold => "cold"
    | .arcane => "arcane"

/-- The percentage by which damage of each type is reduced; negative where it is increased. -/
structure Resistances where
  blade : Int := 0
  pierce : Int := 0
  impact : Int := 0
  fire : Int := 0
  cold : Int := 0
  arcane : Int := 0
deriving DecidableEq

namespace Resistances

def get (resistances : Resistances) : DamageType → Int
  | .blade => resistances.blade
  | .pierce => resistances.pierce
  | .impact => resistances.impact
  | .fire => resistances.fire
  | .cold => resistances.cold
  | .arcane => resistances.arcane

def set (resistances : Resistances) (damageType : DamageType) (value : Int) : Resistances :=
  match damageType with
  | .blade => { resistances with blade := value }
  | .pierce => { resistances with pierce := value }
  | .impact => { resistances with impact := value }
  | .fire => { resistances with fire := value }
  | .cold => { resistances with cold := value }
  | .arcane => { resistances with arcane := value }

@[simp] theorem get_set (resistances : Resistances) (changed damageType : DamageType)
    (value : Int) :
    (resistances.set changed value).get damageType =
      if damageType = changed then value else resistances.get damageType := by
  cases changed <;> cases damageType <;> rfl

end Resistances

structure Weapon where
  name : String
  /-- Damage of one strike that hits. -/
  damage : Nat
  /-- Strikes in one round by a wielder at full health. -/
  strikes : Nat
  range : RangeClass
  damageType : DamageType
  /-- How readily a defender answers with it; never, unless it is positive. -/
  defenseWeight : Float := 1.0
  specials : List Special := []

namespace Weapon

def sword : Weapon :=
  { name := "sword", damage := 7, strikes := 3, range := .melee, damageType := .blade }

def spear : Weapon :=
  { name := "spear", damage := 7, strikes := 3, range := .melee, damageType := .pierce
    specials := [.firstStrike] }

def bow : Weapon :=
  { name := "bow", damage := 6, strikes := 3, range := .ranged, damageType := .pierce }

def club : Weapon :=
  { name := "club", damage := 8, strikes := 2, range := .melee, damageType := .impact }

/-- The weapon has an ability of the same kind. -/
def hasSpecial (weapon : Weapon) (special : Special) : Bool :=
  weapon.specials.any (·.sameKind special)

/-- The type of unit that a victim of the weapon rises as, if the weapon is contagious. -/
def spawnType? (weapon : Weapon) (wielderType : String) : Option String :=
  weapon.specials.findSome? fun
    | .contagion spawnType => some (spawnType.getD wielderType)
    | _ => none

/-- The strikes that a wielder with `hitpoints` of `maxHitpoints` makes in a round.  A swarm loses
strikes in proportion to the hitpoints it misses; the loss is rounded down, so a wielder that is
alive keeps a strike. -/
def effectiveStrikes (weapon : Weapon) (hitpoints maxHitpoints : Nat) : Nat :=
  if weapon.hasSpecial .swarm && maxHitpoints != 0 then
    let missing := maxHitpoints - min hitpoints maxHitpoints
    weapon.strikes - low32 (weapon.strikes * missing) / maxHitpoints
  else
    weapon.strikes

theorem effectiveStrikes_le (weapon : Weapon) (hitpoints maxHitpoints : Nat) :
    weapon.effectiveStrikes hitpoints maxHitpoints ≤ weapon.strikes := by
  rw [effectiveStrikes]
  split
  · exact Nat.sub_le _ _
  · exact Nat.le_refl _

end Weapon

end Hexfield
