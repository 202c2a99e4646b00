import Hexfield.Battlefield

namespace Hexfield

/-!
The damage of one hit.

A weapon's damage is scaled by one exact fraction, made of everything that strengthens or weakens
the blow, and rounded once, to the nearest integer.  An exact half is resolved toward the weapon's
own damage.
-/

/-- `base` scaled by `bonus / divisor` and rounded to nearest; exact halves go toward `base`, and a
blow that does damage at all does at least one point.  The result is a 32-bit word. -/
def roundDamage (base bonus divisor : Nat) : Nat :=
  if base = 0 ∨ bonus = 0 ∨ divisor = 0 then 0
  else
    let rounding := divisor / 2 - (if bonus < divisor then 0 else 1)
    low32 (max ((base * bonus + rounding) / divisor) 1)

/-- One blow: who strikes whom with what. -/
structure Blow where
  striker : Combatant
  target : Combatant
  weapon : Weapon
  /-- How many times the damage is doubled, by a charge or a stab in the back. -/
  doublings : Nat
  /-- The target defends, so it may be steadfast. -/
  targetDefends : Bool

structure DamageFigure where
  base : Nat
  /-- Bonus from the hour, in percent. -/
  daylight : Int
  /-- Bonus from a leader, in percent. -/
  leadership : Int
  multiplier : Nat
  /-- Resistance of the target, in percent. -/
  resistance : Int
  /-- The resistance was raised because the target is steadfast. -/
  steadfast : Bool
  /-- What the damage is divided by because the striker is slowed. -/
  slow : Nat
deriving DecidableEq

namespace DamageFigure

def total (figure : DamageFigure) : Nat :=
  roundDamage figure.base
    ((100 + figure.daylight + figure.leadership).toNat * figure.multiplier *
      (100 - figure.resistance).toNat)
    (10000 * figure.slow)

private def signedPercent (n : Int) : String :=
  (if n < 0 then "" else "+") ++ toString n ++ "%"

/-- The figure as labelled lines.  What has no effect is left out. -/
def lines (figure : DamageFigure) : List (String × String) :=
  [("base damage", toString figure.base)] ++
  (if figure.daylight = 0 then [] else [("time of day", signedPercent figure.daylight)]) ++
  (if figure.leadership = 0 then [] else [("leadership", signedPercent figure.leadership)]) ++
  (if figure.multiplier ≤ 1 then []
    else [("charge/backstab", "x" ++ toString figure.multiplier)]) ++
  (if figure.resistance = 0 ∧ ¬ figure.steadfast then []
    else [(if figure.steadfast then "resistance (steadfast)" else "resistance",
      toString figure.resistance ++ "%")]) ++
  (if figure.slow ≤ 1 then [] else [("slowed", "/" ++ toString figure.slow)]) ++
  [("total damage", toString figure.total)]

end DamageFigure

namespace Battlefield

/-- The target's resistance to a blow, and whether steadfastness raised it.  A steadfast defender
doubles a resistance below the cap, up to the cap; other resistances stay as they are. -/
def resistanceTo (field : Battlefield) (blow : Blow) : Int × Bool :=
  let resistance := blow.target.resistances.get blow.weapon.damageType
  let cap := field.rules.steadfastCap
  if blow.targetDefends ∧ blow.target.steadfastOn (field.terrainAt blow.target.hex) ∧
      0 < resistance ∧ resistance < cap then
    (min (resistance * 2) cap, true)
  else
    (resistance, false)

def damageFigure (field : Battlefield) (blow : Blow) : DamageFigure :=
  let (resistance, steadfast) := field.resistanceTo blow
  { base := blow.weapon.damage
    daylight := field.daylightBonus blow.striker
    leadership := field.leadershipBonus blow.striker
    multiplier := Nat.pow 2 blow.doublings
    resistance, steadfast
    slow := if blow.striker.status.slowed then max field.rules.slowDivisor 1 else 1 }

end Battlefield

end Hexfield
