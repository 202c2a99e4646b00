import Hexfield.Scalar

namespace Hexfield

/-!
The numbers of a ruleset and the bounds within which they make sense.
-/

structure Rules where
  /-- Experience for a kill, per level of the victim. -/
  killExperience : Nat := 8
  /-- Rounds of an exchange in which someone goes berserk. -/
  berserkRounds : Nat := 30
  /-- Chance to hit of magical weapons, in percent. -/
  magicalChance : Nat := 70
  /-- Least chance to hit of marksmen on the attack, in percent. -/
  marksmanFloor : Nat := 60
  /-- Bound up to which a steadfast unit doubles its resistances, in percent. -/
  steadfastCap : Int := 50
  /-- Damage bonus of the led, per level that the leader is above them, in percent. -/
  leadershipPerLevel : Int := 25
  /-- What the damage of a slowed unit is divided by. -/
  slowDivisor : Nat := 2
  /-- No one rises from the dead in a village. -/
  villageBlocksContagion : Bool := true
deriving DecidableEq

namespace Rules

inductive Flaw where
  | hitChances (magical marksman : Nat)
  | steadfastCap (cap : Int)
  | slowDivisor
  | berserkRounds
deriving DecidableEq

def Flaw.message : Flaw → String
  | hitChances magical marksman =>
      "hit chances must be percentages (magical " ++ toString magical ++ ", marksman " ++
        toString marksman ++ ")"
  | steadfastCap cap => "steadfast_cap (" ++ toString cap ++ ") must lie in 0..=100"
  | slowDivisor => "slow_divisor must be positive"
  | berserkRounds => "berserk_rounds must be at least 1"

def flaw? (rules : Rules) : Option Flaw :=
  if rules.magicalChance > 100 ∨ rules.marksmanFloor > 100 then
    some (.hitChances rules.magicalChance rules.marksmanFloor)
  else if rules.steadfastCap < 0 ∨ rules.steadfastCap > 100 then
    some (.steadfastCap rules.steadfastCap)
  else if rules.slowDivisor = 0 then
    some .slowDivisor
  else if rules.berserkRounds = 0 then
    some .berserkRounds
  else
    none

/-- Experience for killing a unit of a level.  A victim of level zero is worth half a level. -/
def experienceForKill (rules : Rules) (level : Nat) : Nat :=
  if level = 0 then rules.killExperience / 2 else low32 (rules.killExperience * level)

/-- Experience for surviving a fight against a unit of a level. -/
def experienceForFight (_rules : Rules) (level : Nat) : Nat :=
  level

end Rules

end Hexfield
