import Hexfield.Exchange
import Hexfield.Proofs.Battlefield.Bearing
import Hexfield.Proofs.Matchup.Preference

namespace Hexfield

/-!
What the numbers of an attack are read from.

A matchup is read off the field before every swing, and a fight changes units all the time: it costs
them hitpoints, poisons them and gives them experience.  The makeup of a unit is what is left of it
without these.  Every number of a single strike depends on makeups only, so it stays the same as
long as no one is slowed or turned to stone.  What the hitpoints do decide is how many strikes a
swarm makes, and with this which of several swarming weapons a defender prefers.
-/

/-- A unit without its hitpoints, its experience, its poison and its rest. -/
def Combatant.makeup (unit : Combatant) : Combatant :=
  { unit with
    hitpoints := 0
    experience := 0
    status := { unit.status with poisoned := false, resting := false } }

/-- The profile of a single strike. -/
def StrikeProfile.perStrike (profile : StrikeProfile) : StrikeProfile :=
  { profile with strikes := 0 }

def Blow.makeup (blow : Blow) : Blow :=
  { blow with striker := blow.striker.makeup, target := blow.target.makeup }

def Pairing.makeup (pairing : Pairing) : Pairing :=
  { pairing with attacker := pairing.attacker.makeup, defender := pairing.defender.makeup }

namespace Battlefield
namespace Keeps

variable {before after : Battlefield} (keeps : before.Keeps Combatant.makeup after)

include keeps

theorem bearing : before.Keeps Combatant.bearing after := by
  apply keeps.coarsen
  intro unit unit' same
  exact (congrArg Combatant.bearing same :)

theorem chanceToBeHit (unit : Combatant) :
    after.chanceToBeHit unit = before.chanceToBeHit unit := by
  rw [Battlefield.chanceToBeHit, Battlefield.chanceToBeHit, keeps.terrainAt]

theorem damageFigure {blow blow' : Blow} (same : blow'.makeup = blow.makeup) :
    after.damageFigure blow' = before.damageFigure blow := by
  have first : after.damageFigure blow' = after.damageFigure blow'.makeup := rfl
  have second : after.damageFigure blow.makeup = after.damageFigure blow := rfl
  rw [first, same, second]
  simp only [Battlefield.damageFigure, resistanceTo, daylightBonus, keeps.terrainAt,
    keeps.bearing.leadershipBonus rfl, keeps.rules, keeps.time]

theorem contagionAgainst {striker striker' target target' : Combatant}
    (sameStriker : striker'.makeup = striker.makeup) (sameTarget : target'.makeup = target.makeup)
    (weapon : Weapon) :
    after.contagionAgainst striker' target' weapon =
      before.contagionAgainst striker target weapon := by
  have first : after.contagionAgainst striker' target' weapon =
      after.contagionAgainst striker'.makeup target'.makeup weapon := rfl
  have second : after.contagionAgainst striker.makeup target.makeup weapon =
      after.contagionAgainst striker target weapon := rfl
  rw [first, sameStriker, sameTarget, second]
  simp only [Battlefield.contagionAgainst, keeps.rules, keeps.board]

/-- As long as makeups stay, a defender without swarming weapons keeps its pairing. -/
theorem makeup_pair {attacker attacker' defender defender' : Combatant}
    (sameAttacker : attacker'.makeup = attacker.makeup)
    (sameDefender : defender'.makeup = defender.makeup)
    (orderly : ∀ weapon ∈ defender.weapons, weapon.hasSpecial .swarm = false)
    (index : Nat) (weapon : Weapon) :
    (after.pair attacker' defender' index weapon).makeup =
      (before.pair attacker defender index weapon).makeup := by
  have weapons : defender'.weapons = defender.weapons := (congrArg Combatant.weapons sameDefender :)
  have choice : chooseCounter attacker' defender' weapon = chooseCounter attacker defender weapon :=
    chooseCounter_eq_of_orderly (congrArg Combatant.resistances sameAttacker :) weapons
      (congrArg Combatant.incapacitated sameDefender :) orderly weapon
  have attackerHex : attacker'.hex = attacker.hex := (congrArg Combatant.hex sameAttacker :)
  have defenderHex : defender'.hex = defender.hex := (congrArg Combatant.hex sameDefender :)
  simp only [Pairing.makeup, pair, sameAttacker, sameDefender, choice, weapons, attackerHex,
    defenderHex, keeps.bearing.canBackstab]

theorem perStrike_profile {blow blow' : Blow} (same : blow'.makeup = blow.makeup)
    (index chance : Nat) (backstab : Bool) :
    (Pairing.profile after blow' index chance backstab).perStrike =
      (Pairing.profile before blow index chance backstab).perStrike := by
  have striker : blow'.striker.makeup = blow.striker.makeup := congrArg Blow.striker same
  have target : blow'.target.makeup = blow.target.makeup := congrArg Blow.target same
  have weapon : blow'.weapon = blow.weapon := (congrArg Blow.weapon same :)
  have living : blow'.target.living = blow.target.living := (congrArg Combatant.living target :)
  simp only [StrikeProfile.perStrike, Pairing.profile, keeps.damageFigure same, weapon, living,
    keeps.contagionAgainst striker target]

theorem perStrike_attackerProfile {pairing pairing' : Pairing}
    (same : pairing'.makeup = pairing.makeup) :
    (pairing'.attackerProfile after).perStrike = (pairing.attackerProfile before).perStrike := by
  have blow : pairing'.attackerBlow.makeup = pairing.attackerBlow.makeup :=
    (congrArg Pairing.attackerBlow same :)
  have index : pairing'.weaponIndex = pairing.weaponIndex :=
    (congrArg Pairing.weaponIndex same :)
  have backstab : pairing'.backstab = pairing.backstab := (congrArg Pairing.backstab same :)
  have chance : pairing'.attackerChance after = pairing.attackerChance before := by
    have first : pairing'.attackerChance after = pairing'.makeup.attackerChance after := rfl
    have second : pairing.makeup.attackerChance after = pairing.attackerChance after := rfl
    rw [first, same, second]
    simp only [Pairing.attackerChance, keeps.chanceToBeHit, keeps.rules]
  rw [Pairing.attackerProfile, Pairing.attackerProfile, index, backstab, chance]
  exact keeps.perStrike_profile blow _ _ _

theorem perStrike_defenderProfile {pairing pairing' : Pairing}
    (same : pairing'.makeup = pairing.makeup) :
    (pairing'.defenderProfile after).perStrike = (pairing.defenderProfile before).perStrike := by
  have chance : pairing'.defenderChance after = pairing.defenderChance before := by
    have first : pairing'.defenderChance after = pairing'.makeup.defenderChance after := rfl
    have second : pairing.makeup.defenderChance after = pairing.defenderChance after := rfl
    rw [first, same, second]
    simp only [Pairing.defenderChance, keeps.chanceToBeHit, keeps.rules]
  have counter : pairing'.counter = pairing.counter := (congrArg Pairing.counter same :)
  unfold Pairing.defenderProfile
  rw [counter, chance]
  cases pairing.counter with
  | none => rfl
  | some answer =>
      have blow :
          (pairing'.defenderBlow answer.2).makeup = (pairing.defenderBlow answer.2).makeup :=
        (congrArg (fun paired => Pairing.defenderBlow paired answer.2) same :)
      exact keeps.perStrike_profile blow _ _ _

/-- Wherever makeups have stayed, each strike of an attack is still what it was at first. -/
theorem perStrike_profileOf {attacker defender : UnitId} {weapon : Nat} {first later : Pairing}
    (paired : before.pairing attacker defender weapon = .ok first)
    (pairedLater : after.pairing attacker defender weapon = .ok later)
    (orderly : ∀ weapon ∈ first.defender.weapons, weapon.hasSpecial .swarm = false)
    (role : Role) :
    ((later.matchup after).profileOf role).perStrike =
      ((first.matchup before).profileOf role).perStrike := by
  rcases pairing_eq_ok_iff.mp paired with
    ⟨attackerUnit, defenderUnit, chosen, foundAttacker, foundDefender, foundWeapon, rfl⟩
  rcases pairing_eq_ok_iff.mp pairedLater with
    ⟨attackerLater, defenderLater, chosenLater, aliveAttacker, aliveDefender, weaponLater, rfl⟩
  rcases keeps.get? foundAttacker with ⟨attackerKept, keptAttacker, sameAttacker⟩
  rcases keeps.get? foundDefender with ⟨defenderKept, keptDefender, sameDefender⟩
  cases aliveAttacker.symm.trans keptAttacker
  cases aliveDefender.symm.trans keptDefender
  have weapons : attackerLater.weapons = attackerUnit.weapons :=
    (congrArg Combatant.weapons sameAttacker :)
  rw [weapons] at weaponLater
  cases weaponLater.symm.trans foundWeapon
  have same := keeps.makeup_pair sameAttacker sameDefender orderly weapon chosen
  cases role with
  | attacker => exact keeps.perStrike_attackerProfile same
  | defender => exact keeps.perStrike_defenderProfile same

end Keeps
end Battlefield
end Hexfield
