import Hexfield.Proofs.Damage.Setbacks
import Hexfield.Proofs.Hex.Distance
import Hexfield.Proofs.Roster.History

namespace Hexfield

/-!
The numbers of an attack are read from nearby.

A matchup looks at the two combatants, at the ground on which they stand, at the leaders next to
them and at whoever stands behind the defender, which is next to it too.  So it does not matter what
else is on the field, nor by which numbers the units are known there.  The combatants themselves may
stand anywhere: who is not next to the defender stabs no one in its back, wherever it is.
-/

/-- Off the board there is no village, as there is none on flat ground. -/
theorem Battlefield.isVillage_board (field : Battlefield) (hex : Hex) :
    field.board.isVillage hex = (field.terrainAt hex).isVillage := by
  unfold Board.isVillage terrainAt
  cases field.board.terrainAt? hex with
  | none => rfl
  | some terrain => rfl

namespace Battlefield

/-- Two fields of the same sides, at the same hour and under the same rules. -/
structure SameSetting (first second : Battlefield) : Prop where
  teams : second.teams = first.teams
  time : second.time = first.time
  rules : second.rules = first.rules

/-- Two fields with the same ground on a hex and the same units next to it. -/
structure SameAround (first second : Battlefield) (hex : Hex) : Prop where
  ground : second.terrainAt hex = first.terrainAt hex
  neighbours : ∀ next ∈ hex.neighbors, second.roster.unitAt? next = first.roster.unitAt? next

variable {first second : Battlefield}

theorem sameAround_of_directions {hex : Hex}
    (ground : second.terrainAt hex = first.terrainAt hex)
    (units : ∀ direction, second.roster.unitAt? (hex.neighbor direction) =
      first.roster.unitAt? (hex.neighbor direction)) : first.SameAround second hex := by
  refine ⟨ground, ?_⟩
  intro next near
  rcases (Hex.mem_neighbors_iff hex next).mp near with ⟨direction, rfl⟩
  exact units direction

namespace SameAround

variable {unit : Combatant} (same : first.SameAround second unit.hex)

include same

theorem chanceToBeHit : second.chanceToBeHit unit = first.chanceToBeHit unit := by
  rw [Battlefield.chanceToBeHit, Battlefield.chanceToBeHit, same.ground]

theorem leadershipBonus (setting : first.SameSetting second) :
    second.leadershipBonus unit = first.leadershipBonus unit := by
  apply leadershipBonus_congr (congrArg Rules.leadershipPerLevel setting.rules) rfl
  intro hex next
  rw [same.neighbours hex next]

theorem contagionAgainst (setting : first.SameSetting second) (striker : Combatant)
    (weapon : Weapon) :
    second.contagionAgainst striker unit weapon = first.contagionAgainst striker unit weapon := by
  simp only [Battlefield.contagionAgainst, isVillage_board, setting.rules, same.ground]

theorem canBackstab (setting : first.SameSetting second)
    (there : second.roster.unitAt? unit.hex = first.roster.unitAt? unit.hex) (attackerHex : Hex) :
    second.canBackstab attackerHex unit.hex = first.canBackstab attackerHex unit.hex := by
  apply canBackstab_congr setting.teams
  · rw [there]
  · intro behind opposite
    rw [same.neighbours behind (Hex.mem_neighbors_of_oppositeOf opposite)]

end SameAround

/-- Two fields in which two combatants find the same setting, and the same around either of them. -/
structure SameScene (first second : Battlefield) (attacker defender : Combatant) : Prop where
  setting : first.SameSetting second
  attacker : first.SameAround second attacker.hex
  defender : first.SameAround second defender.hex

namespace SameScene

variable {attacker defender : Combatant}

theorem symm (same : first.SameScene second attacker defender) :
    first.SameScene second defender attacker :=
  ⟨same.setting, same.defender, same.attacker⟩

theorem damageFigure {blow : Blow} (same : first.SameScene second blow.striker blow.target) :
    second.damageFigure blow = first.damageFigure blow := by
  simp only [Battlefield.damageFigure, resistanceTo, daylightBonus, same.defender.ground,
    same.attacker.leadershipBonus same.setting, same.setting.rules, same.setting.time]

theorem profile {blow : Blow} (same : first.SameScene second blow.striker blow.target)
    (index chance : Nat) (backstab : Bool) :
    Pairing.profile second blow index chance backstab =
      Pairing.profile first blow index chance backstab := by
  simp only [Pairing.profile, same.damageFigure, same.defender.contagionAgainst same.setting]

theorem matchup (pairing : Pairing)
    (same : first.SameScene second pairing.attacker pairing.defender) :
    pairing.matchup second = pairing.matchup first := by
  have attackerChance : pairing.attackerChance second = pairing.attackerChance first := by
    simp only [Pairing.attackerChance, same.defender.chanceToBeHit, same.setting.rules]
  have defenderChance : pairing.defenderChance second = pairing.defenderChance first := by
    simp only [Pairing.defenderChance, same.attacker.chanceToBeHit, same.setting.rules]
  have attacks : pairing.attackerProfile second = pairing.attackerProfile first := by
    rw [Pairing.attackerProfile, attackerChance]
    exact same.profile _ _ _
  have answers : pairing.defenderProfile second = pairing.defenderProfile first := by
    unfold Pairing.defenderProfile
    rw [defenderChance]
    cases pairing.counter with
    | none => rfl
    | some answer => exact same.symm.profile _ _ _
  simp only [Pairing.matchup, attacks, answers, same.setting.rules]

end SameScene

/-- The numbers of an attack between units on the field, once the weapon is found. -/
theorem matchup_eq_map {field : Battlefield} {attackerId defenderId : UnitId}
    {attacker defender : Combatant} (foundAttacker : field.roster.get? attackerId = some attacker)
    (foundDefender : field.roster.get? defenderId = some defender) (index : Nat) :
    field.matchup attackerId defenderId index =
      (attacker.weapon index).map fun weapon =>
        (field.pair attacker defender index weapon).matchup field := by
  have attackerUnit := unit_eq_ok_iff.mpr foundAttacker
  have defenderUnit := unit_eq_ok_iff.mpr foundDefender
  simp only [Battlefield.matchup, pairing, bind, Except.bind, attackerUnit, defenderUnit]
  cases attacker.weapon index with
  | error fault => rfl
  | ok weapon => rfl

/-- In one setting the numbers of an attack depend on the combatants, on the ground under them and
on the units next to them, whatever the numbers of the units are and whatever else there is on the
field.  They are known for every weapon of the attacker. -/
theorem matchup_eq_of_sameAround (setting : first.SameSetting second)
    (consistent : first.roster.Consistent) (consistent' : second.roster.Consistent)
    {attackerId attackerId' defenderId defenderId' : UnitId} {attacker defender : Combatant}
    (attackerHere : first.roster.get? attackerId = some attacker)
    (attackerThere : second.roster.get? attackerId' = some attacker)
    (defenderHere : first.roster.get? defenderId = some defender)
    (defenderThere : second.roster.get? defenderId' = some defender)
    (aroundAttacker : first.SameAround second attacker.hex)
    (aroundDefender : first.SameAround second defender.hex) (index : Nat) :
    second.matchup attackerId' defenderId' index = first.matchup attackerId defenderId index ∧
      (index < attacker.weapons.length →
        ∃ matchup, first.matchup attackerId defenderId index = .ok matchup) := by
  -- The defender need not be next to the attacker, so its own hex is known from the index only.
  have target : first.roster.unitAt? defender.hex = some defender :=
    consistent.unitAt?_eq_some_iff.mpr ⟨defenderId, defenderHere, rfl⟩
  have target' : second.roster.unitAt? defender.hex = some defender :=
    consistent'.unitAt?_eq_some_iff.mpr ⟨defenderId', defenderThere, rfl⟩
  have paired : ∀ weapon, second.pair attacker defender index weapon =
      first.pair attacker defender index weapon := by
    intro weapon
    simp only [pair, aroundDefender.canBackstab setting (target'.trans target.symm)]
  have same : first.SameScene second attacker defender :=
    ⟨setting, aroundAttacker, aroundDefender⟩
  rw [matchup_eq_map attackerHere defenderHere, matchup_eq_map attackerThere defenderThere]
  constructor
  · congr 1
    funext weapon
    rw [paired]
    exact SameScene.matchup (first.pair attacker defender index weapon) same
  · intro carried
    have found : attacker.weapon index = .ok attacker.weapons[index] :=
      Combatant.weapon_eq_ok_iff.mpr (List.getElem?_eq_getElem carried)
    rw [found]
    exact ⟨_, rfl⟩

end Battlefield

/-! ## A pincer seen elsewhere -/

/-- The pincer on a larger board with a castle, entered in another order, and watched by a picket
from afar. -/
def Battlefield.watchedPincer : Battlefield :=
  { board := (Board.flat 8 6).setTerrain ⟨5, 4⟩ .castle
    roster :=
      { slots := #[some .captain, some (.ofType "Picket" ⟨2⟩ ⟨6, 4⟩ 30), some .skulker,
          some .sentinel, some .lancer]
        index := (((((∅ : Std.ExtTreeMap Hex UnitId).insert ⟨0, 1⟩ ⟨0⟩).insert ⟨6, 4⟩ ⟨1⟩).insert
          ⟨2, 0⟩ ⟨2⟩).insert ⟨1, 0⟩ ⟨3⟩).insert ⟨0, 0⟩ ⟨4⟩ }
    teams := .twoSides
    time := .morning
    rules := {} }

namespace Battlefield

theorem consistent_watchedPincer : watchedPincer.roster.Consistent := by
  have captain := Roster.consistent_empty.insert (by decide)
    (rfl : Roster.empty.insert .captain = .ok (⟨0⟩, _))
  have picket := captain.insert (by decide)
    (rfl : Roster.insert _ (.ofType "Picket" ⟨2⟩ ⟨6, 4⟩ 30) = .ok (⟨1⟩, _))
  have skulker := picket.insert (by decide) (rfl : Roster.insert _ .skulker = .ok (⟨2⟩, _))
  have sentinel := skulker.insert (by decide) (rfl : Roster.insert _ .sentinel = .ok (⟨3⟩, _))
  exact sentinel.insert (by decide)
    (rfl : Roster.insert _ .lancer = .ok (⟨4⟩, watchedPincer.roster))

/-- The lancer, led by the captain and helped by the skulker, does the same to the sentinel on both
fields. -/
theorem matchup_eq_of_sameAround_pincer :
    watchedPincer.matchup ⟨4⟩ ⟨3⟩ 0 = pincer.matchup ⟨0⟩ ⟨1⟩ 0 ∧
      ∃ matchup, pincer.matchup ⟨0⟩ ⟨1⟩ 0 = .ok matchup := by
  have setting : pincer.SameSetting watchedPincer := ⟨rfl, rfl, rfl⟩
  have lancer : pincer.roster.get? ⟨0⟩ = some .lancer := rfl
  have lancer' : watchedPincer.roster.get? ⟨4⟩ = some .lancer := rfl
  have sentinel : pincer.roster.get? ⟨1⟩ = some .sentinel := rfl
  have sentinel' : watchedPincer.roster.get? ⟨3⟩ = some .sentinel := rfl
  have aroundLancer : pincer.SameAround watchedPincer Combatant.lancer.hex :=
    sameAround_of_directions (by decide +kernel) (by intro direction; cases direction <;> rfl)
  have aroundSentinel : pincer.SameAround watchedPincer Combatant.sentinel.hex :=
    sameAround_of_directions (by decide +kernel) (by intro direction; cases direction <;> rfl)
  rcases matchup_eq_of_sameAround setting consistent_pincer consistent_watchedPincer lancer lancer'
    sentinel sentinel' aroundLancer aroundSentinel 0 with ⟨same, known⟩
  exact ⟨same, known (by decide)⟩

end Battlefield
end Hexfield
