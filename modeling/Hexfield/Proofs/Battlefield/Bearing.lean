import Hexfield.Matchup
import Hexfield.Proofs.Battlefield.Traits
import Mathlib.Data.List.Basic

namespace Hexfield

/-!
What units are to those around them.

With its neighbours a unit counts for where it stands, whose it is, how far it has risen, whether it
leads, and whether it is stone.  Together with its alignment this is its bearing.  Bearings decide
who strengthens whom and who can be stabbed in the back, and they do so from a few hexes only: the
leader of a unit is next to it, and the flanker of a target behind it.  So what happens to
hitpoints, weapons and resistances, or elsewhere on the field, leaves both alone.
-/

/-- What a unit is to those around it. -/
structure Bearing where
  hex : Hex
  side : Side
  level : Nat
  alignment : Alignment
  leads : Bool
  stone : Bool

def Combatant.bearing (unit : Combatant) : Bearing :=
  { hex := unit.hex, side := unit.side, level := unit.level, alignment := unit.alignment
    leads := unit.abilities.leadership, stone := unit.incapacitated }

namespace Battlefield

variable {before after : Battlefield} {unit unit' : Combatant}

/-- Units of one bearing get the same from leaders of one bearing. -/
theorem bonusFrom?_congr
    (rules : after.rules.leadershipPerLevel = before.rules.leadershipPerLevel)
    (same : unit'.bearing = unit.bearing) {leader leader' : Combatant}
    (sameLeader : leader'.bearing = leader.bearing) :
    after.bonusFrom? unit' leader' = before.bonusFrom? unit leader := by
  have side : unit'.side = unit.side := congrArg Bearing.side same
  have level : unit'.level = unit.level := congrArg Bearing.level same
  have leaderSide : leader'.side = leader.side := congrArg Bearing.side sameLeader
  have leaderLevel : leader'.level = leader.level := congrArg Bearing.level sameLeader
  have leads : leader'.abilities.leadership = leader.abilities.leadership :=
    congrArg Bearing.leads sameLeader
  have stone : leader'.incapacitated = leader.incapacitated := congrArg Bearing.stone sameLeader
  simp only [bonusFrom?, rules, side, level, leaderSide, leaderLevel, leads, stone]

/-- The bonus of a unit from its leader depends on the bearings next to it. -/
theorem leadershipBonus_congr
    (rules : after.rules.leadershipPerLevel = before.rules.leadershipPerLevel)
    (same : unit'.bearing = unit.bearing)
    (neighbours : ∀ hex ∈ unit.hex.neighbors,
      (after.roster.unitAt? hex).map Combatant.bearing =
        (before.roster.unitAt? hex).map Combatant.bearing) :
    after.leadershipBonus unit' = before.leadershipBonus unit := by
  have hex : unit'.hex = unit.hex := congrArg Bearing.hex same
  have bonuses : unit.hex.neighbors.filterMap
        (fun hex => (after.roster.unitAt? hex).bind (after.bonusFrom? unit')) =
      unit.hex.neighbors.filterMap
        (fun hex => (before.roster.unitAt? hex).bind (before.bonusFrom? unit)) := by
    apply List.filterMap_congr
    intro hex next
    have here := neighbours hex next
    cases found : before.roster.unitAt? hex with
    | none =>
        rw [found] at here
        rw [Option.map_eq_none_iff.mp here, Option.bind_none, Option.bind_none]
    | some leader =>
        rw [found] at here
        rcases Option.map_eq_some_iff.mp here with ⟨leader', found', sameLeader⟩
        rw [found']
        exact bonusFrom?_congr rules same sameLeader
  simp only [leadershipBonus, List.filterMap_filterMap, hex, bonuses]

/-- A stab in the back depends on two bearings, that of the target and that of whoever stands behind
it. -/
theorem canBackstab_congr (teams : after.teams = before.teams) {attackerHex defenderHex : Hex}
    (there : (after.roster.unitAt? defenderHex).map Combatant.bearing =
      (before.roster.unitAt? defenderHex).map Combatant.bearing)
    (behind : ∀ hex, defenderHex.oppositeOf attackerHex = some hex →
      (after.roster.unitAt? hex).map Combatant.bearing =
        (before.roster.unitAt? hex).map Combatant.bearing) :
    after.canBackstab attackerHex defenderHex = before.canBackstab attackerHex defenderHex := by
  unfold canBackstab
  cases target : before.roster.unitAt? defenderHex with
  | none =>
      rw [target] at there
      rw [Option.map_eq_none_iff.mp there]
  | some defender =>
      rw [target] at there
      rcases Option.map_eq_some_iff.mp there with ⟨defender', target', same⟩
      rw [target']
      cases opposite : defenderHex.oppositeOf attackerHex with
      | none => rfl
      | some hex =>
          have back := behind hex opposite
          simp only [Option.bind_some]
          cases found : before.roster.unitAt? hex with
          | none =>
              rw [found] at back
              rw [Option.map_eq_none_iff.mp back]
          | some flanker =>
              rw [found] at back
              rcases Option.map_eq_some_iff.mp back with ⟨flanker', found', sameFlanker⟩
              have side : defender'.side = defender.side := congrArg Bearing.side same
              have flankerSide : flanker'.side = flanker.side :=
                congrArg Bearing.side sameFlanker
              have stone : flanker'.incapacitated = flanker.incapacitated :=
                congrArg Bearing.stone sameFlanker
              rw [found']
              simp only [isEnemy, teams, side, flankerSide, stone]

/-- Without anyone behind the target there is no stab in the back. -/
theorem canBackstab_eq_false {field : Battlefield} {attackerHex defenderHex behind : Hex}
    (opposite : defenderHex.oppositeOf attackerHex = some behind)
    (free : field.roster.unitAt? behind = none) :
    field.canBackstab attackerHex defenderHex = false := by
  unfold canBackstab
  rw [opposite, Option.bind_some, free]
  cases field.roster.unitAt? defenderHex <;> rfl

theorem daylightBonus_congr (time : after.time = before.time)
    (same : unit'.bearing = unit.bearing) :
    after.daylightBonus unit' = before.daylightBonus unit := by
  have alignment : unit'.alignment = unit.alignment := congrArg Bearing.alignment same
  rw [daylightBonus, daylightBonus, time, alignment]

namespace Keeps

variable (keeps : before.Keeps Combatant.bearing after)

include keeps

theorem leadershipBonus (same : unit'.bearing = unit.bearing) :
    after.leadershipBonus unit' = before.leadershipBonus unit :=
  leadershipBonus_congr (congrArg Rules.leadershipPerLevel keeps.rules) same
    fun hex _ => keeps.map_unitAt? hex

theorem canBackstab (attackerHex defenderHex : Hex) :
    after.canBackstab attackerHex defenderHex = before.canBackstab attackerHex defenderHex :=
  canBackstab_congr keeps.teams (keeps.map_unitAt? defenderHex) fun hex _ => keeps.map_unitAt? hex

end Keeps

end Battlefield
end Hexfield
