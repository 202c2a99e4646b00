import Hexfield.Board
import Hexfield.Roster

namespace Hexfield

/-!
The battlefield: the board, the units on it, the sides, the hour and the rules.
-/

structure Battlefield where
  board : Board
  roster : Roster
  teams : Teams
  time : TimeOfDay
  rules : Rules

namespace Battlefield

def addUnit (field : Battlefield) (unit : Combatant) : Except Fault (UnitId × Battlefield) :=
  if field.board.inBounds unit.hex then
    (field.roster.insert unit).map fun (id, roster) => (id, { field with roster })
  else
    .error (.offMap unit.hex)

theorem addUnit_eq_ok {field after : Battlefield} {unit : Combatant} {id : UnitId}
    (placed : field.addUnit unit = .ok (id, after)) :
    ∃ roster, field.roster.insert unit = .ok (id, roster) ∧ after = { field with roster } := by
  unfold addUnit at placed
  split at placed
  · cases inserted : field.roster.insert unit with
    | error fault =>
        rw [inserted] at placed
        cases placed
    | ok result =>
        rw [inserted] at placed
        cases placed
        exact ⟨_, rfl, rfl⟩
  · cases placed

/-- The unit with a number, which the caller promises to be alive. -/
def unit (field : Battlefield) (id : UnitId) : Except Fault Combatant :=
  match field.roster.get? id with
  | some unit => .ok unit
  | none => .error (.noSuchUnit id)

/-- A live unit is changed in place. -/
def update (field : Battlefield) (id : UnitId) (change : Combatant → Combatant) : Battlefield :=
  { field with roster := field.roster.update id change }

def erase (field : Battlefield) (id : UnitId) : Battlefield :=
  { field with roster := field.roster.erase id }

/-- A unit moves to a free hex. -/
def relocate (field : Battlefield) (id : UnitId) (target : Hex) : Except Fault Battlefield :=
  (field.roster.relocate id target).map fun roster => { field with roster }

/-- The terrain of a hex; off the board the ground is flat. -/
def terrainAt (field : Battlefield) (hex : Hex) : Terrain :=
  (field.board.terrainAt? hex).getD .flat

/-- The chance in percent that a unit is hit where it stands. -/
def chanceToBeHit (field : Battlefield) (unit : Combatant) : Nat :=
  unit.chanceToBeHit (field.terrainAt unit.hex)

def isEnemy (field : Battlefield) (a b : Side) : Bool :=
  field.teams.isEnemy a b

/-- The damage bonus of a unit at this hour, in percent. -/
def daylightBonus (field : Battlefield) (unit : Combatant) : Int :=
  field.time.bonus unit.alignment

/-- The damage bonus that a leader next to a unit would give it, if it leads at all. -/
def bonusFrom? (field : Battlefield) (led leader : Combatant) : Option Int :=
  if leader.side = led.side ∧ leader.abilities.leadership ∧ ¬ leader.incapacitated ∧
      led.level < leader.level then
    some (signed32 (leader.level - led.level) * field.rules.leadershipPerLevel)
  else
    none

/-- The damage bonus of a unit from the best leader next to it, in percent. -/
def leadershipBonus (field : Battlefield) (unit : Combatant) : Int :=
  let neighbours := unit.hex.neighbors.filterMap field.roster.unitAt?
  ((neighbours.filterMap (field.bonusFrom? unit)).max?).getD 0

/-- An enemy of a side that is not petrified stands next to a hex. -/
def enemyAdjacent (field : Battlefield) (hex : Hex) (side : Side) : Bool :=
  hex.neighbors.any fun neighbor =>
    (field.roster.unitAt? neighbor).any fun unit =>
      !unit.incapacitated && field.isEnemy unit.side side

/-- An enemy of a side, petrified or not, stands on a hex. -/
def enemyAt (field : Battlefield) (hex : Hex) (side : Side) : Bool :=
  (field.roster.unitAt? hex).any fun unit => field.isEnemy unit.side side

/-- The live units of a side, in increasing order of their numbers. -/
def unitsOf (field : Battlefield) (side : Side) : List UnitId :=
  (field.roster.entries.filter fun (_, unit) => unit.side == side).map Prod.fst

/-- The live enemies of a side, in increasing order of their numbers. -/
def enemiesOf (field : Battlefield) (side : Side) : List UnitId :=
  (field.roster.entries.filter fun (_, unit) => field.isEnemy unit.side side).map Prod.fst

/-- The live units of a side and of its allies, in increasing order of their numbers. -/
def alliesOf (field : Battlefield) (side : Side) : List UnitId :=
  (field.roster.entries.filter fun (_, unit) => !field.isEnemy unit.side side).map Prod.fst

end Battlefield

end Hexfield
