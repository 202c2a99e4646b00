import Hexfield.Battlefield

namespace Hexfield

/-!
How far a unit can move in one turn.

Movement points are spent on entering hexes.  Enemies bar their hexes; allies can be passed, but
not stopped on; and next to an active enemy a move ends, unless the unit is a skirmisher.  The
cheapest cost of each hex is found by settling hexes in the order of their costs.
-/

/-- A hex where a unit can end its move, and the movement points it takes to get there. -/
structure Reachable where
  hex : Hex
  cost : Nat
deriving DecidableEq

/-- The terms on which a unit moves. -/
structure Walk where
  start : Hex
  /-- The movement points it may spend. -/
  budget : Nat
  /-- What entering a hex costs; `none` where it cannot go. -/
  entry : Hex → Option Nat
  /-- Hexes that can be entered but not left. -/
  halts : Hex → Bool

namespace Walk

/-- A way from the start to a hex, step by step, with its total cost.  Only the start may be left
although it is a hex that halts. -/
inductive Route (walk : Walk) : Hex → Nat → Prop where
  | start : Route walk walk.start 0
  | step {hex next : Hex} {cost price : Nat} :
      Route walk hex cost → (hex = walk.start ∨ walk.halts hex = false) →
        next ∈ hex.neighbors → walk.entry next = some price → Route walk next (cost + price)

/-- Hexes whose least cost is known, and hexes that were reached from one of them. -/
structure Survey where
  settled : Std.ExtTreeMap Hex Nat
  frontier : Std.ExtTreeMap Hex Nat

namespace Survey

/-- Only the start is reached. -/
def start (walk : Walk) : Survey :=
  { settled := ∅, frontier := (∅ : Std.ExtTreeMap Hex Nat).insert walk.start 0 }

/-- The cheaper of two hexes, the first one if they cost the same. -/
def cheaper (best : Option (Hex × Nat)) (candidate : Hex × Nat) : Option (Hex × Nat) :=
  match best with
  | none => some candidate
  | some leader => if candidate.2 < leader.2 then some candidate else some leader

/-- The cheapest hex of the frontier. -/
def nearest? (survey : Survey) : Option (Hex × Nat) :=
  survey.frontier.toList.foldl cheaper none

/-- A neighbour of a hex of known cost is reached, if the budget allows it and no cheaper way is
known. -/
def reach (walk : Walk) (cost : Nat) (survey : Survey) (neighbor : Hex) : Survey :=
  match walk.entry neighbor with
  | none => survey
  | some price =>
      let total := cost + price
      if walk.budget < total ∨ neighbor ∈ survey.settled then survey
      else
        match survey.frontier[neighbor]? with
        | some known =>
            if total < known then
              { survey with frontier := survey.frontier.insert neighbor total }
            else
              survey
        | none => { survey with frontier := survey.frontier.insert neighbor total }

/-- A hex of the frontier is settled, and its neighbours are reached from it. -/
def settle (walk : Walk) (survey : Survey) (hex : Hex) (cost : Nat) : Survey :=
  let survey : Survey :=
    { settled := survey.settled.insert hex cost, frontier := survey.frontier.erase hex }
  if hex ≠ walk.start ∧ walk.halts hex then survey
  else hex.neighbors.foldl (reach walk cost) survey

/-- At most so many hexes are settled, the cheapest first. -/
def settleAll (walk : Walk) : Nat → Survey → Survey
  | 0, survey => survey
  | count + 1, survey =>
      match survey.nearest? with
      | none => survey
      | some (hex, cost) => settleAll walk count (settle walk survey hex cost)

end Survey

/-- The hexes within the budget with their least costs, in the order of hexes.  No more than `size`
hexes can be entered, and the start need not be one of them. -/
def reachable (walk : Walk) (size : Nat) : List Reachable :=
  ((Survey.start walk).settleAll walk (size + 1)).settled.toList.map
    fun (hex, cost) => { hex, cost }

end Walk

namespace Battlefield

/-- The cost for a unit to enter a hex: none off the board, where its kind cannot go, and where an
enemy stands. -/
def entryCost (field : Battlefield) (unit : Combatant) (hex : Hex) : Option Nat :=
  if field.board.inBounds hex then
    match unit.movementType.movementCost (field.terrainAt hex) with
    | none => none
    | some cost => if field.enemyAt hex unit.side then none else some cost
  else
    none

/-- The terms on which a unit moves.  A petrified unit has no movement points. -/
def walkOf (field : Battlefield) (unit : Combatant) : Walk :=
  { start := unit.hex
    budget := if unit.incapacitated then 0 else unit.movement
    entry := field.entryCost unit
    halts := fun hex => !unit.abilities.skirmisher && field.enemyAdjacent hex unit.side }

/-- The hexes where a unit can end its move, in the order of hexes: its own, and those in reach that
no unit stands on. -/
def reachableBy (field : Battlefield) (unit : Combatant) : List Reachable :=
  ((field.walkOf unit).reachable (field.board.width * field.board.height)).filter
    fun reachable => reachable.hex == unit.hex || (field.roster.idAt? reachable.hex).isNone

/-- The hexes where the unit with a number can end its move. -/
def reachable (field : Battlefield) (id : UnitId) : Except Fault (List Reachable) :=
  (field.unit id).map field.reachableBy

end Battlefield

end Hexfield
