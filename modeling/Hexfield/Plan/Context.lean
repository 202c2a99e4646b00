import Hexfield.Dice
import Hexfield.Movement.MoveMaps
import Hexfield.Plan.Personality

namespace Hexfield

/-!
What the planning of one side works on.

A planner reads a field and the moves of both sides as they were when planning began.  It draws
rolls, and it remembers the cover that each unit was found to have, also when the field changes
afterwards.
-/

/-- The best cover in the reach of a unit. -/
structure Cover (α : Type) where
  hex : Hex
  /-- The chance to be hit there, as a fraction. -/
  chance : α

/-- What the planning of one side works on. -/
structure Context (α ρ : Type) where
  field : Battlefield
  side : Side
  personality : Personality α
  /-- The moves of the side and its allies. -/
  ownMoves : MoveMaps
  enemyMoves : MoveMaps
  /-- Hexes that the side has attacked before in this turn. -/
  engaged : List Hex
  rolls : ρ
  /-- The cover that was looked up before. -/
  covers : Std.ExtTreeMap UnitId (Cover α)

/-- Planning: it works on a context, which outlasts a failure. -/
abbrev Planner (α ρ : Type) := EStateM Fault (Context α ρ)

namespace Context

variable {α ρ : Type}

/-- The start of planning. -/
def begin (field : Battlefield) (side : Side) (personality : Personality α)
    (pathfinder : Pathfinder) (engaged : List Hex) (rolls : ρ) : Context α ρ :=
  { field, side, personality
    ownMoves := MoveMaps.ofAllies field pathfinder side
    enemyMoves := MoveMaps.ofEnemies field pathfinder side
    engaged, rolls, covers := ∅ }

variable [Scalar α]

/-- The cover that a unit has on a hex. -/
@[specialize] def coverAt (field : Battlefield) (unit : Combatant) (hex : Hex) : Cover α :=
  { hex, chance := Scalar.percent (unit.chanceToBeHit (field.terrainAt hex)) }

/-- The better of two covers, the first one if they are equally good. -/
@[specialize] def betterCover (best candidate : Cover α) : Cover α :=
  if candidate.chance < best.chance then candidate else best

/-- The best cover in the reach of a unit: on the first such hex in the order of hexes.  A unit that
has no moves stays where it is. -/
@[specialize] def bestCover (field : Battlefield) (moves : MoveMaps) (id : UnitId)
    (unit : Combatant) : Cover α :=
  match moves.destinations id with
  | [] => coverAt field unit unit.hex
  | first :: others =>
      (others.map (coverAt field unit)).foldl betterCover (coverAt field unit first)

end Context

namespace Planner

variable {α ρ : Type} [Scalar α]

/-- The best cover of a unit, which is looked up once. -/
@[specialize] def cover (id : UnitId) : Planner α ρ (Cover α) := do
  let context ← get
  match context.covers[id]? with
  | some known => pure known
  | none =>
      let unit ← ofExcept (context.field.unit id)
      let best := Context.bestCover context.field context.ownMoves id unit
      set { context with covers := context.covers.insert id best }
      pure best

end Planner

end Hexfield
