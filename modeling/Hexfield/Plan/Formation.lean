import Hexfield.Battlefield

namespace Hexfield

/-!
Attackers moved onto the hexes of a plan, and moved back again.

The movements are made one by one.  One that is not possible is left out, so a formation remembers
which units did move, and from where; it is disbanded in the opposite order, in which every way
back is free.
-/

/-- A field on which some units have been moved. -/
structure Formation where
  field : Battlefield
  /-- The units that moved with the hexes they came from, the last one first. -/
  moved : List (UnitId × Hex)

namespace Formation

/-- One more unit moves, if it stands elsewhere and its destination is free. -/
def advance (formation : Formation) (movement : UnitId × Hex) : Formation :=
  match formation.field.roster.get? movement.1 with
  | none => formation
  | some unit =>
      if unit.hex = movement.2 then formation
      else
        match formation.field.relocate movement.1 movement.2 with
        | .ok field => { field, moved := (movement.1, unit.hex) :: formation.moved }
        | .error _ => formation

def form (field : Battlefield) (movements : List (UnitId × Hex)) : Formation :=
  movements.foldl advance { field, moved := [] }

/-- A unit returns to the hex it came from. -/
def withdraw (field : Battlefield) (movement : UnitId × Hex) : Battlefield :=
  match field.relocate movement.1 movement.2 with
  | .ok field => field
  | .error _ => field

def disband (formation : Formation) : Battlefield :=
  formation.moved.foldl withdraw formation.field

end Formation

end Hexfield
