import Std.Data.ExtTreeSet
import Hexfield.Halving
import Hexfield.Movement.Reach

namespace Hexfield

/-!
Where each unit can go, and who can go to each hex.

The two maps are inverse to each other and canonical: their lists are strictly increasing, so they
depend only on which hexes a pathfinder reports, and not on how.
-/

/-- A service that says where a unit can end its move, in any order and with repetitions. -/
abbrev Pathfinder := Battlefield → UnitId → List Reachable

def Pathfinder.terrain : Pathfinder := fun field id =>
  match field.roster.get? id with
  | some unit => field.reachableBy unit
  | none => []

/-- Where each unit can go, and who can go to each hex. -/
structure MoveMaps where
  /-- The hexes where a unit can end its move, in order. -/
  destinationsOf : Std.ExtTreeMap UnitId (List Hex)
  /-- The units that can end their move on a hex, in order. -/
  moversTo : Std.ExtTreeMap Hex (List UnitId)

namespace MoveMaps

def empty : MoveMaps :=
  ⟨∅, ∅⟩

/-- A unit that can end its move on a hex is added after those that were added before. -/
def addMover (id : UnitId) (moversTo : Std.ExtTreeMap Hex (List UnitId)) (hex : Hex) :
    Std.ExtTreeMap Hex (List UnitId) :=
  moversTo.insert hex ((moversTo.getD hex []) ++ [id])

def addUnit (maps : MoveMaps) (id : UnitId) (hexes : List Hex) : MoveMaps :=
  { destinationsOf := maps.destinationsOf.insert id hexes
    moversTo := hexes.foldl (addMover id) maps.moversTo }

/-- The numbers of live units that are not petrified, in order and without repetition. -/
def activeMovers (field : Battlefield) (movers : List UnitId) : List UnitId :=
  (Std.ExtTreeSet.ofList (movers.filter fun id =>
    (field.roster.get? id).any fun unit => !unit.incapacitated)).toList

/-- The hexes that a pathfinder reports for a unit, in order and without repetition. -/
def destinationList (field : Battlefield) (pathfinder : Pathfinder) (id : UnitId) : List Hex :=
  (Std.ExtTreeSet.ofList ((pathfinder field id).map Reachable.hex)).toList

/-- The maps of a list of units.  Dead and petrified units are left out. -/
def build (field : Battlefield) (pathfinder : Pathfinder) (movers : List UnitId) : MoveMaps :=
  (activeMovers field movers).foldl
    (fun maps id => maps.addUnit id (destinationList field pathfinder id)) empty

def ofAllies (field : Battlefield) (pathfinder : Pathfinder) (side : Side) : MoveMaps :=
  build field pathfinder (field.alliesOf side)

def ofEnemies (field : Battlefield) (pathfinder : Pathfinder) (side : Side) : MoveMaps :=
  build field pathfinder (field.enemiesOf side)

/-- The hexes where a unit can end its move. -/
def destinations (maps : MoveMaps) (id : UnitId) : List Hex :=
  maps.destinationsOf.getD id []

/-- The units that can end their move on a hex. -/
def movers (maps : MoveMaps) (hex : Hex) : List UnitId :=
  maps.moversTo.getD hex []

/-- The unit can end its move on the hex, which is looked up among its destinations as in a list in
order. -/
def reaches (maps : MoveMaps) (id : UnitId) (hex : Hex) : Bool :=
  Halving.contains (maps.destinations id) hex

end MoveMaps

end Hexfield
