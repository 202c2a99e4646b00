import Hexfield.Text

namespace Hexfield

/-!
Terrain, ways of moving, and the two tables that join them: how likely a unit is hit where it
stands, and how many movement points it costs to enter a hex.
-/

/-- The ground of one hex. -/
inductive Terrain where
  | flat
  | road
  | forest
  | hills
  | mountains
  | village
  | castle
  | keep
  | shallowWater
  | deepWater
  | swamp
  | sand
  | cave
deriving DecidableEq

/-- How a unit moves, which decides its row of both tables. -/
inductive MovementType where
  | infantry
  | mounted
  | elusive
  | flying
  | undead
deriving DecidableEq

namespace Terrain

instance : Named Terrain where
  all :=
    [flat, road, forest, hills, mountains, village, castle, keep, shallowWater, deepWater, swamp,
      sand, cave]
  name
    | flat => "flat"
    | road => "road"
    | forest => "forest"
    | hills => "hills"
    | mountains => "mountains"
    | village => "village"
    | castle => "castle"
    | keep => "keep"
    | shallowWater => "shallow_water"
    | deepWater => "deep_water"
    | swamp => "swamp"
    | sand => "sand"
    | cave => "cave"

def isVillage (terrain : Terrain) : Bool :=
  terrain == village

def isKeep (terrain : Terrain) : Bool :=
  terrain == keep

/-- A keep is a castle with a throne. -/
def isCastle (terrain : Terrain) : Bool :=
  terrain == castle || terrain == keep

/-- The terrain whose table entries count: a road is flat ground and a keep is a castle. -/
def tableRow : Terrain → Terrain
  | road => flat
  | keep => castle
  | terrain => terrain

end Terrain

namespace MovementType

instance : Named MovementType where
  all := [infantry, mounted, elusive, flying, undead]
  name
    | infantry => "infantry"
    | mounted => "mounted"
    | elusive => "elusive"
    | flying => "flying"
    | undead => "undead"

/-- The chance in percent that a unit is hit on a terrain. -/
def chanceToBeHit (movementType : MovementType) (terrain : Terrain) : Nat :=
  match movementType, terrain.tableRow with
  | flying, .cave => 80
  | flying, _ => 50
  | _, .shallowWater => 80
  | _, .deepWater => 90
  | _, .sand => 70
  | undead, .swamp => 70
  | _, .swamp => 80
  | mounted, .forest => 70
  | elusive, .forest => 30
  | _, .forest => 50
  | mounted, .hills => 60
  | _, .hills => 50
  | mounted, .mountains => 70
  | elusive, .mountains => 30
  | _, .mountains => 40
  | mounted, .village => 60
  | elusive, .village => 30
  | _, .village => 40
  | mounted, .castle => 60
  | elusive, .castle => 30
  | _, .castle => 40
  | mounted, .cave => 80
  | elusive, .cave => 50
  | _, .cave => 60
  | _, .flat => 60
  | _, .road => 60
  | _, .keep => 60

/-- The movement points that entering a terrain costs; `none` where the unit cannot go. -/
def movementCost (movementType : MovementType) (terrain : Terrain) : Option Nat :=
  match movementType, terrain.tableRow with
  | flying, .cave => some 3
  | flying, _ => some 1
  | _, .flat => some 1
  | _, .village => some 1
  | _, .castle => some 1
  | _, .road => some 1
  | _, .keep => some 1
  | mounted, .forest => some 3
  | _, .forest => some 2
  | _, .hills => some 2
  | _, .sand => some 2
  | mounted, .cave => some 4
  | _, .cave => some 2
  | mounted, .mountains => none
  | _, .mountains => some 3
  | mounted, .shallowWater => some 4
  | _, .shallowWater => some 3
  | mounted, .swamp => some 4
  | undead, .swamp => some 2
  | _, .swamp => some 3
  | undead, .deepWater => some 3
  | _, .deepWater => none

end MovementType

end Hexfield
