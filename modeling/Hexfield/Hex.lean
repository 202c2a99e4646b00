import Std.Data.ExtTreeMap
import Hexfield.Text

namespace Hexfield

/-!
Hexes of the unbounded grid in axial coordinates.

Each hex has six neighbours, one in each direction.  The list of directions runs around the hex, so
directions three places apart are opposite.  Hexes are ordered by their first coordinate and then
by their second.
-/

/-- A hex in axial coordinates. -/
structure Hex where
  q : Int
  r : Int
deriving DecidableEq

/-- One of the six sides of a hex. -/
inductive Direction where
  | east
  | northEast
  | northWest
  | west
  | southWest
  | southEast
deriving DecidableEq

namespace Direction

/-- The directions around a hex, in the order in which neighbours are listed. -/
def all : List Direction :=
  [east, northEast, northWest, west, southWest, southEast]

theorem mem_all (direction : Direction) : direction ∈ all := by
  cases direction <;> decide

instance : Named Direction where
  all := all
  name
    | east => "East"
    | northEast => "NorthEast"
    | northWest => "NorthWest"
    | west => "West"
    | southWest => "SouthWest"
    | southEast => "SouthEast"

/-- The step from a hex to its neighbour in this direction. -/
def offset : Direction → Hex
  | east => ⟨1, 0⟩
  | northEast => ⟨1, -1⟩
  | northWest => ⟨0, -1⟩
  | west => ⟨-1, 0⟩
  | southWest => ⟨-1, 1⟩
  | southEast => ⟨0, 1⟩

def opposite : Direction → Direction
  | east => west
  | northEast => southWest
  | northWest => southEast
  | west => east
  | southWest => northEast
  | southEast => northWest

@[simp] theorem opposite_opposite (direction : Direction) :
    direction.opposite.opposite = direction := by
  cases direction <;> rfl

end Direction

namespace Hex

instance : Ord Hex where
  compare := compareLex (compareOn Hex.q) (compareOn Hex.r)

instance : Std.TransOrd Hex :=
  inferInstanceAs (Std.TransCmp (compareLex (compareOn Hex.q) (compareOn Hex.r)))

instance : Std.LawfulEqOrd Hex where
  eq_of_compare {a b} same := by
    rcases a with ⟨aq, ar⟩
    rcases b with ⟨bq, br⟩
    have parts : compare aq bq = .eq ∧ compare ar br = .eq := Ordering.then_eq_eq.mp same
    rw [Std.LawfulEqCmp.eq_of_compare parts.1, Std.LawfulEqCmp.eq_of_compare parts.2]

/-- The third cube coordinate: the three of them sum to zero. -/
def s (hex : Hex) : Int :=
  -hex.q - hex.r

/-- Half the sum of the three coordinate differences, which is the number of steps between two
hexes. -/
def distance (a b : Hex) : Nat :=
  ((a.q - b.q).natAbs + (a.r - b.r).natAbs + (a.s - b.s).natAbs) / 2

def neighbor (hex : Hex) (direction : Direction) : Hex :=
  ⟨hex.q + direction.offset.q, hex.r + direction.offset.r⟩

/-- The six neighbours, in the order of `Direction.all`. -/
def neighbors (hex : Hex) : List Hex :=
  Direction.all.map hex.neighbor

def isAdjacent (a b : Hex) : Bool :=
  a.distance b == 1

/-- The direction in which a neighbour lies. -/
def directionTo (hex other : Hex) : Option Direction :=
  Direction.all.find? (fun direction => hex.neighbor direction == other)

/-- The hex across `hex` from its neighbour `side`. -/
def oppositeOf (hex side : Hex) : Option Hex :=
  (hex.directionTo side).map (fun direction => hex.neighbor direction.opposite)

@[simp] theorem neighbor_opposite (hex : Hex) (direction : Direction) :
    (hex.neighbor direction).neighbor direction.opposite = hex := by
  rcases hex with ⟨q, r⟩
  cases direction <;>
    simp only [neighbor, Direction.offset, Direction.opposite, Hex.mk.injEq] <;> omega

theorem neighbor_injective (hex : Hex) : Function.Injective hex.neighbor := by
  rcases hex with ⟨q, r⟩
  intro direction direction' same
  cases direction <;> cases direction' <;>
    simp only [neighbor, Direction.offset, Hex.mk.injEq] at same ⊢ <;> omega

theorem mem_neighbors_iff (hex other : Hex) :
    other ∈ hex.neighbors ↔ ∃ direction, hex.neighbor direction = other := by
  simp [neighbors, Direction.mem_all]

def describe (hex : Hex) : String :=
  "BattleHexCoord \x7b q: " ++ toString hex.q ++ ", r: " ++ toString hex.r ++ " \x7d"

end Hex

end Hexfield
