import Hexfield.Hex
import Hexfield.Terrain

namespace Hexfield

/-!
A rectangular board of terrain.

The hexes with `0 ≤ q < width` and `0 ≤ r < height` are on the board.  Their terrains are stored
row by row, which is not the order of hexes: `hexes` lists them as stored, `keeps` in order.
-/

structure Board where
  width : Nat
  height : Nat
  /-- Row by row: first by `r`, then by `q`. -/
  cells : Array Terrain
  size_cells : cells.size = width * height

namespace Board

def flat (width height : Nat) : Board :=
  { width, height
    cells := Array.replicate (width * height) .flat
    size_cells := Array.size_replicate }

def inBounds (board : Board) (hex : Hex) : Bool :=
  0 ≤ hex.q && 0 ≤ hex.r && hex.q < board.width && hex.r < board.height

/-- The place of a hex of the board among the cells. -/
def cellIndex (board : Board) (hex : Hex) : Nat :=
  hex.r.toNat * board.width + hex.q.toNat

/-- The terrain of a hex of the board. -/
def terrainAt? (board : Board) (hex : Hex) : Option Terrain :=
  if board.inBounds hex then board.cells[board.cellIndex hex]? else none

/-- The board with the terrain of one hex replaced; unchanged, if that hex is off the board. -/
def setTerrain (board : Board) (hex : Hex) (terrain : Terrain) : Board :=
  if board.inBounds hex then
    { board with
      cells := board.cells.setIfInBounds (board.cellIndex hex) terrain
      size_cells := by rw [Array.size_setIfInBounds]; exact board.size_cells }
  else
    board

def isVillage (board : Board) (hex : Hex) : Bool :=
  (board.terrainAt? hex).any Terrain.isVillage

/-- Every hex of the board with its terrain, in the order of the cells. -/
def hexes (board : Board) : List (Hex × Terrain) :=
  board.cells.toList.zipIdx.map fun (terrain, i) =>
    (⟨((i % board.width : Nat) : Int), ((i / board.width : Nat) : Int)⟩, terrain)

/-- The hexes with a keep, in the order of hexes. -/
def keeps (board : Board) : List Hex :=
  ((board.hexes.filter (fun entry => entry.2.isKeep)).map Prod.fst).mergeSort
    (fun a b => (compare a b).isLE)

theorem inBounds_iff {board : Board} {hex : Hex} :
    board.inBounds hex = true ↔
      0 ≤ hex.q ∧ 0 ≤ hex.r ∧ hex.q < board.width ∧ hex.r < board.height := by
  simp [inBounds, and_assoc]

theorem cellIndex_lt {board : Board} {hex : Hex} (inside : board.inBounds hex = true) :
    board.cellIndex hex < board.cells.size := by
  rcases inBounds_iff.mp inside with ⟨left, top, column, row⟩
  have row' : hex.r.toNat + 1 ≤ board.height := by omega
  have within : (hex.r.toNat + 1) * board.width ≤ board.height * board.width :=
    Nat.mul_le_mul_right _ row'
  rw [board.size_cells, cellIndex, Nat.mul_comm board.width]
  rw [Nat.add_mul] at within
  omega

@[simp] theorem length_hexes (board : Board) :
    board.hexes.length = board.width * board.height := by
  simp [hexes, board.size_cells]

/-- The place of a hex among the cells tells the hex. -/
theorem hex_of_cellIndex {board : Board} {hex : Hex} (inside : board.inBounds hex = true) :
    (⟨((board.cellIndex hex % board.width : Nat) : Int),
      ((board.cellIndex hex / board.width : Nat) : Int)⟩ : Hex) = hex := by
  rcases inBounds_iff.mp inside with ⟨left, top, column, -⟩
  have width : 0 < board.width := by omega
  have short : hex.q.toNat < board.width := by omega
  rcases hex with ⟨q, r⟩
  simp only [cellIndex, Hex.mk.injEq] at left top short ⊢
  rw [Nat.mul_comm, Nat.mul_add_mod, Nat.mod_eq_of_lt short, Nat.mul_add_div width,
    Nat.div_eq_of_lt short]
  omega

theorem mem_hexes_of_inBounds {board : Board} {hex : Hex} (inside : board.inBounds hex = true) :
    hex ∈ board.hexes.map Prod.fst := by
  have indexed := cellIndex_lt inside
  have listed : (board.cells[board.cellIndex hex], board.cellIndex hex) ∈
      board.cells.toList.zipIdx := by
    rw [List.mem_zipIdx_iff_getElem?, Array.getElem?_toList]
    exact Array.getElem?_eq_getElem indexed
  refine List.mem_map.mpr ⟨_, List.mem_map.mpr ⟨_, listed, rfl⟩, hex_of_cellIndex inside⟩

theorem terrainAt?_flat {width height : Nat} {hex : Hex}
    (inside : (flat width height).inBounds hex = true) :
    (flat width height).terrainAt? hex = some .flat := by
  have indexed := cellIndex_lt inside
  rw [terrainAt?, if_pos inside, Array.getElem?_eq_getElem indexed]
  simp only [flat, Array.getElem_replicate]

@[simp] theorem inBounds_setTerrain (board : Board) (hex other : Hex) (terrain : Terrain) :
    (board.setTerrain hex terrain).inBounds other = board.inBounds other := by
  unfold setTerrain
  split <;> rfl

/-- Laying terrain on a hex of the board changes that hex, and no other. -/
theorem terrainAt?_setTerrain {board : Board} {hex : Hex}
    (inside : board.inBounds hex = true) (terrain : Terrain) (other : Hex) :
    (board.setTerrain hex terrain).terrainAt? other =
      if hex = other then some terrain else board.terrainAt? other := by
  have place : (board.setTerrain hex terrain).cellIndex other = board.cellIndex other := by
    unfold setTerrain
    split <;> rfl
  have cells : (board.setTerrain hex terrain).cells =
      board.cells.setIfInBounds (board.cellIndex hex) terrain := by
    rw [setTerrain, if_pos inside]
  rw [terrainAt?, inBounds_setTerrain, place, cells, Array.getElem?_setIfInBounds, terrainAt?]
  by_cases same : hex = other
  · subst same
    rw [if_pos inside, if_pos rfl, if_pos (cellIndex_lt inside), if_pos rfl]
  · rw [if_neg same]
    split
    · rename_i inside'
      have apart : board.cellIndex hex ≠ board.cellIndex other := by
        intro equal
        apply same
        rw [← hex_of_cellIndex inside, equal, hex_of_cellIndex inside']
      rw [if_neg apart]
    · rfl

end Board

end Hexfield
