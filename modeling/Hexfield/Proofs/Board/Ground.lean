import Hexfield.Board
import Hexfield.Halving
import Hexfield.Scalar
import Mathlib

namespace Hexfield

/-!
The ground of a board, hex by hex and in lists.

Cells stand row by row.  A cell tells its hex, and a hex of the board its cell, so no two hexes
share a cell: terrain that is laid on one of them stays there until some is laid on the same hex
again, and the cells, listed one after another, are the hexes of the board without repetition.  The
keeps are taken from that list and put in the order of hexes, in which a keep is found by halving.
-/

/-- Hexes are ordered by their columns, and within a column by their rows. -/
theorem Hex.compare_eq_lt_iff {a b : Hex} :
    compare a b = .lt ↔ a.q < b.q ∨ a.q = b.q ∧ a.r < b.r := by
  change (compare a.q b.q).then (compare a.r b.r) = .lt ↔ _
  rw [Ordering.then_eq_lt, Int.compare_eq_lt, Std.compare_eq_iff_eq, Int.compare_eq_lt]

namespace Board

variable {board : Board} {hex : Hex} {place : ℕ} {patches : List (Hex × Terrain)}

/-! ## Cells and hexes -/

def hexAt (board : Board) (place : ℕ) : Hex :=
  ⟨(place % board.width : ℕ), (place / board.width : ℕ)⟩

@[simp] theorem cellIndex_hexAt (board : Board) (place : ℕ) :
    board.cellIndex (board.hexAt place) = place := by
  simp only [cellIndex, hexAt, Int.toNat_natCast]
  rw [Nat.mul_comm]
  exact Nat.div_add_mod place board.width

theorem hexAt_injective (board : Board) : Function.Injective board.hexAt :=
  Function.LeftInverse.injective (cellIndex_hexAt board)

theorem inBounds_hexAt (cell : place < board.cells.size) :
    board.inBounds (board.hexAt place) = true := by
  rw [board.size_cells] at cell
  have width : 0 < board.width := Nat.pos_of_mul_pos_right (Nat.zero_lt_of_lt cell)
  have column : place % board.width < board.width := Nat.mod_lt place width
  have row : place / board.width < board.height := Nat.div_lt_of_lt_mul cell
  exact inBounds_iff.mpr ⟨Int.natCast_nonneg _, Int.natCast_nonneg _, Int.ofNat_lt.mpr column,
    Int.ofNat_lt.mpr row⟩

theorem isSome_terrainAt?_iff :
    (board.terrainAt? hex).isSome = true ↔ board.inBounds hex = true := by
  by_cases inside : board.inBounds hex = true
  · rw [terrainAt?, if_pos inside, Array.getElem?_eq_getElem (cellIndex_lt inside)]
    simp [inside]
  · rw [terrainAt?, if_neg inside]
    simp [inside]

theorem terrainAt?_hexAt (cell : place < board.cells.size) :
    board.terrainAt? (board.hexAt place) = board.cells[place]? := by
  rw [terrainAt?, if_pos (inBounds_hexAt cell), cellIndex_hexAt]

/-! ## Words -/

/-- The bounds of a board, with its width and height in signed words. -/
def inBoundsInWords (board : Board) (hex : Hex) : Bool :=
  0 ≤ hex.q && 0 ≤ hex.r && hex.q < signed32 board.width && hex.r < signed32 board.height

/-- The hex of a cell, with its coordinates in signed words. -/
def hexAtInWords (board : Board) (place : ℕ) : Hex :=
  ⟨signed32 (place % board.width), signed32 (place / board.width)⟩

/-- Words of thirty-two bits hold everything that is computed of a board. -/
structure FitsWords (board : Board) : Prop where
  size : low32 (board.width * board.height) = board.cells.size
  bounds : ∀ hex, board.inBoundsInWords hex = board.inBounds hex
  /-- Where a hex is among the cells. -/
  places : ∀ hex, board.inBounds hex = true → low32 (board.cellIndex hex) = board.cellIndex hex
  /-- Which hex a cell is. -/
  hexes : ∀ place < board.cells.size, board.hexAtInWords place = board.hexAt place

/-- A board fits, if width and height stay below the sign bit and the cells can be counted. -/
theorem fitsWords (narrow : board.width < 2 ^ 31) (low : board.height < 2 ^ 31)
    (fits : board.width * board.height < UInt32.size) : board.FitsWords := by
  have signed {count : ℕ} (small : count < 2 ^ 31) : signed32 count = count :=
    signed32_of_lt (by simp only [UInt32.size]; omega)
  refine ⟨?_, fun hex => ?_, fun hex inside => ?_, fun place cell => ?_⟩
  · rw [low32_of_lt fits, board.size_cells]
  · rw [inBoundsInWords, signed narrow, signed low, inBounds]
  · have cell := cellIndex_lt inside
    rw [board.size_cells] at cell
    exact low32_of_lt (cell.trans fits)
  · rcases inBounds_iff.mp (inBounds_hexAt cell) with ⟨-, -, column, row⟩
    simp only [hexAt] at column row
    rw [hexAtInWords, signed (by omega), signed (by omega), hexAt]

/-! ## Laying terrain -/

theorem setTerrain_of_outside (outside : board.inBounds hex = false) (terrain : Terrain) :
    board.setTerrain hex terrain = board := by
  rw [setTerrain, if_neg (by simp [outside])]

theorem terrainAt?_setTerrain_of_ne {other : Hex} (apart : other ≠ hex) (terrain : Terrain) :
    (board.setTerrain hex terrain).terrainAt? other = board.terrainAt? other := by
  by_cases inside : board.inBounds hex = true
  · rw [terrainAt?_setTerrain inside, if_neg apart.symm]
  · rw [setTerrain_of_outside (by simpa using inside)]

/-- The board with terrain laid on one hex after another. -/
def layAll (board : Board) (patches : List (Hex × Terrain)) : Board :=
  patches.foldl (fun board patch => board.setTerrain patch.1 patch.2) board

@[simp] theorem layAll_cons (board : Board) (patch : Hex × Terrain)
    (patches : List (Hex × Terrain)) :
    board.layAll (patch :: patches) = (board.setTerrain patch.1 patch.2).layAll patches :=
  rfl

theorem layAll_append (board : Board) (before after : List (Hex × Terrain)) :
    board.layAll (before ++ after) = (board.layAll before).layAll after :=
  List.foldl_append

@[simp] theorem width_setTerrain (board : Board) (hex : Hex) (terrain : Terrain) :
    (board.setTerrain hex terrain).width = board.width := by
  unfold setTerrain
  split <;> rfl

@[simp] theorem height_setTerrain (board : Board) (hex : Hex) (terrain : Terrain) :
    (board.setTerrain hex terrain).height = board.height := by
  unfold setTerrain
  split <;> rfl

@[simp] theorem width_layAll (board : Board) (patches : List (Hex × Terrain)) :
    (board.layAll patches).width = board.width := by
  induction patches generalizing board with
  | nil => rfl
  | cons patch patches ih => rw [layAll_cons, ih, width_setTerrain]

@[simp] theorem height_layAll (board : Board) (patches : List (Hex × Terrain)) :
    (board.layAll patches).height = board.height := by
  induction patches generalizing board with
  | nil => rfl
  | cons patch patches ih => rw [layAll_cons, ih, height_setTerrain]

@[simp] theorem inBounds_layAll (board : Board) (patches : List (Hex × Terrain)) (hex : Hex) :
    (board.layAll patches).inBounds hex = board.inBounds hex := by
  rw [inBounds, width_layAll, height_layAll, inBounds]

/-- A hex on which nothing is laid stays as it was. -/
theorem terrainAt?_layAll_of_forall_ne (apart : ∀ patch ∈ patches, patch.1 ≠ hex)
    (board : Board) :
    (board.layAll patches).terrainAt? hex = board.terrainAt? hex := by
  induction patches generalizing board with
  | nil => rfl
  | cons patch patches ih =>
      rcases List.forall_mem_cons.mp apart with ⟨first, rest⟩
      rw [layAll_cons, ih rest, terrainAt?_setTerrain_of_ne first.symm]

/-- The last of the patches on a hex is one of this terrain. -/
def LaidLast (patches : List (Hex × Terrain)) (hex : Hex) (terrain : Terrain) : Prop :=
  ∃ before after, patches = before ++ (hex, terrain) :: after ∧
    ∀ patch ∈ after, patch.1 ≠ hex

/-- Of the patches on a hex, if there are any, one is the last. -/
theorem exists_laidLast (named : ∃ patch ∈ patches, patch.1 = hex) :
    ∃ terrain, LaidLast patches hex terrain := by
  induction patches with
  | nil => simp at named
  | cons first rest ih =>
      by_cases later : ∃ patch ∈ rest, patch.1 = hex
      · rcases ih later with ⟨terrain, before, after, rfl, apart⟩
        exact ⟨terrain, first :: before, after, rfl, apart⟩
      · rcases named with ⟨patch, member, rfl⟩
        rcases List.mem_cons.mp member with rfl | member
        · exact ⟨patch.2, [], rest, rfl, fun other listed same => later ⟨other, listed, same⟩⟩
        · exact absurd ⟨patch, member, rfl⟩ later

/-- A hex of the board has the terrain that was laid there last. -/
theorem terrainAt?_layAll_of_laidLast {terrain : Terrain} (inside : board.inBounds hex = true)
    (last : LaidLast patches hex terrain) :
    (board.layAll patches).terrainAt? hex = some terrain := by
  rcases last with ⟨before, after, rfl, apart⟩
  have inside' : (board.layAll before).inBounds hex = true := by rwa [inBounds_layAll]
  rw [layAll_append, layAll_cons, terrainAt?_layAll_of_forall_ne apart,
    terrainAt?_setTerrain inside', if_pos rfl]

/-! ## Lists of hexes -/

theorem map_fst_hexes (board : Board) :
    board.hexes.map Prod.fst = (List.range board.cells.size).map board.hexAt := by
  rw [hexes, List.map_map, ← Array.length_toList, List.range_eq_range',
    ← List.zipIdx_map_snd 0 board.cells.toList, List.map_map]
  rfl

theorem nodup_hexes (board : Board) : (board.hexes.map Prod.fst).Nodup := by
  rw [map_fst_hexes]
  exact List.nodup_range.map board.hexAt_injective

theorem mem_hexes_iff {terrain : Terrain} :
    (hex, terrain) ∈ board.hexes ↔ board.terrainAt? hex = some terrain := by
  have cells : (hex, terrain) ∈ board.hexes ↔
      ∃ place, board.cells[place]? = some terrain ∧ board.hexAt place = hex := by
    simp only [hexes, List.mem_map, Prod.exists, List.mem_zipIdx_iff_getElem?,
      Array.getElem?_toList, Prod.mk.injEq, hexAt]
    constructor
    · rintro ⟨_, place, found, here, rfl⟩
      exact ⟨place, found, here⟩
    · rintro ⟨place, found, here⟩
      exact ⟨terrain, place, found, here, rfl⟩
  rw [cells]
  constructor
  · rintro ⟨place, found, rfl⟩
    rcases Array.getElem?_eq_some_iff.mp found with ⟨cell, -⟩
    rw [terrainAt?_hexAt cell, found]
  · intro found
    have inside := isSome_terrainAt?_iff.mp (Option.isSome_of_eq_some found)
    rw [terrainAt?, if_pos inside] at found
    exact ⟨board.cellIndex hex, found, hex_of_cellIndex inside⟩

theorem mem_map_fst_hexes_iff :
    hex ∈ board.hexes.map Prod.fst ↔ board.inBounds hex = true := by
  rw [← isSome_terrainAt?_iff, Option.isSome_iff_exists, List.mem_map]
  simp only [Prod.exists, exists_and_right, exists_eq_right, mem_hexes_iff]

theorem count_hexes (board : Board) (hex : Hex) :
    (board.hexes.map Prod.fst).count hex = if board.inBounds hex then 1 else 0 := by
  rw [(nodup_hexes board).count]
  simp only [mem_map_fst_hexes_iff]

theorem mem_keeps_iff : hex ∈ board.keeps ↔ board.terrainAt? hex = some .keep := by
  simp only [keeps, List.mem_mergeSort, List.mem_map, List.mem_filter, Prod.exists,
    Terrain.isKeep, beq_iff_eq, exists_and_right, exists_eq_right, mem_hexes_iff]

theorem nodup_keeps (board : Board) : board.keeps.Nodup := by
  have listed : ((board.hexes.filter fun entry => entry.2.isKeep).map Prod.fst).Nodup :=
    (nodup_hexes board).sublist (List.filter_sublist.map Prod.fst)
  exact (List.mergeSort_perm _ _).nodup_iff.mpr listed

/-- The keeps are in order, though they are not taken from the board in this order. -/
theorem pairwise_keeps (board : Board) :
    board.keeps.Pairwise fun a b => compare a b = .lt := by
  have sorted : board.keeps.Pairwise fun a b => (compare a b).isLE = true := by
    apply List.pairwise_mergeSort
    · intro a b c
      exact Std.TransCmp.isLE_trans
    · intro a b
      rw [Std.OrientedOrd.eq_swap (a := b)]
      cases compare a b <;> rfl
  refine (sorted.and (nodup_keeps board)).imp ?_
  rintro a b ⟨le, apart⟩
  exact (Ordering.isLE_iff_eq_lt_or_eq_eq.mp le).resolve_right fun same =>
    apart (Std.compare_eq_iff_eq.mp same)

/-- Stored row by row, these two keeps stand the other way round. -/
example : (((flat 3 2).setTerrain ⟨2, 0⟩ .keep).setTerrain ⟨0, 1⟩ .keep).keeps =
    [⟨0, 1⟩, ⟨2, 0⟩] := by cbv

/-- What a board lists of its ground is what it tells of each hex. -/
structure Charted (board : Board) : Prop where
  /-- The hexes of the board are listed with their terrains, and no others. -/
  listed : ∀ hex terrain, (hex, terrain) ∈ board.hexes ↔ board.terrainAt? hex = some terrain
  once : ∀ hex, (board.hexes.map Prod.fst).count hex = if board.inBounds hex then 1 else 0
  keeps : ∀ hex, hex ∈ board.keeps ↔ board.terrainAt? hex = some .keep
  keepsOrdered : board.keeps.Pairwise fun a b => a.q < b.q ∨ a.q = b.q ∧ a.r < b.r
  keepsFound : ∀ hex,
    Halving.contains board.keeps hex = true ↔ board.terrainAt? hex = some .keep

theorem charted (board : Board) : board.Charted := by
  have ordered := pairwise_keeps board
  refine ⟨fun hex terrain => mem_hexes_iff, count_hexes board, fun hex => mem_keeps_iff,
    ordered.imp Hex.compare_eq_lt_iff.mp, fun hex => ?_⟩
  rw [Halving.contains_iff ordered, mem_keeps_iff]

/-! ## Boards as they come about -/

variable {width height : ℕ}

/-- A board of this size, at first of flat ground, with terrain laid on one hex after another. -/
def laid (width height : ℕ) (patches : List (Hex × Terrain)) : Board :=
  (flat width height).layAll patches

theorem laid_concat (width height : ℕ) (patches : List (Hex × Terrain)) (hex : Hex)
    (terrain : Terrain) :
    laid width height (patches ++ [(hex, terrain)]) =
      (laid width height patches).setTerrain hex terrain :=
  layAll_append (flat width height) patches [(hex, terrain)]

theorem inBounds_laid_iff :
    (laid width height patches).inBounds hex = true ↔
      0 ≤ hex.q ∧ 0 ≤ hex.r ∧ hex.q < width ∧ hex.r < height := by
  rw [laid, inBounds_layAll, inBounds_iff]
  rfl

/-- The ground of a hex of the board is what was laid there last, and flat if nothing was. -/
theorem terrainAt?_laid_eq_some_iff (inside : (laid width height patches).inBounds hex = true)
    {terrain : Terrain} :
    (laid width height patches).terrainAt? hex = some terrain ↔
      LaidLast patches hex terrain ∨
        terrain = .flat ∧ ∀ patch ∈ patches, patch.1 ≠ hex := by
  have inside' : (flat width height).inBounds hex = true := by
    rwa [laid, inBounds_layAll] at inside
  have untouched (apart : ∀ patch ∈ patches, patch.1 ≠ hex) :
      (laid width height patches).terrainAt? hex = some .flat := by
    rw [laid, terrainAt?_layAll_of_forall_ne apart, terrainAt?_flat inside']
  constructor
  · intro found
    by_cases named : ∃ patch ∈ patches, patch.1 = hex
    · rcases exists_laidLast named with ⟨terrain', last⟩
      have same := (terrainAt?_layAll_of_laidLast inside' last).symm.trans found
      exact Or.inl (Option.some_injective _ same ▸ last)
    · have apart : ∀ patch ∈ patches, patch.1 ≠ hex := fun patch listed same =>
        named ⟨patch, listed, same⟩
      exact Or.inr ⟨Option.some_injective _ (found.symm.trans (untouched apart)), apart⟩
  · rintro (last | ⟨rfl, apart⟩)
    · exact terrainAt?_layAll_of_laidLast inside' last
    · exact untouched apart

/-- A board is a faithful map of what has been laid on it.

Words are wide enough for it.  Exactly the hexes within its width and height are on the board, and
exactly these have a terrain: the one that was laid there last, or flat ground if nothing was.
Laying terrain on a hex leaves all others as they were, and off the board it changes nothing at all.
What the board lists is what it tells of each hex, each listed once; and its keeps, in the order of
hexes, are found by halving. -/
theorem laid_faithful {width height : ℕ} (narrow : width < 2 ^ 31) (low : height < 2 ^ 31)
    (fits : width * height < UInt32.size) (patches : List (Hex × Terrain)) :
    (laid width height patches).FitsWords ∧
      (∀ hex,
        ((laid width height patches).inBounds hex = true ↔
            0 ≤ hex.q ∧ 0 ≤ hex.r ∧ hex.q < width ∧ hex.r < height) ∧
          (((laid width height patches).terrainAt? hex).isSome = true ↔
            (laid width height patches).inBounds hex = true)) ∧
      (∀ hex, (laid width height patches).inBounds hex = true → ∀ terrain,
        ((laid width height patches).terrainAt? hex = some terrain ↔
          LaidLast patches hex terrain ∨
            terrain = .flat ∧ ∀ patch ∈ patches, patch.1 ≠ hex)) ∧
      (∀ hex terrain,
        (∀ other, other ≠ hex →
            (laid width height (patches ++ [(hex, terrain)])).terrainAt? other =
              (laid width height patches).terrainAt? other) ∧
          ((laid width height patches).inBounds hex = false →
            laid width height (patches ++ [(hex, terrain)]) = laid width height patches)) ∧
      (laid width height patches).Charted := by
  refine ⟨?_, fun hex => ⟨inBounds_laid_iff, isSome_terrainAt?_iff⟩,
    fun hex inside terrain => terrainAt?_laid_eq_some_iff inside, fun hex terrain => ?_,
    charted _⟩
  · apply fitsWords
    · rwa [laid, width_layAll]
    · rwa [laid, height_layAll]
    · rwa [laid, width_layAll, height_layAll]
  · rw [laid_concat]
    exact ⟨fun other apart => terrainAt?_setTerrain_of_ne apart terrain,
      fun outside => setTerrain_of_outside outside terrain⟩

/-- Two keeps, one of them on what was forest at first, and a village beyond the end of a row. -/
def outpost : List (Hex × Terrain) :=
  [(⟨2, 0⟩, .forest), (⟨0, 1⟩, .keep), (⟨2, 0⟩, .keep), (⟨3, 0⟩, .village)]

/-- On a board three hexes wide the village would have the cell of the keep in the next row, if it
were not off the board; and were a row taken to be as long as a column, the keeps would share a
cell. -/
theorem laid_faithful_outpost :
    3 < 2 ^ 31 ∧ 2 < 2 ^ 31 ∧ 3 * 2 < UInt32.size ∧
      (laid 3 2 outpost).FitsWords ∧
      (laid 3 2 outpost).inBounds ⟨2, 0⟩ = true ∧
      LaidLast outpost ⟨2, 0⟩ .keep ∧
      (laid 3 2 outpost).terrainAt? ⟨2, 0⟩ = some .keep ∧
      (laid 3 2 outpost).terrainAt? ⟨0, 1⟩ = some .keep ∧
      (laid 3 2 outpost).terrainAt? ⟨1, 1⟩ = some .flat ∧
      (laid 3 2 outpost).terrainAt? ⟨3, 0⟩ = none ∧
      ((laid 3 2 outpost).hexes.map Prod.fst).count ⟨1, 1⟩ = 1 ∧
      Halving.contains (laid 3 2 outpost).keeps ⟨0, 1⟩ = true ∧
      laid 3 2 (outpost ++ [(⟨3, 0⟩, .castle)]) = laid 3 2 outpost := by
  have narrow : 3 < 2 ^ 31 := by decide
  have low : 2 < 2 ^ 31 := by decide
  have fits : 3 * 2 < UInt32.size := by decide
  rcases laid_faithful narrow low fits outpost with
    ⟨words, bounds, ground, changes, charted⟩
  have here : LaidLast outpost ⟨2, 0⟩ .keep :=
    ⟨[(⟨2, 0⟩, .forest), (⟨0, 1⟩, .keep)], [(⟨3, 0⟩, .village)], rfl, by decide⟩
  have there : LaidLast outpost ⟨0, 1⟩ .keep :=
    ⟨[(⟨2, 0⟩, .forest)], [(⟨2, 0⟩, .keep), (⟨3, 0⟩, .village)], rfl, by decide⟩
  have inside : (laid 3 2 outpost).inBounds ⟨2, 0⟩ = true := (bounds _).1.mpr (by decide)
  have beyond : ¬ (laid 3 2 outpost).inBounds ⟨3, 0⟩ = true :=
    (bounds _).1.not.mpr (by decide)
  have keep := (ground ⟨0, 1⟩ ((bounds _).1.mpr (by decide)) _).mpr (Or.inl there)
  refine ⟨narrow, low, fits, words, inside, here, (ground _ inside _).mpr (Or.inl here), keep,
    (ground _ ((bounds _).1.mpr (by decide)) _).mpr (Or.inr ⟨rfl, by decide⟩), ?_, ?_,
    (charted.keepsFound _).mpr keep, (changes _ _).2 (Bool.eq_false_iff.mpr beyond)⟩
  · rwa [← Option.not_isSome_iff_eq_none, (bounds _).2]
  · rw [charted.once, if_pos ((bounds _).1.mpr (by decide))]

end Board
end Hexfield
