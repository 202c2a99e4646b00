import Hexfield.Hex
import Mathlib.Data.List.Chain
import Mathlib.Order.Bounds.Basic
import Mathlib.Tactic.Linarith
import Mathlib.Tactic.TFAE

namespace Hexfield
namespace Hex

/-!
The distance of two hexes, and who is next to whom.

Half the sum of the coordinate differences counts steps.  A step changes it by one at most, so no
walk is shorter; and as long as two hexes differ, a step along the signs of the differences brings
them nearer, so one walk is as short as that.  The hexes of distance one are then the neighbours,
and what is across a neighbour is the neighbour on the other side.
-/

/-! ## Distances -/

theorem distance_self (hex : Hex) : hex.distance hex = 0 := by
  simp [distance]

theorem distance_comm (a b : Hex) : a.distance b = b.distance a := by
  simp only [distance, s]
  omega

/-- The coordinate differences add up to an even number, so that halving them loses nothing. -/
theorem two_mul_distance (a b : Hex) : 2 * a.distance b =
    (a.q - b.q).natAbs + (a.r - b.r).natAbs + (a.s - b.s).natAbs := by
  simp only [distance, s]
  omega

theorem distance_triangle (a b c : Hex) : a.distance c ≤ a.distance b + b.distance c := by
  have apart (x y z : Int) : (x - z).natAbs ≤ (x - y).natAbs + (y - z).natAbs := by
    rw [← sub_add_sub_cancel x y z]
    exact Int.natAbs_add_le (x - y) (y - z)
  have q := apart a.q b.q c.q
  have r := apart a.r b.r c.r
  have s := apart a.s b.s c.s
  linarith only [q, r, s, two_mul_distance a b, two_mul_distance b c, two_mul_distance a c]

theorem distance_of_mem_neighbors {hex other : Hex} (next : other ∈ hex.neighbors) :
    hex.distance other = 1 := by
  rcases (mem_neighbors_iff hex other).mp next with ⟨direction, rfl⟩
  cases direction <;> simp only [distance, neighbor, Direction.offset, s] <;> omega

theorem eq_of_distance_eq_zero {a b : Hex} (zero : a.distance b = 0) : a = b := by
  rcases a with ⟨aq, ar⟩
  rcases b with ⟨bq, br⟩
  simp only [distance, s, Hex.mk.injEq] at zero ⊢
  omega

theorem neighbor_ne (hex : Hex) (place : Direction) : hex.neighbor place ≠ hex := by
  rcases hex with ⟨q, r⟩
  cases place <;> simp only [neighbor, Direction.offset, ne_eq, Hex.mk.injEq] <;> omega

/-! ## Walks -/

/-- The hexes of a walk from one hex to another, without its start. -/
structure IsWalk (a : Hex) (steps : List Hex) (b : Hex) : Prop where
  linked : (a :: steps).IsChain fun here next => next ∈ here.neighbors
  ends : (a :: steps).getLast (List.cons_ne_nil _ _) = b

/-- The coordinates of a hex are between those of two others. -/
structure Between (a b hex : Hex) : Prop where
  q : min a.q b.q ≤ hex.q ∧ hex.q ≤ max a.q b.q
  r : min a.r b.r ≤ hex.r ∧ hex.r ≤ max a.r b.r

theorem isWalk_nil (hex : Hex) : hex.IsWalk [] hex :=
  ⟨List.isChain_singleton hex, rfl⟩

theorem isWalk_cons_iff {a step b : Hex} {steps : List Hex} :
    a.IsWalk (step :: steps) b ↔ step ∈ a.neighbors ∧ step.IsWalk steps b := by
  constructor
  · rintro ⟨linked, ends⟩
    rcases List.isChain_cons_cons.mp linked with ⟨next, linked⟩
    exact ⟨next, linked, by rwa [List.getLast_cons_cons] at ends⟩
  · rintro ⟨next, linked, ends⟩
    exact ⟨List.isChain_cons_cons.mpr ⟨next, linked⟩, by rwa [List.getLast_cons_cons]⟩

theorem IsWalk.distance_le {a b : Hex} {steps : List Hex} (walk : a.IsWalk steps b) :
    a.distance b ≤ steps.length := by
  induction steps generalizing a with
  | nil =>
      have same : a = b := walk.ends
      rw [same, distance_self]
      exact Nat.zero_le _
  | cons step steps ih =>
      rcases isWalk_cons_iff.mp walk with ⟨next, rest⟩
      calc a.distance b
          ≤ a.distance step + step.distance b := distance_triangle a step b
        _ ≤ 1 + steps.length :=
            Nat.add_le_add (distance_of_mem_neighbors next).le (ih rest)
        _ = (step :: steps).length := by rw [List.length_cons, Nat.add_comm]

/-- The direction of a step from one hex towards another: along both coordinates at once if they
differ in opposite directions, and along one of them otherwise. -/
def towards (a b : Hex) : Direction :=
  if a.q < b.q then if b.r < a.r then .northEast else .east
  else if b.q < a.q then if a.r < b.r then .southWest else .west
  else if a.r < b.r then .southEast
  else .northWest

theorem distance_towards {a b : Hex} (apart : a ≠ b) :
    (a.neighbor (a.towards b)).distance b + 1 = a.distance b ∧
      Between a b (a.neighbor (a.towards b)) := by
  rcases a with ⟨aq, ar⟩
  rcases b with ⟨bq, br⟩
  simp only [ne_eq, Hex.mk.injEq] at apart
  unfold towards
  split_ifs <;>
    (refine ⟨?_, ⟨?_, ?_⟩, ⟨?_, ?_⟩⟩ <;>
      simp only [distance, neighbor, Direction.offset, s] at * <;> omega)

/-- One walk is as short as the distance, and it stays between its ends. -/
theorem exists_isWalk (a b : Hex) : ∃ steps, a.IsWalk steps b ∧
    steps.length = a.distance b ∧ ∀ step ∈ steps, Between a b step := by
  induction far : a.distance b generalizing a with
  | zero =>
      rw [eq_of_distance_eq_zero far]
      exact ⟨[], isWalk_nil b, rfl, by simp⟩
  | succ rest ih =>
      have apart : a ≠ b := by
        rintro rfl
        rw [distance_self] at far
        cases far
      rcases distance_towards apart with ⟨nearer, between⟩
      rcases ih (a.neighbor (a.towards b)) (by omega) with ⟨steps, walk, short, inside⟩
      have next : a.neighbor (a.towards b) ∈ a.neighbors :=
        (mem_neighbors_iff _ _).mpr ⟨_, rfl⟩
      refine ⟨_ :: steps, isWalk_cons_iff.mpr ⟨next, walk⟩, by rw [List.length_cons, short], ?_⟩
      intro step member
      rcases List.mem_cons.mp member with rfl | member
      · exact between
      · rcases between with ⟨⟨_, _⟩, ⟨_, _⟩⟩
        rcases inside step member with ⟨⟨_, _⟩, ⟨_, _⟩⟩
        refine ⟨⟨?_, ?_⟩, ⟨?_, ?_⟩⟩ <;> omega

/-! ## Neighbours -/

theorem mem_neighbors_iff_distance {a b : Hex} : b ∈ a.neighbors ↔ a.distance b = 1 := by
  refine ⟨distance_of_mem_neighbors, fun one => ?_⟩
  have apart : a ≠ b := by
    rintro rfl
    rw [distance_self] at one
    cases one
  have nearer := (distance_towards apart).1
  have there : a.neighbor (a.towards b) = b := eq_of_distance_eq_zero (by omega)
  exact (mem_neighbors_iff a b).mpr ⟨_, there⟩

theorem mem_neighbors_comm {a b : Hex} : b ∈ a.neighbors ↔ a ∈ b.neighbors := by
  rw [mem_neighbors_iff_distance, mem_neighbors_iff_distance, distance_comm]

theorem isAdjacent_iff {a b : Hex} : a.isAdjacent b = true ↔ a.distance b = 1 := by
  rw [isAdjacent, beq_iff_eq]

theorem isSome_directionTo_iff {a b : Hex} : (a.directionTo b).isSome ↔ b ∈ a.neighbors := by
  rw [directionTo, List.find?_isSome, mem_neighbors_iff]
  constructor
  · rintro ⟨direction, -, there⟩
    exact ⟨direction, beq_iff_eq.mp there⟩
  · rintro ⟨direction, there⟩
    exact ⟨direction, Direction.mem_all direction, beq_iff_eq.mpr there⟩

theorem directionTo_neighbor (hex : Hex) (place : Direction) :
    hex.directionTo (hex.neighbor place) = some place := by
  rw [directionTo]
  cases found : Direction.all.find? fun direction =>
      hex.neighbor direction == hex.neighbor place with
  | none =>
      have differs := List.find?_eq_none.mp found place (Direction.mem_all place)
      simp at differs
  | some direction =>
      have same : hex.neighbor direction = hex.neighbor place := by
        simpa using List.find?_some found
      rw [hex.neighbor_injective same]

/-! ## What is across -/

theorem oppositeOf_neighbor (hex : Hex) (place : Direction) :
    hex.oppositeOf (hex.neighbor place) = some (hex.neighbor place.opposite) := by
  rw [oppositeOf, directionTo_neighbor]
  rfl

theorem mem_neighbors_of_oppositeOf {hex side behind : Hex}
    (opposite : hex.oppositeOf side = some behind) : behind ∈ hex.neighbors := by
  rcases Option.map_eq_some_iff.mp opposite with ⟨direction, -, across⟩
  exact (mem_neighbors_iff hex behind).mpr ⟨direction.opposite, across⟩

/-- The hex across a hex from its neighbour is two steps from that neighbour. -/
theorem distance_of_oppositeOf {hex side behind : Hex}
    (opposite : hex.oppositeOf side = some behind) :
    hex.distance behind = 1 ∧ side.distance behind = 2 := by
  rcases Option.map_eq_some_iff.mp opposite with ⟨direction, found, rfl⟩
  have next : hex.neighbor direction = side := by
    simpa using List.find?_some found
  subst next
  cases direction <;>
    simp only [distance, neighbor, Direction.offset, Direction.opposite, s] <;> omega

theorem oppositeOf_eq_none_iff {hex side : Hex} :
    hex.oppositeOf side = none ↔ side ∉ hex.neighbors := by
  rw [oppositeOf, Option.map_eq_none_iff, ← isSome_directionTo_iff, Option.not_isSome_iff_eq_none]

theorem oppositeOf_oppositeOf {hex side behind : Hex}
    (opposite : hex.oppositeOf side = some behind) : hex.oppositeOf behind = some side := by
  rcases Option.map_eq_some_iff.mp opposite with ⟨direction, found, rfl⟩
  have next : hex.neighbor direction = side := by
    simpa using List.find?_some found
  rw [oppositeOf_neighbor, Direction.opposite_opposite, next]

/-- The distance of two hexes is the least number of steps from one to the other, and a walk between
the two is as short as that.  Hexes are next to each other, whichever way one asks, if their
distance is one.  Then there is a hex on the other side, two steps away, and the way back across
leads to the same hex; who is not next to a hex has nothing across it. -/
theorem distance_and_adjacency (a b : Hex) :
    (IsLeast {n | ∃ steps, a.IsWalk steps b ∧ steps.length = n} (a.distance b) ∧
        ∃ steps, a.IsWalk steps b ∧ steps.length = a.distance b ∧
          ∀ step ∈ steps, Between a b step) ∧
      [a.distance b = 1, a.isAdjacent b = true, b ∈ a.neighbors, (a.directionTo b).isSome,
        a ∈ b.neighbors].TFAE ∧
      (b ∈ a.neighbors → ∃ across, a.oppositeOf b = some across ∧ across ∈ a.neighbors ∧
        b.distance across = 2 ∧ a.oppositeOf across = some b) ∧
      (b ∉ a.neighbors → a.oppositeOf b = none) := by
  rcases exists_isWalk a b with ⟨steps, walk, short, inside⟩
  refine ⟨⟨⟨⟨steps, walk, short⟩, ?_⟩, steps, walk, short, inside⟩, ?_, ?_,
    oppositeOf_eq_none_iff.mpr⟩
  · rintro count ⟨others, walk, rfl⟩
    exact walk.distance_le
  · tfae_have 2 ↔ 1 := isAdjacent_iff
    tfae_have 3 ↔ 1 := mem_neighbors_iff_distance
    tfae_have 4 ↔ 3 := isSome_directionTo_iff
    tfae_have 5 ↔ 3 := mem_neighbors_comm.symm
    tfae_finish
  · intro next
    have found : (a.oppositeOf b).isSome := by
      rw [← Option.ne_none_iff_isSome, ne_eq, oppositeOf_eq_none_iff, not_not]
      exact next
    rcases Option.isSome_iff_exists.mp found with ⟨across, opposite⟩
    exact ⟨across, opposite, mem_neighbors_of_oppositeOf opposite,
      (distance_of_oppositeOf opposite).2, oppositeOf_oppositeOf opposite⟩

end Hex
end Hexfield
