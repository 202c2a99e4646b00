import Hexfield.Proofs.Movement.Survey
import Hexfield.Proofs.Matchup.Pairing
import Mathlib.Data.List.Chain
import Mathlib.Data.List.Induction

namespace Hexfield

/-!
Where a unit can end its move, and at which cost.

A path is a list of hexes, each next to the one before, that a unit enters one after another.  The
routes of a walk are somewhat more liberal than paths: a route that comes back to its start in the
middle of enemies may leave it again.  Such a route never pays, because the way back can be left
out.  So the least cost of a route is the least cost of a path, and the list of reachable hexes is
exact.
-/

/-- The movement points that a unit has; none, if it is petrified. -/
def Combatant.movementPoints (unit : Combatant) : Nat :=
  if unit.incapacitated then 0 else unit.movement

namespace Battlefield

variable {field : Battlefield} {unit : Combatant}

/-- The unit enters these hexes one after another, and ends on the given one. -/
structure IsPath (field : Battlefield) (unit : Combatant) (steps : List Hex) (hex : Hex) :
    Prop where
  linked : (unit.hex :: steps).IsChain fun here next => next ∈ here.neighbors
  ends : (unit.hex :: steps).getLast (List.cons_ne_nil _ _) = hex
  onBoard : ∀ step ∈ steps, field.board.inBounds step = true
  passable : ∀ step ∈ steps, (unit.movementType.movementCost (field.terrainAt step)).isSome
  unopposed : ∀ step ∈ steps, field.enemyAt step unit.side = false
  /-- No active enemy is next to a hex on the way, the first and the last one apart. -/
  unhindered : unit.abilities.skirmisher = true ∨
    ∀ step ∈ steps.dropLast, field.enemyAdjacent step unit.side = false

/-- What it costs a unit to enter all these hexes. -/
def pathCost (field : Battlefield) (unit : Combatant) (steps : List Hex) : Nat :=
  steps.foldl (fun total step =>
    total + (unit.movementType.movementCost (field.terrainAt step)).getD 0) 0

theorem entryCost_eq_some_iff {hex : Hex} {price : Nat} :
    field.entryCost unit hex = some price ↔
      field.board.inBounds hex = true ∧
        unit.movementType.movementCost (field.terrainAt hex) = some price ∧
        field.enemyAt hex unit.side = false := by
  unfold entryCost
  cases field.board.inBounds hex <;>
    cases unit.movementType.movementCost (field.terrainAt hex) <;>
    cases field.enemyAt hex unit.side <;> simp

theorem halts_walkOf_eq_false_iff {hex : Hex} :
    (field.walkOf unit).halts hex = false ↔
      unit.abilities.skirmisher = true ∨ field.enemyAdjacent hex unit.side = false := by
  change (!unit.abilities.skirmisher && field.enemyAdjacent hex unit.side) = false ↔ _
  cases unit.abilities.skirmisher <;> simp

theorem pathCost_concat (steps : List Hex) (step : Hex) :
    field.pathCost unit (steps ++ [step]) = field.pathCost unit steps +
      (unit.movementType.movementCost (field.terrainAt step)).getD 0 := by
  simp [pathCost]

/-- A unit can end its move on no more hexes than the board has. -/
theorem entersAtMost_walkOf (field : Battlefield) (unit : Combatant) :
    (field.walkOf unit).EntersAtMost (field.board.width * field.board.height) := by
  refine ⟨field.board.hexes.map Prod.fst, by simp, ?_⟩
  intro hex enters
  rcases Option.isSome_iff_exists.mp enters with ⟨price, enters⟩
  exact Board.mem_hexes_of_inBounds (entryCost_eq_some_iff.mp enters).1

namespace IsPath

theorem nil (field : Battlefield) (unit : Combatant) : field.IsPath unit [] unit.hex :=
  ⟨List.isChain_singleton _, rfl, by simp, by simp, by simp, Or.inr (by simp)⟩

/-- A path is a path to the hex before its last, and one more step from there. -/
theorem concat_iff {steps : List Hex} {last hex : Hex} :
    field.IsPath unit (steps ++ [last]) hex ↔
      last = hex ∧ ∃ before price, field.IsPath unit steps before ∧ last ∈ before.neighbors ∧
        field.entryCost unit last = some price ∧
        (steps = [] ∨ (field.walkOf unit).halts before = false) := by
  constructor
  · intro path
    have ends : last = hex := by
      have ends := path.ends
      simpa [List.getLast_cons] using ends
    have linked := path.linked
    rw [← List.cons_append, List.isChain_append] at linked
    rcases Option.isSome_iff_exists.mp (path.passable last (by simp)) with ⟨price, passable⟩
    have free : unit.abilities.skirmisher = true ∨
        ∀ step ∈ steps, field.enemyAdjacent step unit.side = false := by
      have unhindered := path.unhindered
      rwa [List.dropLast_concat] at unhindered
    refine ⟨ends, (unit.hex :: steps).getLast (List.cons_ne_nil _ _), price, ⟨linked.1, rfl,
      fun step member => path.onBoard step (List.mem_append_left _ member),
      fun step member => path.passable step (List.mem_append_left _ member),
      fun step member => path.unopposed step (List.mem_append_left _ member), ?_⟩, ?_, ?_, ?_⟩
    · exact free.imp_right fun unhindered step member =>
        unhindered step (List.dropLast_subset _ member)
    · exact linked.2.2 _ (List.getLast?_eq_some_getLast _) last (by simp)
    · exact entryCost_eq_some_iff.mpr
        ⟨path.onBoard last (by simp), passable, path.unopposed last (by simp)⟩
    · cases steps with
      | nil => exact Or.inl rfl
      | cons first rest =>
          right
          rw [halts_walkOf_eq_false_iff, List.getLast_cons (List.cons_ne_nil _ _)]
          exact free.imp_right fun unhindered => unhindered _ (List.getLast_mem _)
  · rintro ⟨rfl, before, price, path, beside, enters, free⟩
    rcases entryCost_eq_some_iff.mp enters with ⟨onBoard, passable, unopposed⟩
    have each : ∀ {property : Hex → Prop}, (∀ step ∈ steps, property step) → property last →
        ∀ step ∈ steps ++ [last], property step := by
      intro property all here step member
      rcases List.mem_append.mp member with early | late
      · exact all step early
      · exact List.mem_singleton.mp late ▸ here
    refine ⟨?_, by simp [List.getLast_cons], each path.onBoard onBoard,
      each path.passable (by rw [passable]; rfl), each path.unopposed unopposed, ?_⟩
    · rw [← List.cons_append, List.isChain_append]
      refine ⟨path.linked, List.isChain_singleton _, ?_⟩
      intro here atEnd next atStart
      rw [List.getLast?_eq_some_getLast (List.cons_ne_nil _ _), path.ends] at atEnd
      cases atEnd
      cases atStart
      exact beside
    · rw [List.dropLast_concat]
      rcases free with rfl | free
      · exact Or.inr (by simp)
      · rcases halts_walkOf_eq_false_iff.mp free with skirmisher | clear
        · exact Or.inl skirmisher
        · refine path.unhindered.imp_right fun unhindered => ?_
          -- All hexes on the way are those before the last one, and the last one itself.
          cases steps using List.reverseRecOn with
          | nil => simp
          | append_singleton init final =>
              have final_eq : final = before := by
                have ends := path.ends
                simpa [List.getLast_cons] using ends
              rw [List.dropLast_concat] at unhindered
              intro step member
              rcases List.mem_append.mp member with early | late
              · exact unhindered step early
              · rw [List.mem_singleton.mp late, final_eq]
                exact clear

/-- A path is a route at its cost. -/
theorem route {steps : List Hex} :
    ∀ {hex : Hex}, field.IsPath unit steps hex →
      (field.walkOf unit).Route hex (field.pathCost unit steps) := by
  induction steps using List.reverseRecOn with
  | nil =>
      intro hex path
      exact path.ends ▸ .start
  | append_singleton steps last ih =>
      intro hex path
      rcases concat_iff.mp path with ⟨rfl, before, price, earlier, beside, enters, free⟩
      have price_eq := (entryCost_eq_some_iff.mp enters).2.1
      rw [pathCost_concat, price_eq, Option.getD_some]
      refine .step (ih earlier) ?_ beside enters
      rcases free with rfl | free
      · exact Or.inl earlier.ends.symm
      · exact Or.inr free

end IsPath

/-- A route can be shortened to a path that costs no more: what leads back to the start is left
out. -/
theorem exists_path_of_route {hex : Hex} {cost : Nat}
    (route : (field.walkOf unit).Route hex cost) :
    ∃ steps, field.IsPath unit steps hex ∧ field.pathCost unit steps ≤ cost := by
  induction route with
  | start => exact ⟨[], .nil field unit, Nat.le_refl 0⟩
  | @step hex next cost price _ free beside enters ih =>
      have price_eq := (entryCost_eq_some_iff.mp enters).2.1
      rcases free with rfl | free
      · refine ⟨[] ++ [next], IsPath.concat_iff.mpr
          ⟨rfl, unit.hex, price, .nil field unit, beside, enters, Or.inl rfl⟩, ?_⟩
        rw [pathCost_concat, price_eq, Option.getD_some]
        simp [pathCost]
      · rcases ih with ⟨steps, path, cheap⟩
        refine ⟨steps ++ [next], IsPath.concat_iff.mpr
          ⟨rfl, hex, price, path, beside, enters, Or.inr free⟩, ?_⟩
        rw [pathCost_concat, price_eq, Option.getD_some]
        omega

/-- The least cost of a route is the least cost of a path. -/
theorem isLeast_route_iff {hex : Hex} {cost : Nat} :
    IsLeast {total | (field.walkOf unit).Route hex total} cost ↔
      IsLeast {total | ∃ steps, field.IsPath unit steps hex ∧
        field.pathCost unit steps = total} cost := by
  constructor
  · rintro ⟨route, least⟩
    rcases exists_path_of_route route with ⟨steps, path, cheap⟩
    refine ⟨⟨steps, path, Nat.le_antisymm cheap (least path.route)⟩, ?_⟩
    rintro _ ⟨others, path', rfl⟩
    exact least path'.route
  · rintro ⟨⟨steps, path, rfl⟩, least⟩
    refine ⟨path.route, ?_⟩
    intro total route
    rcases exists_path_of_route route with ⟨others, path', cheap⟩
    exact Nat.le_trans (least ⟨others, path', rfl⟩) cheap

/-- A unit can end its move exactly on its own hex and on those hexes without a unit that some path
within its movement points leads to, each at the least cost of such a path; they are listed in
order, and none of them twice. -/
theorem reachable_exact {id : UnitId} (alive : field.roster.get? id = some unit) :
    ∃ reached, field.reachable id = .ok reached ∧
      reached.Pairwise (fun a b => compare a.hex b.hex = .lt) ∧
      ∀ hex cost, ⟨hex, cost⟩ ∈ reached ↔
        (hex = unit.hex ∨ field.roster.idAt? hex = none) ∧
          IsLeast {total | ∃ steps, field.IsPath unit steps hex ∧
            field.pathCost unit steps = total} cost ∧
          cost ≤ unit.movementPoints := by
  refine ⟨field.reachableBy unit, ?_, ?_, ?_⟩
  · rw [reachable, unit_eq_ok_iff.mpr alive]
    rfl
  · exact (Walk.pairwise_reachable _ _).filter _
  · intro hex cost
    rw [reachableBy, List.mem_filter,
      Walk.mem_reachable_iff (entersAtMost_walkOf field unit), isLeast_route_iff]
    simp only [Bool.or_eq_true, beq_iff_eq, Option.isNone_iff_eq_none]
    exact and_comm

/-- A defile: a scout behind another one of its side, and an enemy at the far end. -/
def defile : Battlefield :=
  { board := .flat 5 1
    roster :=
      { slots := #[some (.ofType "Scout" ⟨1⟩ ⟨0, 0⟩ 20), some (.ofType "Scout" ⟨1⟩ ⟨1, 0⟩ 20),
          some (.ofType "Guard" ⟨2⟩ ⟨4, 0⟩ 30)]
        index :=
          (((∅ : Std.ExtTreeMap Hex UnitId).insert ⟨0, 0⟩ ⟨0⟩).insert ⟨1, 0⟩ ⟨1⟩).insert
            ⟨4, 0⟩ ⟨2⟩ }
    teams := .twoSides
    time := .dusk
    rules := {} }

/-- The scout passes the other one, can stop on the hexes beyond, the last of which is next to the
enemy, and no way there is cheaper. -/
theorem reachable_exact_defile :
    defile.roster.get? ⟨0⟩ = some (.ofType "Scout" ⟨1⟩ ⟨0, 0⟩ 20) ∧
      defile.reachable ⟨0⟩ = .ok [⟨⟨0, 0⟩, 0⟩, ⟨⟨2, 0⟩, 2⟩, ⟨⟨3, 0⟩, 3⟩] ∧
      IsLeast {total | ∃ steps, defile.IsPath (.ofType "Scout" ⟨1⟩ ⟨0, 0⟩ 20) steps ⟨3, 0⟩ ∧
        defile.pathCost (.ofType "Scout" ⟨1⟩ ⟨0, 0⟩ 20) steps = total} 3 := by
  have alive : defile.roster.get? ⟨0⟩ = some (.ofType "Scout" ⟨1⟩ ⟨0, 0⟩ 20) := rfl
  have computed : defile.reachable ⟨0⟩ = .ok [⟨⟨0, 0⟩, 0⟩, ⟨⟨2, 0⟩, 2⟩, ⟨⟨3, 0⟩, 3⟩] := by decide
  rcases reachable_exact alive with ⟨reached, found, -, exactly⟩
  rw [computed] at found
  cases found
  exact ⟨alive, computed, ((exactly ⟨3, 0⟩ 3).mp (by simp)).2.1⟩

end Battlefield
end Hexfield
