import Hexfield.Plan.Search
import Hexfield.Proofs.Movement.Paths

namespace Hexfield

/-!
Where each unit can go, and who can go to each hex: the two maps tell the same, and they tell it in
one way only.

Units are added one after another, in the order of their numbers and each of them once.  So the
movers of a hex are the units added so far that were said to reach it, in that order.  All that is
taken from a pathfinder is the set of hexes it reports for a unit; hence pathfinders that report
the same hexes lead to the same maps, and to the same plans.
-/

/-- The unit is alive and not petrified. -/
def Battlefield.Active (field : Battlefield) (id : UnitId) : Prop :=
  ∃ unit, field.roster.get? id = some unit ∧ unit.status.petrified = false

/-- A pathfinder reports that a unit can end its move on a hex. -/
def Pathfinder.Reports (pathfinder : Pathfinder) (field : Battlefield) (id : UnitId)
    (hex : Hex) : Prop :=
  hex ∈ (pathfinder field id).map Reachable.hex

/-- Two pathfinders report the same hexes for every unit on a field, in whatever order and however
often. -/
def Pathfinder.AgreeOn (first second : Pathfinder) (field : Battlefield) : Prop :=
  ∀ id unit, field.roster.get? id = some unit →
    ∀ hex, first.Reports field id hex ↔ second.Reports field id hex

namespace MoveMaps

/-- The maps of the given units tell what a pathfinder reports of them. -/
structure Tell (maps : MoveMaps) (field : Battlefield) (pathfinder : Pathfinder)
    (ids : List UnitId) : Prop where
  /-- A hex is a destination of a unit exactly if the unit is one of the movers to the hex. -/
  inverse : ∀ id hex, hex ∈ maps.destinations id ↔ id ∈ maps.movers hex
  reaches : ∀ id hex, maps.reaches id hex = true ↔ hex ∈ maps.destinations id
  reported : ∀ id hex, hex ∈ maps.destinations id ↔
    id ∈ ids ∧ field.Active id ∧ pathfinder.Reports field id hex
  /-- Also a unit with no destination has an entry, if it can move. -/
  entered : ∀ id, id ∈ maps.destinationsOf ↔ id ∈ ids ∧ field.Active id
  hexesOrdered : ∀ id, (maps.destinations id).Pairwise fun a b => compare a b = .lt
  moversOrdered : ∀ hex, (maps.movers hex).Pairwise fun a b => compare a b = .lt

variable {field : Battlefield} {pathfinder : Pathfinder} {ids : List UnitId}

theorem mem_activeMovers_iff {id : UnitId} :
    id ∈ activeMovers field ids ↔ id ∈ ids ∧ field.Active id := by
  rw [activeMovers, Std.ExtTreeSet.mem_toList, Std.ExtTreeSet.mem_ofList, List.contains_iff_mem,
    List.mem_filter]
  cases found : field.roster.get? id <;>
    simp [Battlefield.Active, Combatant.incapacitated, found]

theorem pairwise_activeMovers (field : Battlefield) (ids : List UnitId) :
    (activeMovers field ids).Pairwise fun a b => compare a b = .lt :=
  Std.ExtTreeSet.ordered_toList

theorem mem_destinationList_iff {id : UnitId} {hex : Hex} :
    hex ∈ destinationList field pathfinder id ↔ pathfinder.Reports field id hex := by
  rw [destinationList, Std.ExtTreeSet.mem_toList, Std.ExtTreeSet.mem_ofList, List.contains_iff_mem,
    Pathfinder.Reports]

theorem pairwise_destinationList (field : Battlefield) (pathfinder : Pathfinder) (id : UnitId) :
    (destinationList field pathfinder id).Pairwise fun a b => compare a b = .lt :=
  Std.ExtTreeSet.ordered_toList

/-- Of what a pathfinder reports for a unit, only the set of hexes is kept. -/
theorem destinationList_congr {other : Pathfinder} {id : UnitId}
    (same : ∀ hex, pathfinder.Reports field id hex ↔ other.Reports field id hex) :
    destinationList field pathfinder id = destinationList field other id := by
  refine congrArg Std.ExtTreeSet.toList (Std.ExtTreeSet.ext_mem fun hex => ?_)
  rw [Std.ExtTreeSet.mem_ofList, Std.ExtTreeSet.mem_ofList, List.contains_iff_mem,
    List.contains_iff_mem]
  exact same hex

/-- A unit is added to the movers of its hexes, behind those that were there. -/
theorem getD_foldl_addMover (id : UnitId) {hexes : List Hex} (distinct : hexes.Nodup)
    (moversTo : Std.ExtTreeMap Hex (List UnitId)) (hex : Hex) :
    (hexes.foldl (addMover id) moversTo).getD hex [] =
      moversTo.getD hex [] ++ if hex ∈ hexes then [id] else [] := by
  induction hexes generalizing moversTo with
  | nil => simp
  | cons first others ih =>
      rcases List.nodup_cons.mp distinct with ⟨fresh, distinct⟩
      rw [List.foldl_cons, ih distinct, addMover, Std.ExtTreeMap.getD_insert]
      by_cases same : first = hex
      · subst same
        simp [fresh]
      · have apart : compare first hex ≠ .eq := fun equal =>
          same (Std.LawfulEqCmp.eq_of_compare equal)
        simp [apart, Ne.symm same]

theorem movers_addUnit (maps : MoveMaps) (id : UnitId) {hexes : List Hex}
    (distinct : hexes.Nodup) (hex : Hex) :
    (maps.addUnit id hexes).movers hex = maps.movers hex ++ if hex ∈ hexes then [id] else [] :=
  getD_foldl_addMover id distinct maps.moversTo hex

theorem getElem?_foldl_addUnit (hexesOf : UnitId → List Hex) (added : List UnitId)
    (maps : MoveMaps) (id : UnitId) :
    (added.foldl (fun maps id => maps.addUnit id (hexesOf id)) maps).destinationsOf[id]? =
      if id ∈ added then some (hexesOf id) else maps.destinationsOf[id]? := by
  induction added generalizing maps with
  | nil => simp
  | cons first others ih =>
      rw [List.foldl_cons, ih, addUnit, Std.ExtTreeMap.getElem?_insert]
      by_cases same : first = id
      · subst same
        simp
      · have apart : compare first id ≠ .eq := fun equal =>
          same (Std.LawfulEqCmp.eq_of_compare equal)
        simp [apart, Ne.symm same]

/-- The movers of a hex are the units added to it, in the order in which they were added. -/
theorem movers_foldl_addUnit (hexesOf : UnitId → List Hex)
    (distinct : ∀ id, (hexesOf id).Nodup) (added : List UnitId) (maps : MoveMaps) (hex : Hex) :
    (added.foldl (fun maps id => maps.addUnit id (hexesOf id)) maps).movers hex =
      maps.movers hex ++ added.filter fun id => hex ∈ hexesOf id := by
  induction added generalizing maps with
  | nil => simp
  | cons first others ih =>
      rw [List.foldl_cons, ih, movers_addUnit maps first (distinct first), List.append_assoc,
        List.filter_cons]
      by_cases reached : hex ∈ hexesOf first <;> simp [reached]

theorem getElem?_build (field : Battlefield) (pathfinder : Pathfinder) (ids : List UnitId)
    (id : UnitId) :
    (build field pathfinder ids).destinationsOf[id]? =
      if id ∈ activeMovers field ids then some (destinationList field pathfinder id) else none := by
  rw [build, getElem?_foldl_addUnit]
  rfl

theorem movers_build (field : Battlefield) (pathfinder : Pathfinder) (ids : List UnitId)
    (hex : Hex) :
    (build field pathfinder ids).movers hex =
      (activeMovers field ids).filter fun id => hex ∈ destinationList field pathfinder id := by
  have distinct : ∀ id, (destinationList field pathfinder id).Nodup := fun id =>
    (pairwise_destinationList field pathfinder id).imp fun below equal => by simp [equal] at below
  exact movers_foldl_addUnit _ distinct _ empty hex

theorem destinations_build (field : Battlefield) (pathfinder : Pathfinder) (ids : List UnitId)
    (id : UnitId) :
    (build field pathfinder ids).destinations id =
      if id ∈ activeMovers field ids then destinationList field pathfinder id else [] := by
  rw [destinations, Std.ExtTreeMap.getD_eq_getD_getElem?, getElem?_build]
  split <;> rfl

/-- Whatever the pathfinder and whichever units are listed, in any order and with repetitions: the
maps tell what the pathfinder reports of those that can move. -/
theorem tell_build (field : Battlefield) (pathfinder : Pathfinder) (ids : List UnitId) :
    (build field pathfinder ids).Tell field pathfinder ids := by
  have reported : ∀ id hex, hex ∈ (build field pathfinder ids).destinations id ↔
      id ∈ activeMovers field ids ∧ pathfinder.Reports field id hex := by
    intro id hex
    rw [destinations_build]
    split <;> simp_all [mem_destinationList_iff]
  have ordered : ∀ id,
      ((build field pathfinder ids).destinations id).Pairwise fun a b => compare a b = .lt := by
    intro id
    rw [destinations_build]
    split
    · exact pairwise_destinationList field pathfinder id
    · exact List.Pairwise.nil
  refine ⟨fun id hex => ?_, fun id hex => ?_, fun id hex => ?_, fun id => ?_, ordered,
    fun hex => ?_⟩
  · rw [reported, movers_build, List.mem_filter, decide_eq_true_iff, mem_destinationList_iff]
  · exact Halving.contains_iff (ordered id)
  · rw [reported, mem_activeMovers_iff, and_assoc]
  · rw [Std.ExtTreeMap.mem_iff_isSome_getElem?, getElem?_build, ← mem_activeMovers_iff]
    split <;> simp_all
  · rw [movers_build]
    exact (pairwise_activeMovers field ids).filter _

/-- Pathfinders that report the same hexes lead to the same maps. -/
theorem build_congr {other : Pathfinder} (agree : pathfinder.AgreeOn other field)
    (ids : List UnitId) : build field pathfinder ids = build field other ids := by
  refine List.foldl_ext _ _ _ fun maps id member => ?_
  rcases (mem_activeMovers_iff.mp member).2 with ⟨unit, alive, -⟩
  rw [destinationList_congr (agree id unit alive)]

end MoveMaps

/-- Pathfinders that report the same hexes let planning start from the same context. -/
theorem Context.begin_congr {α ρ : Type} {field : Battlefield} {pathfinder other : Pathfinder}
    (agree : pathfinder.AgreeOn other field) (side : Side) (personality : Personality α)
    (engaged : List Hex) (rolls : ρ) :
    Context.begin field side personality pathfinder engaged rolls =
      Context.begin field side personality other engaged rolls := by
  unfold Context.begin MoveMaps.ofAllies MoveMaps.ofEnemies
  rw [MoveMaps.build_congr agree, MoveMaps.build_congr agree]

namespace MoveMaps

/-- The maps of any list of units are inverse to each other, in order, and complete, whatever the
pathfinder; and a pathfinder that reports the same hexes in another way leads to the same maps and
to the same plans. -/
theorem build_canonical (field : Battlefield) (pathfinder : Pathfinder) :
    (∀ ids, (build field pathfinder ids).Tell field pathfinder ids) ∧
      ∀ other : Pathfinder, pathfinder.AgreeOn other field →
        (∀ ids, build field pathfinder ids = build field other ids) ∧
          ∀ {α ρ : Type} [Scalar α] [RollSource ρ] (side : Side) (personality : Personality α)
            (engaged : List Hex) (rolls : ρ),
            (Search.attacks : Planner α ρ (List (Plan α))).run
                (Context.begin field side personality pathfinder engaged rolls) =
              (Search.attacks : Planner α ρ (List (Plan α))).run
                (Context.begin field side personality other engaged rolls) := by
  refine ⟨tell_build field pathfinder, fun other agree => ⟨build_congr agree, ?_⟩⟩
  intro α ρ _ _ side personality engaged rolls
  rw [Context.begin_congr agree]

end MoveMaps

/-- The pathfinder of the terrain, which reports every hex twice and the last one first. -/
def Pathfinder.backwards : Pathfinder := fun field id =>
  (Pathfinder.terrain field id).reverse ++ (Pathfinder.terrain field id).reverse

theorem Pathfinder.agreeOn_backwards (field : Battlefield) :
    Pathfinder.terrain.AgreeOn .backwards field := by
  intro id unit alive hex
  simp [Pathfinder.Reports, Pathfinder.backwards]

namespace MoveMaps

/-- In the defile both scouts can stop on the same hex, also when the hexes are reported backwards,
and when one scout is listed twice and before the other. -/
theorem build_canonical_defile :
    (build .defile .terrain [⟨1⟩, ⟨0⟩, ⟨1⟩, ⟨7⟩]).movers ⟨2, 0⟩ = [⟨0⟩, ⟨1⟩] ∧
      (build .defile .backwards [⟨1⟩, ⟨0⟩, ⟨1⟩, ⟨7⟩]).movers ⟨2, 0⟩ = [⟨0⟩, ⟨1⟩] ∧
      (build .defile .backwards [⟨1⟩, ⟨0⟩, ⟨1⟩, ⟨7⟩]).reaches ⟨1⟩ ⟨2, 0⟩ = true := by
  have movers : (build .defile .terrain [⟨1⟩, ⟨0⟩, ⟨1⟩, ⟨7⟩]).movers ⟨2, 0⟩ = [⟨0⟩, ⟨1⟩] := by
    decide
  have same := ((build_canonical .defile .terrain).2 .backwards
    (Pathfinder.agreeOn_backwards _)).1 [⟨1⟩, ⟨0⟩, ⟨1⟩, ⟨7⟩]
  have tell := (build_canonical .defile .backwards).1 [⟨1⟩, ⟨0⟩, ⟨1⟩, ⟨7⟩]
  refine ⟨movers, same ▸ movers, (tell.reaches _ _).mpr ((tell.inverse _ _).mpr ?_)⟩
  rw [← same, movers]
  simp

end MoveMaps
end Hexfield
