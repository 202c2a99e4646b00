import Hexfield.Proofs.Plan.Planner
import Hexfield.Proofs.Scalar.Order
import Mathlib.Data.List.Induction

namespace Hexfield
namespace Context

/-!
The best cover in the reach of a unit.

A unit looks for cover among its destinations in their order, or where it stands if it has none.  It
takes another hex only if it is less exposed there, so it ends up on the first of the hexes where it
is exposed least.
-/

variable {α ρ : Type} [Scalar α]

/-- The chance that a unit is hit on a hex. -/
def exposure (field : Battlefield) (unit : Combatant) (hex : Hex) : α :=
  Scalar.percent (unit.chanceToBeHit (field.terrainAt hex))

/-- The hexes among which a unit looks for cover. -/
def shelters (moves : MoveMaps) (id : UnitId) (unit : Combatant) : List Hex :=
  match moves.destinations id with
  | [] => [unit.hex]
  | hexes => hexes

/-- The cover is on the first of the hexes on which the unit is exposed least. -/
def LeastExposed (field : Battlefield) (unit : Combatant) (hexes : List Hex) (cover : Cover α) :
    Prop :=
  cover.chance = exposure field unit cover.hex ∧
    ∃ before after, hexes = before ++ cover.hex :: after ∧
      (∀ hex ∈ before, cover.chance < exposure field unit hex) ∧
      ∀ hex ∈ after, cover.chance ≤ exposure field unit hex

variable {field : Battlefield} {unit : Combatant}

section Search

variable [Scalar.Ordered α]

theorem LeastExposed.le {hexes : List Hex} {cover : Cover α}
    (least : LeastExposed field unit hexes cover) (number : cover.chance ≤ cover.chance) {hex : Hex}
    (member : hex ∈ hexes) : cover.chance ≤ exposure field unit hex := by
  rcases least with ⟨chance, before, after, rfl, below, above⟩
  rcases List.mem_append.mp member with early | late
  · exact (Scalar.Ordered.lt_iff.mp (below hex early)).1
  · rcases List.mem_cons.mp late with rfl | late
    · rw [← chance]
      exact number
    · exact above hex late

/-- No hex is as good as one that is less exposed than it. -/
theorem LeastExposed.not_mem {hexes before : List Hex} {cover cover' : Cover α}
    (least : LeastExposed field unit hexes cover) (member : cover'.hex ∈ hexes)
    (chance' : cover'.chance = exposure field unit cover'.hex)
    (below : ∀ hex ∈ before, cover'.chance < exposure field unit hex) : cover.hex ∉ before := by
  intro early
  have less := below cover.hex early
  rw [← least.1] at less
  have le := least.le (Scalar.Ordered.number_of_lt less) member
  rw [← chance'] at le
  exact (Scalar.Ordered.lt_iff.mp less).2 le

theorem LeastExposed.eq {hexes : List Hex} {cover cover' : Cover α}
    (least : LeastExposed field unit hexes cover) (least' : LeastExposed field unit hexes cover') :
    cover = cover' := by
  rcases least with ⟨chance, before, after, parts, below, above⟩
  rcases least' with ⟨chance', before', after', parts', below', above'⟩
  have late : cover.hex ∉ before' :=
    LeastExposed.not_mem ⟨chance, before, after, parts, below, above⟩ (by simp [parts']) chance'
      below'
  have late' : cover'.hex ∉ before :=
    LeastExposed.not_mem ⟨chance', before', after', parts', below', above'⟩ (by simp [parts]) chance
      below
  have same : cover.hex = cover'.hex := by
    rw [parts] at parts'
    rcases List.append_eq_append_iff.mp parts' with
      ⟨between, earlier, rest⟩ | ⟨between, earlier, rest⟩
    · cases between with
      | nil => exact (List.cons.inj rest).1
      | cons hex between =>
          rw [earlier, ← (List.cons.inj rest).1] at late
          simp at late
    · cases between with
      | nil => exact (List.cons.inj rest).1.symm
      | cons hex between =>
          rw [earlier, ← (List.cons.inj rest).1] at late'
          simp at late'
  rcases cover with ⟨hex, measured⟩
  rcases cover' with ⟨hex', measured'⟩
  simp only at same chance chance'
  rw [chance, chance', same]

variable (numbers : ∀ hex, @exposure α _ field unit hex ≤ exposure field unit hex)

include numbers

theorem leastExposed_foldl_betterCover (first : Hex) (others : List Hex) :
    LeastExposed field unit (first :: others)
      ((others.map (coverAt field unit)).foldl betterCover (@coverAt α _ field unit first)) := by
  -- The best so far is the foremost of the hexes so far.
  induction others using List.reverseRecOn with
  | nil => exact ⟨rfl, [], [], rfl, by simp, by simp⟩
  | append_singleton others last ih =>
      rw [List.map_append, List.foldl_append]
      simp only [List.map_cons, List.map_nil, List.foldl_cons, List.foldl_nil]
      generalize (others.map (coverAt field unit)).foldl betterCover
        (@coverAt α _ field unit first) = best at ih ⊢
      have number : best.chance ≤ best.chance := by
        rw [ih.1]
        exact numbers best.hex
      have better : betterCover best (coverAt field unit last) =
          if exposure field unit last < best.chance then coverAt field unit last else best := rfl
      rw [better]
      by_cases less : exposure field unit last < best.chance
      · rw [if_pos less]
        refine ⟨rfl, first :: others, [], rfl, ?_, by simp⟩
        intro hex member
        exact Scalar.Ordered.lt_of_lt_of_le less (ih.le number member)
      · rw [if_neg less]
        have le : best.chance ≤ exposure field unit last := by
          rcases Scalar.Ordered.le_total number (numbers last) with le | ge
          · exact le
          · exact Classical.byContradiction fun notLe =>
              less (Scalar.Ordered.lt_iff.mpr ⟨ge, notLe⟩)
        rcases ih with ⟨chance, before, after, parts, below, above⟩
        refine ⟨chance, before, after ++ [last], ?_, below, ?_⟩
        · rw [← List.cons_append, parts, List.append_assoc, List.cons_append]
        · intro hex member
          rcases List.mem_append.mp member with early | late
          · exact above hex early
          · rw [List.mem_singleton.mp late]
            exact le

theorem leastExposed_bestCover (moves : MoveMaps) (id : UnitId) :
    LeastExposed field unit (shelters moves id unit) (bestCover field moves id unit : Cover α) := by
  cases listed : moves.destinations id with
  | nil =>
      simp only [shelters, bestCover, listed]
      exact leastExposed_foldl_betterCover numbers unit.hex []
  | cons first others =>
      simp only [shelters, bestCover, listed]
      exact leastExposed_foldl_betterCover numbers first others

end Search

omit [Scalar α] in
/-- What is so of all covers that are remembered, and of one more, is so with that one
remembered. -/
theorem forall_insert_cover (good : UnitId → Cover α → Prop)
    {covers : Std.ExtTreeMap UnitId (Cover α)} {id : UnitId} {best : Cover α}
    (known : ∀ {other cover}, covers[other]? = some cover → good other cover)
    (new : good id best) {other : UnitId} {cover : Cover α}
    (remembered : (covers.insert id best)[other]? = some cover) : good other cover := by
  simp only [Std.ExtTreeMap.getElem?_insert] at remembered
  split at remembered
  · rename_i same
    rw [← Std.LawfulEqOrd.eq_of_compare same, ← Option.some.inj remembered]
    exact new
  · exact known remembered

end Context

namespace Planner

variable {α ρ : Type} [Scalar α]

/-- A cover that was looked up before is the one that is known; any other is the best of now, and
known from then on. -/
theorem cover_apply (id : UnitId) (context : Context α ρ) :
    cover id context =
      match context.covers[id]? with
      | some known => .ok known context
      | none =>
          match context.field.unit id with
          | .error fault => .error fault context
          | .ok unit =>
              let best := Context.bestCover context.field context.ownMoves id unit
              .ok best { context with covers := context.covers.insert id best } := by
  unfold cover
  rw [get_bind_apply]
  cases context.covers[id]? with
  | some known => rfl
  | none =>
      cases context.field.unit id with
      | error fault => rfl
      | ok unit => rfl

end Planner
end Hexfield
