import Hexfield.Battlefield

namespace Hexfield
namespace Battlefield

/-!
Traits of units that a course of events leaves alone.

A trait is any function of a unit.  A field keeps a trait when every number stands for a unit with
the same trait as before, or for none as before, and when nothing but the units has changed.  What
a change in place keeps depends on the change alone, whichever unit it befalls; so one statement
serves for weapons, for hitpoints and for everything that the numbers of an attack are read from.
-/

variable {β : Type}

/-- Only the units have changed, and none of them in this trait. -/
structure Keeps (trait : Combatant → β) (before after : Battlefield) : Prop where
  board : after.board = before.board
  teams : after.teams = before.teams
  time : after.time = before.time
  rules : after.rules = before.rules
  index : after.roster.index = before.roster.index
  units : ∀ id, (after.roster.get? id).map trait = (before.roster.get? id).map trait

namespace Keeps

variable {trait : Combatant → β} {first second third : Battlefield}

theorem refl (trait : Combatant → β) (field : Battlefield) : field.Keeps trait field :=
  ⟨rfl, rfl, rfl, rfl, rfl, fun _ => rfl⟩

theorem trans (left : first.Keeps trait second) (right : second.Keeps trait third) :
    first.Keeps trait third :=
  ⟨right.board.trans left.board, right.teams.trans left.teams, right.time.trans left.time,
    right.rules.trans left.rules, right.index.trans left.index,
    fun id => (right.units id).trans (left.units id)⟩

theorem get? (keeps : first.Keeps trait second) {id : UnitId} {unit : Combatant}
    (alive : first.roster.get? id = some unit) :
    ∃ after, second.roster.get? id = some after ∧ trait after = trait unit := by
  have same := keeps.units id
  rw [alive] at same
  exact Option.map_eq_some_iff.mp same

theorem get?_eq_none_iff (keeps : first.Keeps trait second) (id : UnitId) :
    second.roster.get? id = none ↔ first.roster.get? id = none := by
  rw [← Option.map_eq_none_iff, keeps.units, Option.map_eq_none_iff]

theorem terrainAt (keeps : first.Keeps trait second) (hex : Hex) :
    second.terrainAt hex = first.terrainAt hex := by
  rw [Battlefield.terrainAt, Battlefield.terrainAt, keeps.board]

theorem map_unitAt? (keeps : first.Keeps trait second) (hex : Hex) :
    (second.roster.unitAt? hex).map trait = (first.roster.unitAt? hex).map trait := by
  have sameId : second.roster.idAt? hex = first.roster.idAt? hex := by
    rw [Roster.idAt?, Roster.idAt?, keeps.index]
  rw [Roster.unitAt?, Roster.unitAt?, sameId]
  cases first.roster.idAt? hex with
  | none => rfl
  | some id => exact keeps.units id

/-- With a trait all those are kept that it determines. -/
theorem coarsen {γ : Type} {coarse : Combatant → γ} (keeps : first.Keeps trait second)
    (determined : ∀ unit unit', trait unit' = trait unit → coarse unit' = coarse unit) :
    first.Keeps coarse second := by
  refine ⟨keeps.board, keeps.teams, keeps.time, keeps.rules, keeps.index, ?_⟩
  intro id
  cases found : first.roster.get? id with
  | none => rw [(keeps.get?_eq_none_iff id).mpr found]
  | some unit =>
      rcases keeps.get? found with ⟨unit', found', same⟩
      rw [found']
      exact congrArg some (determined unit unit' same)

theorem consistent (keeps : first.Keeps Combatant.hex second)
    (consistent : first.roster.Consistent) : second.roster.Consistent := by
  intro hex id
  have index : second.roster.idAt? hex = first.roster.idAt? hex := by
    rw [Roster.idAt?, keeps.index]
    rfl
  have units := keeps.units id
  rw [index, consistent hex id, ← Option.map_eq_some_iff, ← Option.map_eq_some_iff, units]

end Keeps

/-- A change in place keeps every trait that it does not touch. -/
theorem keeps_update (trait : Combatant → β) {change : Combatant → Combatant}
    (untouched : ∀ unit, trait (change unit) = trait unit) (field : Battlefield) (id : UnitId) :
    field.Keeps trait (field.update id change) := by
  refine ⟨rfl, rfl, rfl, rfl, rfl, ?_⟩
  intro other
  change ((field.roster.update id change).get? other).map trait = _
  rw [Roster.get?_update]
  by_cases same : id = other
  · rw [if_pos same]
    cases field.roster.get? other with
    | none => rfl
    | some unit => exact congrArg some (untouched unit)
  · rw [if_neg same]

end Battlefield
end Hexfield
