import Hexfield.Plan.Formation
import Hexfield.Proofs.Roster.Consistency

namespace Hexfield

/-!
What a formation does to a field, and that disbanding it undoes all of it.

On a consistent roster each move of a formation can be taken back while those after it have been, so
a formation that is disbanded leaves the very field it was formed on.  On any roster at all a
formation changes nothing but where its units stand, and they stand nowhere but where they stood
before or were sent.
-/

namespace Battlefield

variable {field after : Battlefield} {id : UnitId} {target : Hex}

theorem relocate_eq_ok_iff :
    field.relocate id target = .ok after ↔
      ∃ roster, field.roster.relocate id target = .ok roster ∧ after = { field with roster } := by
  unfold relocate
  cases field.roster.relocate id target with
  | error fault => simp [Except.map]
  | ok roster => simp [Except.map, eq_comm]

theorem relocate_back (consistent : field.roster.Consistent) {unit : Combatant}
    (alive : field.roster.get? id = some unit) (moved : field.relocate id target = .ok after) :
    after.relocate id unit.hex = .ok field := by
  rcases relocate_eq_ok_iff.mp moved with ⟨roster, relocated, rfl⟩
  exact relocate_eq_ok_iff.mpr ⟨_, consistent.relocate_back alive relocated, rfl⟩

/-- The units of one field are those of another, except that some of them may stand on other hexes,
where they are allowed to stand. -/
structure Strays (allowed : UnitId → Hex → Prop) (before after : Battlefield) : Prop where
  frame : after = { before with roster := after.roster }
  units : ∀ {id unit}, before.roster.get? id = some unit →
    ∃ hex, after.roster.get? id = some { unit with hex } ∧ (hex = unit.hex ∨ allowed id hex)

/-- A unit stands there at first or is allowed to. -/
def MayStand (field : Battlefield) (allowed : UnitId → Hex → Prop) (movement : UnitId × Hex) :
    Prop :=
  ∀ unit, field.roster.get? movement.1 = some unit →
    movement.2 = unit.hex ∨ allowed movement.1 movement.2

namespace Strays

variable {allowed : UnitId → Hex → Prop} {before : Battlefield}

theorem refl (allowed : UnitId → Hex → Prop) (field : Battlefield) : field.Strays allowed field :=
  ⟨rfl, fun {_ unit} alive => ⟨unit.hex, alive, Or.inl rfl⟩⟩

theorem relocate (strays : before.Strays allowed field)
    (may : before.MayStand allowed (id, target)) (moved : field.relocate id target = .ok after) :
    before.Strays allowed after := by
  rcases relocate_eq_ok_iff.mp moved with ⟨roster, relocated, rfl⟩
  refine ⟨?_, ?_⟩
  · have frame := strays.frame
    rw [frame]
  · intro other unit alive
    rcases strays.units alive with ⟨hex, there, reason⟩
    simp only [Roster.get?_relocate relocated, there]
    by_cases mover : id = other
    · subst mover
      exact ⟨target, by rw [if_pos rfl]; rfl, may unit alive⟩
    · exact ⟨hex, by rw [if_neg mover], reason⟩

end Strays
end Battlefield

namespace Formation

variable {field : Battlefield} {formation : Formation}

/-- A movement is left out, or the unit goes where it is sent and its way back is remembered. -/
theorem advance_cases (formation : Formation) (movement : UnitId × Hex) :
    formation.advance movement = formation ∨
      ∃ unit after, formation.field.roster.get? movement.1 = some unit ∧
        formation.field.relocate movement.1 movement.2 = .ok after ∧
        formation.advance movement =
          { field := after, moved := (movement.1, unit.hex) :: formation.moved } := by
  unfold advance
  cases alive : formation.field.roster.get? movement.1 with
  | none => exact Or.inl rfl
  | some unit =>
      simp only
      by_cases stays : unit.hex = movement.2
      · exact Or.inl (if_pos stays)
      · rw [if_neg stays]
        cases moved : formation.field.relocate movement.1 movement.2 with
        | error fault => exact Or.inl rfl
        | ok after => exact Or.inr ⟨unit, after, rfl, rfl, rfl⟩

theorem withdraw_cases (field : Battlefield) (movement : UnitId × Hex) :
    withdraw field movement = field ∨
      field.relocate movement.1 movement.2 = .ok (withdraw field movement) := by
  unfold withdraw
  cases field.relocate movement.1 movement.2 with
  | error fault => exact Or.inl rfl
  | ok after => exact Or.inr rfl

/-! ## On a consistent roster -/

/-- The formation stands on a consistent roster, and disbanding it would restore a field. -/
structure Restores (field : Battlefield) (formation : Formation) : Prop where
  consistent : formation.field.roster.Consistent
  disband : formation.disband = field

theorem Restores.advance (restores : formation.Restores field) (movement : UnitId × Hex) :
    (formation.advance movement).Restores field := by
  rcases advance_cases formation movement with same | ⟨unit, after, alive, moved, advanced⟩
  · rw [same]
    exact restores
  · rw [advanced]
    have back := Battlefield.relocate_back restores.consistent alive moved
    rcases Battlefield.relocate_eq_ok_iff.mp moved with ⟨roster, relocated, rfl⟩
    refine ⟨restores.consistent.relocate relocated, ?_⟩
    -- The move made last is the first to be taken back.
    rw [← restores.disband]
    simp only [Formation.disband, List.foldl_cons, withdraw, back]

theorem restores_form (consistent : field.roster.Consistent) (movements : List (UnitId × Hex)) :
    (form field movements).Restores field := by
  have along : ∀ (movements : List (UnitId × Hex)) {formation : Formation},
      formation.Restores field → (movements.foldl advance formation).Restores field := by
    intro movements
    induction movements with
    | nil => exact fun restores => restores
    | cons movement rest ih => exact fun restores => ih (restores.advance movement)
  exact along movements ⟨consistent, rfl⟩

theorem disband_form (consistent : field.roster.Consistent) (movements : List (UnitId × Hex)) :
    (form field movements).disband = field :=
  (restores_form consistent movements).disband

/-! ## On any roster -/

/-- What every relocation keeps is kept when units take their formation and leave it again. -/
theorem disband_form_induction {motive : Battlefield → Prop}
    (relocated : ∀ {field after : Battlefield} {id : UnitId} {target : Hex}, motive field →
      field.relocate id target = .ok after → motive after)
    (holds : motive field) (movements : List (UnitId × Hex)) :
    motive (form field movements).disband := by
  have formed : motive (form field movements).field := by
    unfold form
    refine List.foldlRecOn (motive := fun formation => motive formation.field) _ advance ?_ ?_
    · exact holds
    · intro formation holds movement _
      rcases advance_cases formation movement with same | ⟨_, after, -, moved, advanced⟩
      · rw [same]
        exact holds
      · rw [advanced]
        exact relocated holds moved
  refine List.foldlRecOn (motive := motive) _ withdraw formed ?_
  intro field holds movement _
  rcases withdraw_cases field movement with same | moved
  · rw [same]
    exact holds
  · exact relocated holds moved

variable {allowed : UnitId → Hex → Prop} {before : Battlefield}

/-- The units of a formation stand where they may, and have come from where they may stand. -/
structure Strays (allowed : UnitId → Hex → Prop) (before : Battlefield) (formation : Formation) :
    Prop where
  field : before.Strays allowed formation.field
  moved : ∀ movement ∈ formation.moved, before.MayStand allowed movement

theorem Strays.advance (strays : formation.Strays allowed before) {movement : UnitId × Hex}
    (may : before.MayStand allowed movement) :
    (formation.advance movement).Strays allowed before := by
  rcases advance_cases formation movement with same | ⟨unit, after, alive, moved, advanced⟩
  · rw [same]
    exact strays
  · rw [advanced]
    refine ⟨strays.field.relocate may moved, ?_⟩
    intro earlier member
    rcases List.mem_cons.mp member with rfl | member
    · intro unit' alive'
      rcases strays.field.units alive' with ⟨hex, there, reason⟩
      rw [alive] at there
      cases there
      exact reason
    · exact strays.moved earlier member

theorem strays_form (strays : before.Strays allowed field) {movements : List (UnitId × Hex)}
    (may : ∀ movement ∈ movements, before.MayStand allowed movement) :
    (form field movements).Strays allowed before := by
  have along : ∀ (movements : List (UnitId × Hex)) {formation : Formation},
      (∀ movement ∈ movements, before.MayStand allowed movement) →
        formation.Strays allowed before →
        (movements.foldl advance formation).Strays allowed before := by
    intro movements
    induction movements with
    | nil => exact fun _ strays => strays
    | cons movement rest ih =>
        intro formation may strays
        exact ih (fun other member => may other (List.mem_cons_of_mem _ member))
          (strays.advance (may movement (List.mem_cons_self ..)))
  exact along movements may ⟨strays, fun _ member => by cases member⟩

/-- Also on a roster that is not consistent, disbanding a formation sends units only where they may
stand. -/
theorem Strays.disband (strays : formation.Strays allowed before) :
    before.Strays allowed formation.disband := by
  have along : ∀ (moved : List (UnitId × Hex)) {field : Battlefield},
      (∀ movement ∈ moved, before.MayStand allowed movement) → before.Strays allowed field →
        before.Strays allowed (moved.foldl withdraw field) := by
    intro moved
    induction moved with
    | nil => exact fun _ strays => strays
    | cons movement rest ih =>
        intro field may strays
        refine ih (fun other member => may other (List.mem_cons_of_mem _ member)) ?_
        rcases withdraw_cases field movement with same | back
        · rw [same]
          exact strays
        · exact strays.relocate (may movement (List.mem_cons_self ..)) back
  exact along formation.moved strays.moved strays.field

end Formation
end Hexfield
