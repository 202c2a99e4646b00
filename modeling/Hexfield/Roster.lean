import Hexfield.Combatant

namespace Hexfield

/-!
The units on the field, found by number and by hex.

Every unit ever placed has a slot, whose position is the unit's number.  Removing a unit empties its
slot and shifts no other, so a number never comes to mean another unit.  Numbers are 32-bit words,
though: after `UInt32.size` units the roster has no number left for another one, and begins again at
zero.  Beside the slots stands an index from hexes to numbers; `Roster.Consistent` says that the two
agree, and every operation keeps it as long as units move through `relocate` only and each new one
finds a number of its own.
-/

structure Roster where
  slots : Array (Option Combatant)
  index : Std.ExtTreeMap Hex UnitId

namespace Roster

def empty : Roster :=
  ⟨#[], ∅⟩

/-- The unit with a number, if it is alive. -/
def get? (roster : Roster) (id : UnitId) : Option Combatant :=
  roster.slots[id.val]?.join

def contains (roster : Roster) (id : UnitId) : Bool :=
  (roster.get? id).isSome

/-- The number under which a hex is indexed. -/
def idAt? (roster : Roster) (hex : Hex) : Option UnitId :=
  roster.index[hex]?

def unitAt? (roster : Roster) (hex : Hex) : Option Combatant :=
  (roster.idAt? hex).bind roster.get?

/-- The live units with their numbers, in increasing order of the numbers. -/
def entries (roster : Roster) : List (UnitId × Combatant) :=
  roster.slots.toList.zipIdx.filterMap fun (slot, i) => slot.map (fun unit => (⟨low32 i⟩, unit))

/-- The numbers of the live units, in increasing order. -/
def ids (roster : Roster) : List UnitId :=
  roster.entries.map Prod.fst

def size (roster : Roster) : Nat :=
  roster.entries.length

def isEmpty (roster : Roster) : Bool :=
  roster.size == 0

/-- The unit is placed on its hex under a fresh number. -/
def insert (roster : Roster) (unit : Combatant) : Except Fault (UnitId × Roster) :=
  match roster.idAt? unit.hex with
  | some _ => .error (.hexOccupied unit.hex)
  | none =>
      let id : UnitId := ⟨low32 roster.slots.size⟩
      .ok (id, { slots := roster.slots.push (some unit), index := roster.index.insert unit.hex id })

/-- A live unit is changed in place.  The index is left alone, so its hex must stay the same. -/
def update (roster : Roster) (id : UnitId) (change : Combatant → Combatant) : Roster :=
  { roster with slots := roster.slots.modify id.val (Option.map change) }

def erase (roster : Roster) (id : UnitId) : Roster :=
  match roster.get? id with
  | none => roster
  | some unit =>
      { slots := roster.slots.setIfInBounds id.val none
        index :=
          if roster.idAt? unit.hex = some id then roster.index.erase unit.hex
          else roster.index }

/-- A unit moves to a free hex, or stays on its own. -/
def relocate (roster : Roster) (id : UnitId) (target : Hex) : Except Fault Roster :=
  match roster.get? id with
  | none => .error (.unitNotFound id)
  | some unit =>
      if unit.hex = target then .ok roster
      else
        match roster.idAt? target with
        | some _ => .error (.hexOccupied target)
        | none =>
            .ok
              { slots := roster.slots.modify id.val
                  (Option.map fun unit => { unit with hex := target })
                index := (roster.index.erase unit.hex).insert target id }

/-- The index leads to a number exactly where the unit of that number stands. -/
def Consistent (roster : Roster) : Prop :=
  ∀ hex id, roster.idAt? hex = some id ↔ ∃ unit, roster.get? id = some unit ∧ unit.hex = hex

/-- A change in place is seen under the number of the unit, and under no other. -/
theorem get?_update (roster : Roster) (id other : UnitId) (change : Combatant → Combatant) :
    (roster.update id change).get? other =
      if id = other then (roster.get? other).map change else roster.get? other := by
  rcases id with ⟨i⟩
  rcases other with ⟨j⟩
  simp only [get?, update, Array.getElem?_modify, UnitId.mk.injEq]
  split
  · cases roster.slots[j]? with
    | none => rfl
    | some slot => cases slot <;> rfl
  · rfl

@[simp] theorem get?_update_self (roster : Roster) (id : UnitId)
    (change : Combatant → Combatant) :
    (roster.update id change).get? id = (roster.get? id).map change := by
  rw [get?_update, if_pos rfl]

theorem get?_update_of_ne (roster : Roster) {id other : UnitId} (different : id ≠ other)
    (change : Combatant → Combatant) :
    (roster.update id change).get? other = roster.get? other := by
  rw [get?_update, if_neg different]

@[simp] theorem index_update (roster : Roster) (id : UnitId) (change : Combatant → Combatant) :
    (roster.update id change).index = roster.index :=
  rfl

/-- A unit that has left the field is not found any more; the others are untouched. -/
theorem get?_erase (roster : Roster) (id other : UnitId) :
    (roster.erase id).get? other = if id = other then none else roster.get? other := by
  rcases id with ⟨i⟩
  rcases other with ⟨j⟩
  simp only [erase, UnitId.mk.injEq]
  split
  · rename_i dead
    split
    · rename_i same
      exact same ▸ dead
    · rfl
  · simp only [get?, Array.getElem?_setIfInBounds]
    split
    · split <;> rfl
    · rfl

theorem lt_size_of_get? {roster : Roster} {id : UnitId} {unit : Combatant}
    (alive : roster.get? id = some unit) : id.val < roster.slots.size := by
  by_cases bound : id.val < roster.slots.size
  · exact bound
  · rw [get?, Array.getElem?_eq_none (Nat.le_of_not_lt bound)] at alive
    cases alive

/-- A unit that is placed goes into a new slot after all others, and the others are untouched.  Its
number is the low word of the position of that slot. -/
theorem insert_eq_ok {roster after : Roster} {unit : Combatant} {id : UnitId}
    (placed : roster.insert unit = .ok (id, after)) :
    id.val = low32 roster.slots.size ∧
      ∀ other, after.get? other =
        if other.val = roster.slots.size then some unit else roster.get? other := by
  simp only [insert] at placed
  split at placed
  · cases placed
  · cases placed
    refine ⟨rfl, ?_⟩
    intro other
    simp only [get?, Array.getElem?_push]
    split
    · rfl
    · rfl

/-- As long as there is room for another number, a unit that is placed is found under its own. -/
theorem insert_eq_ok_of_room {roster after : Roster} {unit : Combatant} {id : UnitId}
    (room : roster.slots.size < UInt32.size) (placed : roster.insert unit = .ok (id, after)) :
    id.val = roster.slots.size ∧
      ∀ other, after.get? other = if id = other then some unit else roster.get? other := by
  rcases insert_eq_ok placed with ⟨number, units⟩
  rw [low32_of_lt room] at number
  refine ⟨number, fun other => ?_⟩
  have same : other.val = roster.slots.size ↔ id = other := by
    rw [UnitId.ext_iff, number, eq_comm]
  simp only [units, same]

theorem size_slots_insert {roster after : Roster} {unit : Combatant} {id : UnitId}
    (placed : roster.insert unit = .ok (id, after)) :
    after.slots.size = roster.slots.size + 1 := by
  simp only [insert] at placed
  split at placed
  · cases placed
  · cases placed
    exact Array.size_push _

@[simp] theorem size_slots_erase (roster : Roster) (id : UnitId) :
    (roster.erase id).slots.size = roster.slots.size := by
  simp only [erase]
  split
  · rfl
  · exact Array.size_setIfInBounds

@[simp] theorem size_slots_update (roster : Roster) (id : UnitId)
    (change : Combatant → Combatant) :
    (roster.update id change).slots.size = roster.slots.size :=
  Array.size_modify

end Roster

end Hexfield
