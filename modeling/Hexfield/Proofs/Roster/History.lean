import Hexfield.Proofs.Roster.Consistency
import Mathlib.Data.List.Basic
import Mathlib.Order.Nat

namespace Hexfield
namespace Roster

/-!
What any number of operations make of an empty roster.

An operation either does what it says or fails, and one that fails leaves the roster as it was.
Slots are never given back: a unit that is placed gets the next one, and one whose unit is gone
stays empty.  The number of a unit is its slot as long as slots have numbers, which are 32-bit
words, so histories that place more than `UInt32.size` units hand out a number again, and all others
hand them out in increasing order.  Together with the consistency of the index this says all that
the rest of the library relies on when it looks units up by number, by hex, or one after another.
-/

/-- A change of a unit in place that leaves it on its hex. -/
structure Edit where
  change : Combatant → Combatant
  still : ∀ unit, (change unit).hex = unit.hex

/-- Something that can be done to a roster. -/
inductive Operation where
  | insert (unit : Combatant)
  | erase (id : UnitId)
  | relocate (id : UnitId) (target : Hex)
  | edit (id : UnitId) (edit : Edit)

inductive Answer where
  /-- A unit was placed under this number. -/
  | placed (id : UnitId)
  | done
  | failed
deriving DecidableEq

def Answer.placed? : Answer → Option UnitId
  | placed id => some id
  | done | failed => none

def perform (roster : Roster) : Operation → Answer × Roster
  | .insert unit =>
      match roster.insert unit with
      | .ok (id, after) => (.placed id, after)
      | .error _ => (.failed, roster)
  | .erase id => (if roster.contains id then .done else .failed, roster.erase id)
  | .relocate id target =>
      match roster.relocate id target with
      | .ok after => (.done, after)
      | .error _ => (.failed, roster)
  | .edit id edit => (if roster.contains id then .done else .failed, roster.update id edit.change)

def performAll (roster : Roster) : List Operation → List Answer × Roster
  | [] => ([], roster)
  | operation :: rest =>
      let first := roster.perform operation
      let others := first.2.performAll rest
      (first.1 :: others.1, others.2)

def afterAll (operations : List Operation) : Roster :=
  (empty.performAll operations).2

/-- The numbers that operations on an empty roster hand out, in the order in which they do so. -/
def handedOut (operations : List Operation) : List UnitId :=
  (empty.performAll operations).1.filterMap Answer.placed?

/-- What stands in the way of an operation: a unit on the hex where it would put one, or that there
is no unit of the number it names. -/
def Operation.Hindered (roster : Roster) : Operation → Prop
  | insert unit => ∃ id other, roster.get? id = some other ∧ other.hex = unit.hex
  | erase id => roster.get? id = none
  | relocate id target =>
      roster.get? id = none ∨
        ∃ unit, roster.get? id = some unit ∧ unit.hex ≠ target ∧
          ∃ id' other, roster.get? id' = some other ∧ other.hex = target
  | edit id _ => roster.get? id = none

/-- What an operation does when nothing stands in its way: its answer, and for each number the unit
that is found under it afterwards. -/
def Operation.Effect (before after : Roster) (answer : Answer) : Operation → Prop
  | insert unit =>
      answer = .placed ⟨before.slots.size⟩ ∧
        ∀ id, after.get? id = if ⟨before.slots.size⟩ = id then some unit else before.get? id
  | erase gone =>
      answer = .done ∧ ∀ id, after.get? id = if gone = id then none else before.get? id
  | relocate mover target =>
      answer = .done ∧ ∀ id, after.get? id =
        if mover = id then (before.get? id).map fun unit => { unit with hex := target }
        else before.get? id
  | edit changed new =>
      answer = .done ∧ ∀ id, after.get? id =
        if changed = id then (before.get? id).map new.change else before.get? id

variable {roster after : Roster} {id : UnitId} {unit : Combatant} {target : Hex}

/-! ## Units by number, by hex, and in order -/

theorem contains_eq_false_iff : roster.contains id = false ↔ roster.get? id = none := by
  rw [contains, Option.isSome_eq_false_iff, Option.isNone_iff_eq_none]

theorem Consistent.unitAt?_eq_some_iff (consistent : roster.Consistent) {hex : Hex} :
    roster.unitAt? hex = some unit ↔ ∃ id, roster.get? id = some unit ∧ unit.hex = hex := by
  rw [unitAt?, Option.bind_eq_some_iff]
  constructor
  · rintro ⟨id, found, alive⟩
    rcases (consistent hex id).mp found with ⟨unit', alive', here⟩
    rw [alive] at alive'
    cases alive'
    exact ⟨id, alive, here⟩
  · rintro ⟨id, alive, here⟩
    exact ⟨id, here ▸ consistent.idAt? alive, alive⟩

/-- The entry that a slot gives, if its unit is alive. -/
private theorem get?_eq_some_iff :
    roster.get? id = some unit ↔ roster.slots.toList[id.val]? = some (some unit) := by
  rw [get?, Option.join_eq_some_iff, Array.getElem?_toList]

/-- As long as every slot has a number, the entries are numbered by their slots. -/
theorem entries_eq (room : roster.slots.size ≤ UInt32.size) :
    roster.entries =
      roster.slots.toList.zipIdx.filterMap fun (slot, i) => slot.map fun unit => (⟨i⟩, unit) := by
  refine List.filterMap_congr ?_
  rintro ⟨slot, i⟩ member
  have place := (List.mem_zipIdx' member).1
  rw [Array.length_toList] at place
  simp only [low32_of_lt (place.trans_le room)]

theorem mem_entries_iff (room : roster.slots.size ≤ UInt32.size) :
    (id, unit) ∈ roster.entries ↔ roster.get? id = some unit := by
  simp only [entries_eq room, List.mem_filterMap, get?_eq_some_iff]
  constructor
  · rintro ⟨⟨slot, i⟩, member, found⟩
    rcases Option.map_eq_some_iff.mp found with ⟨unit', rfl, same⟩
    cases same
    exact List.mem_zipIdx_iff_getElem?.mp member
  · intro slot
    exact ⟨(some unit, id.val), List.mem_zipIdx_iff_getElem?.mpr slot, rfl⟩

/-- The members of a list are numbered in increasing order. -/
theorem pairwise_zipIdx {β : Type} (values : List β) :
    values.zipIdx.Pairwise fun first second => first.2 < second.2 := by
  apply List.pairwise_map.mp
  rw [List.zipIdx_map_snd, ← List.range_eq_range']
  exact List.pairwise_lt_range

/-- The entries come in increasing order of their numbers, so no number comes twice. -/
theorem pairwise_entries (room : roster.slots.size ≤ UInt32.size) :
    roster.entries.Pairwise fun first second => first.1.val < second.1.val := by
  rw [entries_eq room, List.pairwise_filterMap]
  refine (pairwise_zipIdx roster.slots.toList).imp ?_
  rintro ⟨slot, i⟩ ⟨slot', j⟩ less first found second found'
  rcases Option.map_eq_some_iff.mp found with ⟨unit, -, rfl⟩
  rcases Option.map_eq_some_iff.mp found' with ⟨unit', -, rfl⟩
  exact less

/-! ## One operation -/

theorem erase_of_dead (dead : roster.get? id = none) : roster.erase id = roster := by
  rw [erase, dead]

theorem update_of_dead (dead : roster.get? id = none) (change : Combatant → Combatant) :
    roster.update id change = roster := by
  have slots : roster.slots.modify id.val (Option.map change) = roster.slots := by
    apply Array.ext_getElem?
    intro place
    rw [Array.getElem?_modify]
    split
    · rename_i same
      subst same
      rw [get?, Option.join_eq_none_iff] at dead
      rcases dead with noSlot | emptySlot
      · rw [noSlot]
        rfl
      · rw [emptySlot]
        rfl
    · rfl
  rw [update, slots]

theorem Consistent.insert_error_iff (consistent : roster.Consistent) :
    (∃ fault, roster.insert unit = .error fault) ↔ (Operation.insert unit).Hindered roster := by
  unfold Roster.insert
  cases found : roster.idAt? unit.hex with
  | none =>
      simp only [reduceCtorEq, exists_false, false_iff]
      rintro ⟨id, other, alive, here⟩
      exact consistent.idAt?_eq_none_iff.mp found id other alive here
  | some id => simpa using ⟨id, (consistent unit.hex id).mp found⟩

theorem Consistent.relocate_error_iff (consistent : roster.Consistent) :
    (∃ fault, roster.relocate id target = .error fault) ↔
      (Operation.relocate id target).Hindered roster := by
  rw [Roster.relocate, Operation.Hindered]
  cases alive : roster.get? id with
  | none => simp
  | some unit =>
      simp only [reduceCtorEq, false_or, Option.some.injEq, exists_eq_left']
      by_cases stays : unit.hex = target
      · simp [stays]
      · simp only [stays, if_false, ne_eq, not_false_eq_true, true_and]
        cases found : roster.idAt? target with
        | none =>
            simp only [reduceCtorEq, exists_false, false_iff]
            rintro ⟨other, unit', alive', here⟩
            exact consistent.idAt?_eq_none_iff.mp found other unit' alive' here
        | some other => simpa using ⟨other, (consistent target other).mp found⟩

theorem Consistent.perform_failed_iff (consistent : roster.Consistent) (operation : Operation) :
    (roster.perform operation).1 = .failed ↔ operation.Hindered roster := by
  cases operation with
  | insert unit =>
      rw [← consistent.insert_error_iff, perform]
      cases roster.insert unit <;> simp
  | erase id =>
      rw [perform, Operation.Hindered, ← contains_eq_false_iff]
      cases roster.contains id <;> simp
  | relocate id target =>
      rw [← consistent.relocate_error_iff, perform]
      cases roster.relocate id target <;> simp
  | edit id edit =>
      rw [perform, Operation.Hindered, ← contains_eq_false_iff]
      cases roster.contains id <;> simp

theorem perform_of_failed {operation : Operation}
    (failed : (roster.perform operation).1 = .failed) : (roster.perform operation).2 = roster := by
  cases operation with
  | insert unit =>
      simp only [perform] at failed ⊢
      cases placed : roster.insert unit with
      | ok result =>
          rw [placed] at failed
          cases failed
      | error fault => rfl
  | erase id =>
      apply erase_of_dead
      rw [← contains_eq_false_iff]
      cases alive : roster.contains id with
      | true => simp [perform, alive] at failed
      | false => rfl
  | relocate id target =>
      simp only [perform] at failed ⊢
      cases moved : roster.relocate id target with
      | ok result =>
          rw [moved] at failed
          cases failed
      | error fault => rfl
  | edit id edit =>
      apply update_of_dead
      rw [← contains_eq_false_iff]
      cases alive : roster.contains id with
      | true => simp [perform, alive] at failed
      | false => rfl

/-- What an operation does to the slots: it gives back none, a unit that is placed gets the next one
and the number that goes with it, and a slot that lost its unit stays empty. -/
structure Advances (answer : Answer) (before after : Roster) : Prop where
  size : after.slots.size = before.slots.size + answer.placed?.toList.length
  number : ∀ id, answer = .placed id → id = ⟨low32 before.slots.size⟩
  gone : ∀ id, id.val < before.slots.size → before.get? id = none → after.get? id = none

theorem Advances.grows {answer : Answer} (advances : Advances answer roster after) :
    roster.slots.size ≤ after.slots.size :=
  advances.size ▸ Nat.le_add_right _ _

theorem advances_perform (roster : Roster) (operation : Operation) :
    Advances (roster.perform operation).1 roster (roster.perform operation).2 := by
  cases operation with
  | insert unit =>
      simp only [perform]
      cases placed : roster.insert unit with
      | ok result =>
          rcases insert_eq_ok placed with ⟨number, units⟩
          refine ⟨size_slots_insert placed, ?_, ?_⟩
          · intro id answer
            cases answer
            exact UnitId.ext number
          · intro id used dead
            simp only
            rw [units, if_neg used.ne, dead]
      | error fault => exact ⟨rfl, fun _ answer => (by cases answer), fun _ _ dead => dead⟩
  | erase id =>
      cases alive : roster.contains id <;> simp only [perform, alive]
      all_goals refine ⟨size_slots_erase roster id, fun _ answer => (by cases answer), ?_⟩
      all_goals
        intro id' used dead
        rw [get?_erase, dead, ite_self]
  | relocate id target =>
      simp only [perform]
      cases moved : roster.relocate id target with
      | ok result =>
          refine ⟨?_, fun _ answer => (by cases answer), ?_⟩
          · rcases relocate_eq_ok_iff.mp moved with ⟨unit, -, ⟨-, rfl⟩ | ⟨-, -, rfl⟩⟩
            · rfl
            · exact Array.size_modify
          · intro id' used dead
            simp only
            rw [get?_relocate moved, dead, Option.map_none, ite_self]
      | error fault => exact ⟨rfl, fun _ answer => (by cases answer), fun _ _ dead => dead⟩
  | edit id edit =>
      cases alive : roster.contains id <;> simp only [perform, alive]
      all_goals
        refine ⟨size_slots_update roster id edit.change, fun _ answer => (by cases answer), ?_⟩
      all_goals
        intro id' used dead
        rw [get?_update, dead, Option.map_none, ite_self]

theorem Consistent.perform (consistent : roster.Consistent) (operation : Operation)
    (room : (roster.perform operation).2.slots.size ≤ UInt32.size) :
    (roster.perform operation).2.Consistent := by
  cases operation with
  | insert unit =>
      simp only [Roster.perform] at room ⊢
      cases placed : roster.insert unit with
      | ok result =>
          simp only [placed, size_slots_insert placed] at room
          exact consistent.insert room placed
      | error fault => exact consistent
  | erase id => exact consistent.erase id
  | relocate id target =>
      simp only [Roster.perform]
      cases moved : roster.relocate id target with
      | ok result => exact consistent.relocate moved
      | error fault => exact consistent
  | edit id edit => exact consistent.update id edit.still

/-- An operation that does not fail has its effect, as long as every slot has a number. -/
theorem effect_perform {operation : Operation}
    (room : (roster.perform operation).2.slots.size ≤ UInt32.size)
    (succeeds : (roster.perform operation).1 ≠ .failed) :
    operation.Effect roster (roster.perform operation).2 (roster.perform operation).1 := by
  cases operation with
  | insert unit =>
      simp only [perform] at room succeeds ⊢
      cases placed : roster.insert unit with
      | ok result =>
          simp only [placed, size_slots_insert placed] at room
          rcases insert_eq_ok_of_room room placed with ⟨number, units⟩
          have same : result.1 = ⟨roster.slots.size⟩ := UnitId.ext number
          rw [Operation.Effect, ← same]
          exact ⟨rfl, units⟩
      | error fault => simp [placed] at succeeds
  | erase id =>
      cases alive : roster.contains id with
      | true => simpa [perform, alive, Operation.Effect] using get?_erase roster id
      | false => simp [perform, alive] at succeeds
  | relocate id target =>
      simp only [perform] at succeeds ⊢
      cases moved : roster.relocate id target with
      | ok result => exact ⟨rfl, get?_relocate moved⟩
      | error fault => simp [moved] at succeeds
  | edit id edit =>
      cases alive : roster.contains id with
      | true =>
          simp only [perform, alive, if_true]
          exact ⟨rfl, fun other => get?_update roster id other edit.change⟩
      | false => simp [perform, alive] at succeeds

/-! ## Any number of operations -/

theorem performAll_append (roster : Roster) (earlier later : List Operation) :
    (roster.performAll (earlier ++ later)).2 =
      ((roster.performAll earlier).2.performAll later).2 := by
  induction earlier generalizing roster with
  | nil => rfl
  | cons operation rest ih => exact ih (roster.perform operation).2

theorem size_slots_performAll_le (roster : Roster) (operations : List Operation) :
    roster.slots.size ≤ (roster.performAll operations).2.slots.size := by
  induction operations generalizing roster with
  | nil => exact le_rfl
  | cons operation rest ih => exact (advances_perform roster operation).grows.trans (ih _)

theorem Consistent.performAll (consistent : roster.Consistent) (operations : List Operation)
    (room : (roster.performAll operations).2.slots.size ≤ UInt32.size) :
    (roster.performAll operations).2.Consistent := by
  induction operations generalizing roster with
  | nil => exact consistent
  | cons operation rest ih =>
      exact ih (consistent.perform operation ((size_slots_performAll_le _ rest).trans room)) room

theorem get?_performAll_of_gone (operations : List Operation)
    (used : id.val < roster.slots.size) (dead : roster.get? id = none) :
    (roster.performAll operations).2.get? id = none := by
  induction operations generalizing roster with
  | nil => exact dead
  | cons operation rest ih =>
      have advances := advances_perform roster operation
      exact ih (used.trans_le advances.grows) (advances.gone id used dead)

/-- Each unit that is placed gets a slot of its own, and its number is the low word of it. -/
theorem placed_performAll (roster : Roster) (operations : List Operation) :
    let numbers := (roster.performAll operations).1.filterMap Answer.placed?
    (roster.performAll operations).2.slots.size = roster.slots.size + numbers.length ∧
      numbers = (List.range' roster.slots.size numbers.length).map fun place => ⟨low32 place⟩ := by
  induction operations generalizing roster with
  | nil => exact ⟨rfl, rfl⟩
  | cons operation rest ih =>
      rcases ih (roster.perform operation).2 with ⟨size, numbers⟩
      have advances := advances_perform roster operation
      have slots := advances.size
      simp only [performAll, List.filterMap_cons]
      cases answer : (roster.perform operation).1 with
      | placed id =>
          rw [answer] at slots
          simp only [Answer.placed?, Option.toList_some, List.length_singleton] at slots ⊢
          rw [slots] at size numbers
          refine ⟨by rw [size, List.length_cons]; omega, ?_⟩
          rw [List.length_cons, List.range'_succ, List.map_cons, ← numbers,
            ← advances.number id answer]
      | done | failed =>
          rw [answer] at slots
          simp only [Answer.placed?, Option.toList_none, List.length_nil, Nat.add_zero] at slots ⊢
          rw [slots] at size numbers
          exact ⟨size, numbers⟩

theorem size_slots_afterAll (operations : List Operation) :
    (afterAll operations).slots.size = (handedOut operations).length :=
  (placed_performAll empty operations).1.trans (Nat.zero_add _)

/-- The numbers that are handed out count the units, in words. -/
theorem handedOut_eq (operations : List Operation) :
    handedOut operations =
      (List.range (handedOut operations).length).map fun place => ⟨low32 place⟩ := by
  rw [List.range_eq_range']
  exact (placed_performAll empty operations).2

/-- Numbers are handed out in increasing order exactly as long as there are words for them. -/
theorem pairwise_handedOut_iff (operations : List Operation) :
    ((handedOut operations).Pairwise fun first second => first.val < second.val) ↔
      (handedOut operations).length ≤ UInt32.size := by
  constructor
  · intro increasing
    by_contra many
    rw [handedOut_eq, List.pairwise_map] at increasing
    -- The unit after the last word gets the number of the very first one.
    have first : low32 0 = 0 := rfl
    have again : low32 UInt32.size = 0 := Nat.mod_self _
    have less := List.pairwise_iff_getElem.mp increasing 0 UInt32.size
      (by rw [List.length_range]; omega) (by rw [List.length_range]; omega) (by decide)
    rw [List.getElem_range, List.getElem_range, first, again] at less
    exact absurd less (Nat.lt_irrefl 0)
  · intro room
    rw [handedOut_eq, List.pairwise_map]
    refine List.pairwise_lt_range.imp_of_mem ?_
    intro first second _ member less
    have fits := (List.mem_range.mp member).trans_le room
    simpa only [low32_of_lt fits, low32_of_lt (less.trans fits)] using less

/-- A guard and a scout are placed, another scout finds the guard's hex taken, and then the guard
leaves, the scout takes its hex and a second guard comes to where the scout was. -/
def muster : List Operation :=
  [.insert (.ofType "Guard" ⟨1⟩ ⟨0, 0⟩ 38), .insert (.ofType "Scout" ⟨1⟩ ⟨1, 0⟩ 24),
    .insert (.ofType "Scout" ⟨1⟩ ⟨0, 0⟩ 24), .erase ⟨0⟩, .relocate ⟨1⟩ ⟨0, 0⟩,
    .insert (.ofType "Guard" ⟨1⟩ ⟨1, 0⟩ 38)]

end Roster
end Hexfield
