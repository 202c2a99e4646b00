import Hexfield.Roster

namespace Hexfield
namespace Roster

/-!
The index of a roster agrees with its slots, whatever is done to it.

Erasing and relocating units keep a roster consistent, and so does every change in place that leaves
the hex of the unit alone; placing one does as long as there is room for another number.  In a
consistent roster no two units share a hex, and a unit that moved can be moved back: the roster is
then the same as before, index and all.
-/

variable {roster after : Roster} {id other : UnitId} {unit : Combatant} {target : Hex}

/-! ## What consistency says -/

theorem Consistent.idAt? (consistent : roster.Consistent) (alive : roster.get? id = some unit) :
    roster.idAt? unit.hex = some id :=
  (consistent unit.hex id).mpr ⟨unit, alive, rfl⟩

theorem Consistent.eq_of_hex (consistent : roster.Consistent) {unit' : Combatant}
    (alive : roster.get? id = some unit) (alive' : roster.get? other = some unit')
    (same : unit'.hex = unit.hex) : other = id := by
  have here := consistent.idAt? alive
  rw [← same, consistent.idAt? alive'] at here
  exact Option.some.inj here

theorem Consistent.idAt?_eq_none_iff (consistent : roster.Consistent) {hex : Hex} :
    roster.idAt? hex = none ↔ ∀ id unit, roster.get? id = some unit → unit.hex ≠ hex := by
  constructor
  · intro free id unit alive same
    rw [← same, consistent.idAt? alive] at free
    cases free
  · intro nobody
    cases found : roster.idAt? hex with
    | none => rfl
    | some id =>
        rcases (consistent hex id).mp found with ⟨unit, alive, same⟩
        exact absurd same (nobody id unit alive)

theorem consistent_empty : empty.Consistent := by
  intro hex id
  simp [empty, idAt?, get?]

theorem Consistent.update (consistent : roster.Consistent) (id : UnitId)
    {change : Combatant → Combatant} (still : ∀ unit, (change unit).hex = unit.hex) :
    (roster.update id change).Consistent := by
  intro hex other
  have sameIndex : (roster.update id change).idAt? hex = roster.idAt? hex := rfl
  rw [sameIndex, consistent hex other, get?_update]
  by_cases same : id = other
  · rw [if_pos same]
    constructor
    · rintro ⟨unit, alive, here⟩
      exact ⟨change unit, by rw [alive]; rfl, (still unit).trans here⟩
    · rintro ⟨changed, found, here⟩
      rcases Option.map_eq_some_iff.mp found with ⟨unit, alive, rfl⟩
      exact ⟨unit, alive, (still unit).symm.trans here⟩
  · rw [if_neg same]

/-- A unit that leaves the field leaves its hex free and the others indexed. -/
theorem Consistent.idAt?_erase (consistent : roster.Consistent)
    (alive : roster.get? id = some unit) (hex : Hex) :
    (roster.erase id).idAt? hex = if unit.hex = hex then none else roster.idAt? hex := by
  unfold Roster.erase
  rw [alive]
  simp only
  rw [if_pos (consistent.idAt? alive)]
  simp only [Roster.idAt?, Std.ExtTreeMap.getElem?_erase, Std.compare_eq_iff_eq]

theorem Consistent.erase (consistent : roster.Consistent) (id : UnitId) :
    (roster.erase id).Consistent := by
  cases found : roster.get? id with
  | none =>
      have unchanged : roster.erase id = roster := by
        unfold Roster.erase
        rw [found]
      rw [unchanged]
      exact consistent
  | some unit =>
      intro hex other
      rw [consistent.idAt?_erase found, get?_erase]
      by_cases gone : id = other
      · rw [if_pos gone]
        subst gone
        simp only [reduceCtorEq, false_and, exists_false, iff_false]
        intro still
        split at still
        · cases still
        · rename_i elsewhere
          rcases (consistent hex id).mp still with ⟨unit', alive, here⟩
          rw [found] at alive
          cases alive
          exact elsewhere here
      · rw [if_neg gone, ← consistent hex other]
        by_cases here : unit.hex = hex
        · subst here
          rw [if_pos rfl, consistent.idAt? found]
          simp [gone]
        · rw [if_neg here]

theorem Consistent.idAt?_erase_self (consistent : roster.Consistent)
    (alive : roster.get? id = some unit) : (roster.erase id).idAt? unit.hex = none := by
  rw [consistent.idAt?_erase alive, if_pos rfl]

/-- A unit that leaves the field is not met on its hex any more; the others are met where they
were. -/
theorem Consistent.unitAt?_erase (consistent : roster.Consistent)
    (alive : roster.get? id = some unit) (hex : Hex) :
    (roster.erase id).unitAt? hex = if unit.hex = hex then none else roster.unitAt? hex := by
  rw [unitAt?, unitAt?, consistent.idAt?_erase alive]
  by_cases here : unit.hex = hex
  · rw [if_pos here, if_pos here]
    rfl
  · rw [if_neg here, if_neg here]
    cases found : roster.idAt? hex with
    | none => rfl
    | some other =>
        have different : id ≠ other := by
          rintro rfl
          rcases (consistent hex id).mp found with ⟨unit', alive', there⟩
          cases alive.symm.trans alive'
          exact here there
        rw [Option.bind_some, Option.bind_some, get?_erase, if_neg different]

theorem exists_insert_of_free (free : roster.idAt? unit.hex = none) :
    ∃ after, roster.insert unit = .ok (⟨low32 roster.slots.size⟩, after) := by
  unfold Roster.insert
  rw [free]
  exact ⟨_, rfl⟩

theorem idAt?_of_insert (placed : roster.insert unit = .ok (id, after)) :
    roster.idAt? unit.hex = none := by
  unfold Roster.insert at placed
  split at placed
  · cases placed
  · assumption

theorem idAt?_insert (placed : roster.insert unit = .ok (id, after)) (hex : Hex) :
    after.idAt? hex = if unit.hex = hex then some id else roster.idAt? hex := by
  have free := idAt?_of_insert placed
  unfold Roster.insert at placed
  rw [free] at placed
  cases placed
  simp only [Roster.idAt?, Std.ExtTreeMap.getElem?_insert, Std.compare_eq_iff_eq]

/-- Placing a unit under a number of its own keeps a roster consistent. -/
theorem Consistent.insert (consistent : roster.Consistent)
    (room : roster.slots.size < UInt32.size) (placed : roster.insert unit = .ok (id, after)) :
    after.Consistent := by
  rcases insert_eq_ok_of_room room placed with ⟨number, units⟩
  have fresh : roster.get? id = none := by
    cases found : roster.get? id with
    | none => rfl
    | some older =>
        have slot := lt_size_of_get? found
        rw [number] at slot
        exact absurd slot (Nat.lt_irrefl _)
  intro hex other
  rw [idAt?_insert placed, units other]
  by_cases new : id = other
  · subst new
    rw [if_pos rfl]
    by_cases here : unit.hex = hex
    · rw [if_pos here]
      exact ⟨fun _ => ⟨unit, rfl, here⟩, fun _ => rfl⟩
    · rw [if_neg here, consistent hex id, fresh]
      simp [here]
  · rw [if_neg new, ← consistent hex other]
    by_cases here : unit.hex = hex
    · subst here
      rw [if_pos rfl, idAt?_of_insert placed]
      simp [new]
    · rw [if_neg here]

/-! ## Relocation -/

def transfer (roster : Roster) (id : UnitId) (source target : Hex) : Roster :=
  { slots := roster.slots.modify id.val (Option.map fun unit => { unit with hex := target })
    index := (roster.index.erase source).insert target id }

/-- A unit moves if it is alive and its target is free; on its own hex it stays. -/
theorem relocate_eq_ok_iff :
    roster.relocate id target = .ok after ↔
      ∃ unit, roster.get? id = some unit ∧
        (unit.hex = target ∧ after = roster ∨
          unit.hex ≠ target ∧ roster.idAt? target = none ∧
            after = roster.transfer id unit.hex target) := by
  unfold relocate
  cases roster.get? id with
  | none => simp
  | some unit =>
      simp only [Option.some.injEq, exists_eq_left']
      by_cases stays : unit.hex = target
      · simp [stays, eq_comm]
      · cases roster.idAt? target with
        | none => simp only [transfer, stays, if_false, Except.ok.injEq, false_and, false_or, ne_eq,
            not_false_eq_true, true_and, eq_comm]
        | some occupant => simp [stays]

theorem get?_transfer (roster : Roster) (id other : UnitId) (source target : Hex) :
    (roster.transfer id source target).get? other =
      if id = other then (roster.get? other).map fun unit => { unit with hex := target }
      else roster.get? other :=
  get?_update roster id other fun unit => { unit with hex := target }

theorem idAt?_transfer (roster : Roster) (id : UnitId) (source target hex : Hex) :
    (roster.transfer id source target).idAt? hex =
      if target = hex then some id else if source = hex then none else roster.idAt? hex := by
  simp only [Roster.idAt?, transfer, Std.ExtTreeMap.getElem?_insert,
    Std.ExtTreeMap.getElem?_erase, Std.compare_eq_iff_eq]

/-- A relocation changes nothing of any unit but the hex of the one that moves. -/
theorem get?_relocate (moved : roster.relocate id target = .ok after) (other : UnitId) :
    after.get? other =
      if id = other then (roster.get? other).map fun unit => { unit with hex := target }
      else roster.get? other := by
  rcases relocate_eq_ok_iff.mp moved with ⟨unit, alive, ⟨stays, rfl⟩ | ⟨-, -, rfl⟩⟩
  · split
    · rename_i same
      rw [← same, alive, ← stays]
      rfl
    · rfl
  · exact get?_transfer roster id other unit.hex target

theorem Consistent.relocate (consistent : roster.Consistent)
    (moved : roster.relocate id target = .ok after) : after.Consistent := by
  rcases relocate_eq_ok_iff.mp moved with ⟨unit, alive, ⟨-, rfl⟩ | ⟨moves, free, rfl⟩⟩
  · exact consistent
  · intro hex other
    rw [idAt?_transfer, get?_transfer]
    by_cases mover : id = other
    · subst mover
      rw [if_pos rfl, alive]
      by_cases arrives : target = hex
      · simp [arrives]
      · rw [if_neg arrives]
        by_cases leaves : unit.hex = hex
        · simp [leaves, arrives]
        · rw [if_neg leaves, consistent hex id, alive]
          simp [leaves, arrives]
    · rw [if_neg mover, ← consistent hex other]
      by_cases arrives : target = hex
      · subst arrives
        rw [if_pos rfl, free]
        simp [mover]
      · rw [if_neg arrives]
        by_cases leaves : unit.hex = hex
        · subst leaves
          rw [if_pos rfl, consistent.idAt? alive]
          simp [mover]
        · rw [if_neg leaves]

/-- After a relocation the unit is found on its new hex only, and all others where they were. -/
theorem Consistent.unitAt?_relocate (consistent : roster.Consistent)
    (alive : roster.get? id = some unit) (moved : roster.relocate id target = .ok after)
    (hex : Hex) :
    after.unitAt? hex =
      if target = hex then some { unit with hex := target }
      else if unit.hex = hex then none else roster.unitAt? hex := by
  rcases relocate_eq_ok_iff.mp moved with ⟨unit', alive', result⟩
  rw [alive] at alive'
  cases alive'
  rcases result with ⟨rfl, rfl⟩ | ⟨moves, free, rfl⟩
  · by_cases here : unit.hex = hex
    · rw [if_pos here, unitAt?, ← here, consistent.idAt? alive]
      exact alive
    · rw [if_neg here, if_neg here]
  · rw [unitAt?, idAt?_transfer]
    by_cases arrives : target = hex
    · rw [if_pos arrives, if_pos arrives, Option.bind_some, get?_transfer, if_pos rfl, alive]
      rfl
    · rw [if_neg arrives, if_neg arrives]
      by_cases leaves : unit.hex = hex
      · rw [if_pos leaves, if_pos leaves, Option.bind_none]
      · rw [if_neg leaves, if_neg leaves, unitAt?]
        cases found : roster.idAt? hex with
        | none => rfl
        | some other =>
            have different : id ≠ other := by
              rintro rfl
              rcases (consistent hex id).mp found with ⟨unit', alive', here⟩
              rw [alive] at alive'
              cases alive'
              exact leaves here
            rw [Option.bind_some, Option.bind_some, get?_transfer, if_neg different]

/-- A unit that moved can be moved back, and then the roster is the same as before. -/
theorem Consistent.relocate_back (consistent : roster.Consistent)
    (alive : roster.get? id = some unit) (moved : roster.relocate id target = .ok after) :
    after.relocate id unit.hex = .ok roster := by
  rcases relocate_eq_ok_iff.mp moved with ⟨unit', alive', result⟩
  rw [alive] at alive'
  cases alive'
  rcases result with ⟨stays, rfl⟩ | ⟨moves, free, rfl⟩
  · exact relocate_eq_ok_iff.mpr ⟨unit, alive, Or.inl ⟨rfl, rfl⟩⟩
  · refine relocate_eq_ok_iff.mpr ⟨{ unit with hex := target }, ?_, Or.inr ⟨Ne.symm moves, ?_, ?_⟩⟩
    · rw [get?_transfer, if_pos rfl, alive]
      rfl
    · rw [idAt?_transfer, if_neg (Ne.symm moves), if_pos rfl]
    · have slots : (roster.slots.modify id.val (Option.map fun unit => { unit with hex := target })
          ).modify id.val (Option.map fun unit' => { unit' with hex := unit.hex }) =
            roster.slots := by
        apply Array.ext_getElem?
        intro place
        simp only [Array.getElem?_modify]
        by_cases here : id.val = place
        · subst here
          have slot : roster.slots[id.val]? = some (some unit) := Option.join_eq_some_iff.mp alive
          simp [slot]
        · simp [here]
      have index : (((roster.index.erase unit.hex).insert target id).erase target).insert unit.hex
          id = roster.index := by
        apply Std.ExtTreeMap.ext_getElem?
        intro hex
        have home : roster.index[unit.hex]? = some id := consistent.idAt? alive
        have away : roster.index[target]? = none := free
        simp only [Std.ExtTreeMap.getElem?_insert, Std.ExtTreeMap.getElem?_erase,
          Std.compare_eq_iff_eq]
        by_cases leaves : unit.hex = hex
        · rw [if_pos leaves, ← leaves, home]
        · by_cases arrives : target = hex
          · rw [if_neg leaves, if_pos arrives, ← arrives, away]
          · simp [leaves, arrives]
      rcases roster with ⟨slots', index'⟩
      simp only [transfer, slots, index]

end Roster
end Hexfield
