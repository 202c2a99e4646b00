import Hexfield.Proofs.Exchange.Opening
import Hexfield.Proofs.Plan.Formation
import Mathlib.Data.List.Induction

namespace Hexfield
namespace Formation

/-!
Where the units of a formation stand, and that all of them get back.

A movement is carried out if nobody else stands on its destination when its turn comes; otherwise
the unit stays where it is by then.  So a unit stands where the last of its movements that was
carried out has led it.  The units go back in the opposite order.  Whoever is to go back finds the
field as it was when he had just left his hex, so no way back is ever barred, however the movements
run after one another or in circles.
-/

variable {field : Battlefield} {formation : Formation} {movements : List (UnitId × Hex)}
  {movement : UnitId × Hex} {id : UnitId} {unit : Combatant} {home hex target : Hex}
  {turn : Nat}

theorem form_concat (field : Battlefield) (movements : List (UnitId × Hex))
    (movement : UnitId × Hex) :
    form field (movements ++ [movement]) = (form field movements).advance movement := by
  simp only [form, List.foldl_append, List.foldl_cons, List.foldl_nil]

/-! ## The ways back -/

/-- All units return to where they came from; it is a failure if one of them cannot. -/
def retreat (formation : Formation) : Except Fault Battlefield :=
  formation.moved.foldlM (fun field movement => field.relocate movement.1 movement.2)
    formation.field

/-- A unit that moved last goes back first, and then the others go back as they would have. -/
theorem retreat_advance (consistent : formation.field.roster.Consistent)
    (movement : UnitId × Hex) : (formation.advance movement).retreat = formation.retreat := by
  rcases advance_cases formation movement with same | ⟨unit, after, alive, moved, advanced⟩
  · rw [same]
  · rw [advanced]
    have back := Battlefield.relocate_back consistent alive moved
    simp only [retreat, List.foldlM_cons, back]
    rfl

/-- No unit of a formation finds its way back barred. -/
theorem retreat_form (consistent : field.roster.Consistent) (movements : List (UnitId × Hex)) :
    (form field movements).retreat = .ok field := by
  induction movements using List.reverseRecOn with
  | nil => rfl
  | append_singleton movements movement ih =>
      rw [form_concat, retreat_advance (restores_form consistent movements).consistent, ih]

/-! ## One movement -/

/-- Nobody but the unit itself stands where it is sent. -/
def Unobstructed (field : Battlefield) (movement : UnitId × Hex) : Prop :=
  ∀ id unit, field.roster.get? id = some unit → unit.hex = movement.2 → id = movement.1

theorem get?_advance_of_ne (formation : Formation) (different : movement.1 ≠ id) :
    (formation.advance movement).field.roster.get? id = formation.field.roster.get? id := by
  rcases advance_cases formation movement with same | ⟨mover, after, alive, moved, advanced⟩
  · rw [same]
  · rcases Battlefield.relocate_eq_ok_iff.mp moved with ⟨roster, relocated, rfl⟩
    rw [advanced]
    simp only [Roster.get?_relocate relocated, if_neg different]

theorem get?_advance_of_unobstructed (consistent : formation.field.roster.Consistent)
    (alive : formation.field.roster.get? id = some unit)
    (clear : Unobstructed formation.field (id, target)) :
    (formation.advance (id, target)).field.roster.get? id = some { unit with hex := target } := by
  unfold advance
  simp only [alive]
  by_cases stays : unit.hex = target
  · rw [if_pos stays, ← stays]
    exact alive
  · have free : formation.field.roster.idAt? target = none := by
      apply consistent.idAt?_eq_none_iff.mpr
      intro other occupant alive' there
      cases clear other occupant alive' there
      rw [alive] at alive'
      cases alive'
      exact stays there
    have relocated : formation.field.roster.relocate id target =
        .ok (formation.field.roster.transfer id unit.hex target) :=
      Roster.relocate_eq_ok_iff.mpr ⟨unit, alive, Or.inr ⟨stays, free, rfl⟩⟩
    have moved := Battlefield.relocate_eq_ok_iff.mpr ⟨_, relocated, rfl⟩
    simp only [if_neg stays, moved, Roster.get?_relocate relocated, alive]
    rfl

theorem advance_of_obstructed (consistent : formation.field.roster.Consistent)
    (barred : ¬ Unobstructed formation.field movement) :
    formation.advance movement = formation := by
  rcases advance_cases formation movement with same | ⟨unit, after, alive, moved, -⟩
  · exact same
  · rcases Battlefield.relocate_eq_ok_iff.mp moved with ⟨roster, relocated, -⟩
    rcases Roster.relocate_eq_ok_iff.mp relocated with ⟨unit', alive', moves⟩
    exfalso
    apply barred
    intro other occupant there here
    rcases moves with ⟨stays, -⟩ | ⟨-, free, -⟩
    · exact consistent.eq_of_hex alive' there (here.trans stays.symm)
    · exact absurd here (consistent.idAt?_eq_none_iff.mp free other occupant there)

/-! ## All movements -/

/-- The movement at a turn sends a unit to a hex, and is carried out. -/
structure Carried (field : Battlefield) (movements : List (UnitId × Hex)) (turn : Nat) (id : UnitId)
    (hex : Hex) : Prop where
  sent : movements[turn]? = some (id, hex)
  clear : Unobstructed (form field (movements.take turn)).field (id, hex)

/-- A unit stands where the last of its movements that was carried out has led it, or at home if
none of them was. -/
def Stationed (field : Battlefield) (movements : List (UnitId × Hex)) (id : UnitId)
    (home hex : Hex) : Prop :=
  (∃ turn, Carried field movements turn id hex ∧
    ∀ later target, turn < later → ¬ Carried field movements later id target) ∨
  hex = home ∧ ∀ turn target, ¬ Carried field movements turn id target

theorem Carried.lt_length (carried : Carried field movements turn id hex) :
    turn < movements.length :=
  (List.getElem?_eq_some_iff.mp carried.sent).1

theorem Carried.le_length (carried : Carried field (movements ++ [movement]) turn id hex) :
    turn ≤ movements.length := by
  have within := carried.lt_length
  rw [List.length_append, List.length_singleton] at within
  exact Nat.le_of_lt_succ within

/-- One more movement changes nothing for those before it. -/
theorem carried_concat_of_lt (earlier : turn < movements.length) :
    Carried field (movements ++ [movement]) turn id hex ↔ Carried field movements turn id hex := by
  have sent : (movements ++ [movement])[turn]? = movements[turn]? :=
    List.getElem?_append_left earlier
  have before : (movements ++ [movement]).take turn = movements.take turn :=
    List.take_append_of_le_length (Nat.le_of_lt earlier)
  constructor
  · rintro ⟨there, clear⟩
    exact ⟨sent ▸ there, before ▸ clear⟩
  · rintro ⟨there, clear⟩
    exact ⟨sent ▸ there, before ▸ clear⟩

/-- The last movement is carried out if it is not obstructed after all the others. -/
theorem carried_concat_length_iff :
    Carried field (movements ++ [movement]) movements.length id hex ↔
      movement = (id, hex) ∧ Unobstructed (form field movements).field movement := by
  have sent : (movements ++ [movement])[movements.length]? = some movement :=
    List.getElem?_concat_length
  have before : (movements ++ [movement]).take movements.length = movements :=
    List.take_left
  constructor
  · rintro ⟨there, clear⟩
    cases sent.symm.trans there
    exact ⟨rfl, before ▸ clear⟩
  · rintro ⟨rfl, clear⟩
    exact ⟨sent, before.symm ▸ clear⟩

/-- Where a movement leads that is carried out, the unit stands until it moves again. -/
theorem stationed_of_last (clear : Unobstructed (form field movements).field (id, target)) :
    Stationed field (movements ++ [(id, target)]) id home target := by
  refine Or.inl ⟨movements.length, carried_concat_length_iff.mpr ⟨rfl, clear⟩, ?_⟩
  intro later hex after carried
  exact absurd carried.le_length (Nat.not_le.mpr after)

/-- A movement that is not carried out, or is another unit's, leaves a unit where it stands. -/
theorem Stationed.concat (stationed : Stationed field movements id home hex)
    (idle : ∀ target, movement = (id, target) →
      ¬ Unobstructed (form field movements).field movement) :
    Stationed field (movements ++ [movement]) id home hex := by
  have same : ∀ {turn target}, Carried field (movements ++ [movement]) turn id target ↔
      Carried field movements turn id target := by
    intro turn target
    rcases Nat.lt_or_ge turn movements.length with earlier | last
    · exact carried_concat_of_lt earlier
    · constructor
      · intro carried
        obtain rfl := Nat.le_antisymm carried.le_length last
        rcases carried_concat_length_iff.mp carried with ⟨sent, clear⟩
        exact absurd clear (idle target sent)
      · intro carried
        exact absurd carried.lt_length (Nat.not_lt.mpr last)
  simp only [Stationed, same]
  exact stationed

/-- Every unit of the field is one of the formation, and stands where its movements have led it. -/
theorem exists_stationed (consistent : field.roster.Consistent)
    (alive : field.roster.get? id = some unit) (movements : List (UnitId × Hex)) :
    ∃ hex, (form field movements).field.roster.get? id = some { unit with hex } ∧
      Stationed field movements id unit.hex hex := by
  induction movements using List.reverseRecOn with
  | nil => exact ⟨unit.hex, alive, Or.inr ⟨rfl, fun turn target carried => by cases carried.sent⟩⟩
  | append_singleton movements movement ih =>
      rcases ih with ⟨hex, stands, stationed⟩
      have intact := (restores_form consistent movements).consistent
      rw [form_concat]
      by_cases clear : Unobstructed (form field movements).field movement
      · by_cases own : movement.1 = id
        · rcases movement with ⟨mover, target⟩
          cases own
          have moved := get?_advance_of_unobstructed intact stands clear
          exact ⟨target, moved, stationed_of_last clear⟩
        · refine ⟨hex, (get?_advance_of_ne _ own).trans stands, stationed.concat ?_⟩
          rintro target rfl
          exact absurd rfl own
      · rw [advance_of_obstructed intact clear]
        exact ⟨hex, stands, stationed.concat fun _ _ => clear⟩

theorem get?_form_of_dead (dead : field.roster.get? id = none)
    (movements : List (UnitId × Hex)) :
    (form field movements).field.roster.get? id = none := by
  induction movements using List.reverseRecOn with
  | nil => exact dead
  | append_singleton movements movement ih =>
      rw [form_concat]
      rcases advance_cases (form field movements) movement with
        same | ⟨mover, after, -, moved, advanced⟩
      · rw [same]
        exact ih
      · rcases Battlefield.relocate_eq_ok_iff.mp moved with ⟨roster, relocated, rfl⟩
        rw [advanced]
        simp only [Roster.get?_relocate relocated, ih, Option.map_none, ite_self]

/-- A formation on a consistent roster has its units where their movements have led them, and leaves
no trace.

While it lasts, its roster is consistent and has the units of the field, which are as they were but
for their hexes: each stands where the last of its movements that was carried out led it, and in its
old place if none was.  Nothing else of the field is different.  When it is disbanded, no unit finds
its way back barred, and the field is the same as before, its roster and index included. -/
theorem form_then_disband (consistent : field.roster.Consistent)
    (movements : List (UnitId × Hex)) :
    let formation := form field movements
    (formation.field.roster.Consistent ∧
        formation.field = { field with roster := formation.field.roster } ∧
        (∀ id, field.roster.get? id = none → formation.field.roster.get? id = none) ∧
        ∀ id unit, field.roster.get? id = some unit →
          ∃ hex, formation.field.roster.get? id = some { unit with hex } ∧
            Stationed field movements id unit.hex hex) ∧
      formation.retreat = .ok field ∧ formation.disband = field := by
  intro formation
  have strays : formation.Strays (fun _ _ => True) field :=
    strays_form (Battlefield.Strays.refl _ field) fun _ _ _ _ => Or.inr trivial
  refine ⟨⟨(restores_form consistent movements).consistent, strays.field.frame, ?_, ?_⟩,
    retreat_form consistent movements, disband_form consistent movements⟩
  · exact fun id dead => get?_form_of_dead dead movements
  · exact fun id unit alive => exists_stationed consistent alive movements

/-- Two units change places by way of a hex off the board.  The first movement is obstructed, and
the last one leads to where its unit stands by then. -/
def trade : List (UnitId × Hex) :=
  [(⟨0⟩, ⟨1, 0⟩), (⟨1⟩, ⟨5, 5⟩), (⟨0⟩, ⟨1, 0⟩), (⟨1⟩, ⟨0, 0⟩), (⟨0⟩, ⟨1, 0⟩)]

theorem form_then_disband_skirmish :
    Battlefield.skirmish.roster.Consistent ∧
      (form .skirmish trade).field.roster.Consistent ∧
      (form .skirmish trade).field.roster.get? ⟨0⟩ = some { Combatant.raider with hex := ⟨1, 0⟩ } ∧
      Stationed .skirmish trade ⟨0⟩ ⟨0, 0⟩ ⟨1, 0⟩ ∧
      (form .skirmish trade).field.roster.get? ⟨1⟩ = some { Combatant.guard with hex := ⟨0, 0⟩ } ∧
      Stationed .skirmish trade ⟨1⟩ ⟨1, 0⟩ ⟨0, 0⟩ ∧
      (form .skirmish trade).retreat = .ok .skirmish ∧
      (form .skirmish trade).disband = .skirmish := by
  have consistent := Battlefield.consistent_skirmish
  rcases form_then_disband consistent trade with ⟨⟨intact, -, -, stand⟩, back⟩
  rcases stand ⟨0⟩ .raider rfl with ⟨hex, raider, stationed⟩
  rcases stand ⟨1⟩ .guard rfl with ⟨hex', guard, stationed'⟩
  have hexes : ((form .skirmish trade).field.roster.get? ⟨0⟩).map Combatant.hex = some ⟨1, 0⟩ ∧
      ((form .skirmish trade).field.roster.get? ⟨1⟩).map Combatant.hex = some ⟨0, 0⟩ := by
    decide +kernel
  rw [raider, guard] at hexes
  rcases hexes with ⟨here, there⟩
  cases here
  cases there
  exact ⟨consistent, intact, raider, stationed, guard, stationed', back⟩

end Formation
end Hexfield
