import Hexfield.Matchup
import Hexfield.Proofs.Battlefield.Traits

namespace Hexfield

/-!
Which pairings exist, and which of them have a counter weapon.

Whether a defender can answer at all depends on its weapons and on whether it is petrified, not on
the ratings by which it chooses among its weapons.
-/

theorem Combatant.weapon_eq_ok_iff {unit : Combatant} {index : Nat} {weapon : Weapon} :
    unit.weapon index = .ok weapon ↔ unit.weapons[index]? = some weapon := by
  unfold Combatant.weapon
  cases unit.weapons[index]? with
  | none => simp
  | some found => simp

namespace Battlefield

theorem unit_eq_ok_iff {field : Battlefield} {id : UnitId} {unit : Combatant} :
    field.unit id = .ok unit ↔ field.roster.get? id = some unit := by
  unfold Battlefield.unit
  cases field.roster.get? id with
  | none => simp
  | some found => simp

/-- Two units are paired exactly when both are on the field and the first has the weapon. -/
theorem pairing_eq_ok_iff {field : Battlefield} {attacker defender : UnitId} {weapon : Nat}
    {found : Pairing} :
    field.pairing attacker defender weapon = .ok found ↔
      ∃ attackerUnit defenderUnit chosen,
        field.roster.get? attacker = some attackerUnit ∧
          field.roster.get? defender = some defenderUnit ∧
          attackerUnit.weapons[weapon]? = some chosen ∧
          found = field.pair attackerUnit defenderUnit weapon chosen := by
  simp only [← unit_eq_ok_iff, ← Combatant.weapon_eq_ok_iff, pairing, bind,
    Except.bind, pure, Except.pure]
  constructor
  · intro paired
    split at paired
    · cases paired
    · split at paired
      · cases paired
      · split at paired
        · cases paired
        · rename_i attackerUnit foundAttacker _ defenderUnit foundDefender _ chosen foundWeapon
          cases paired
          exact ⟨attackerUnit, defenderUnit, chosen, foundAttacker, foundDefender, foundWeapon, rfl⟩
  · rintro ⟨attackerUnit, defenderUnit, chosen, foundAttacker, foundDefender, foundWeapon, rfl⟩
    rw [foundAttacker, foundDefender]
    simp only [foundWeapon]

theorem units_of_pairing {field : Battlefield} {attacker defender : UnitId} {weapon : Nat}
    {found : Pairing} (paired : field.pairing attacker defender weapon = .ok found) :
    field.roster.get? attacker = some found.attacker ∧
      field.roster.get? defender = some found.defender := by
  rcases pairing_eq_ok_iff.mp paired with
    ⟨attackerUnit, defenderUnit, chosen, foundAttacker, foundDefender, -, rfl⟩
  exact ⟨foundAttacker, foundDefender⟩

theorem matchup_of_pairing {field : Battlefield} {attacker defender : UnitId} {weapon : Nat}
    {found : Pairing} (paired : field.pairing attacker defender weapon = .ok found) :
    field.matchup attacker defender weapon = .ok (found.matchup field) := by
  rw [matchup, paired]
  rfl

theorem weaponIndex_of_pairing {field : Battlefield} {attacker defender : UnitId} {weapon : Nat}
    {found : Pairing} (paired : field.pairing attacker defender weapon = .ok found) :
    found.weaponIndex = weapon := by
  rcases pairing_eq_ok_iff.mp paired with ⟨_, _, _, -, -, -, rfl⟩
  rfl

end Battlefield

/-- The indices of the weapons with which a defender may answer, with their ratings. -/
def counters (attacker defender : Combatant) (attacking : Weapon) : List (Nat × Float) :=
  defender.weapons.zipIdx.filterMap fun listed =>
    if canCounter attacking listed.1 then
      some (listed.2, counterRating attacker defender listed.1)
    else none

theorem chooseCounter_eq (attacker defender : Combatant) (attacking : Weapon) :
    chooseCounter attacker defender attacking =
      if defender.incapacitated then none
      else (Choice.best? (counters attacker defender attacking)).map Prod.fst :=
  rfl

theorem mem_counters_iff {attacker defender : Combatant} {attacking : Weapon}
    {counter : Nat × Float} :
    counter ∈ counters attacker defender attacking ↔
      ∃ weapon, defender.weapons[counter.1]? = some weapon ∧ canCounter attacking weapon = true ∧
        counter.2 = counterRating attacker defender weapon := by
  rw [counters, List.mem_filterMap]
  constructor
  · rintro ⟨⟨weapon, index⟩, listed, kept⟩
    by_cases fits : canCounter attacking weapon = true
    · rw [if_pos fits] at kept
      cases kept
      exact ⟨weapon, List.mem_zipIdx_iff_getElem?.mp listed, fits, rfl⟩
    · rw [if_neg fits] at kept
      cases kept
  · rintro ⟨weapon, carried, fits, rating⟩
    refine ⟨(weapon, counter.1), List.mem_zipIdx_iff_getElem?.mpr carried, ?_⟩
    rw [if_pos fits, ← rating]

/-- A chosen counter weapon is a weapon of the defender that may answer. -/
theorem chooseCounter_eq_some {attacker defender : Combatant} {attacking : Weapon} {index : Nat}
    (chosen : chooseCounter attacker defender attacking = some index) :
    defender.incapacitated = false ∧
      ∃ weapon, defender.weapons[index]? = some weapon ∧ canCounter attacking weapon = true := by
  rw [chooseCounter_eq] at chosen
  split at chosen
  · cases chosen
  · rename_i active
    rcases Option.map_eq_some_iff.mp chosen with ⟨candidate, best, rfl⟩
    rcases mem_counters_iff.mp (Choice.mem_of_best?_eq_some best) with ⟨weapon, carried, fits, -⟩
    exact ⟨Bool.eq_false_iff.mpr active, weapon, carried, fits⟩

/-- A defender has an answer exactly when it is active and one of its weapons may answer. -/
theorem isSome_chooseCounter (attacker defender : Combatant) (attacking : Weapon) :
    (chooseCounter attacker defender attacking).isSome =
      (!defender.incapacitated && defender.weapons.any (canCounter attacking)) := by
  apply Bool.eq_iff_iff.mpr
  constructor
  · intro some
    rcases Option.isSome_iff_exists.mp some with ⟨index, chosen⟩
    rcases chooseCounter_eq_some chosen with ⟨active, weapon, carried, fits⟩
    rw [active, Bool.not_false, Bool.true_and]
    exact List.any_eq_true.mpr ⟨weapon, List.mem_of_getElem? carried, fits⟩
  · intro able
    rcases Bool.and_eq_true_iff.mp able with ⟨active, fits⟩
    rcases List.any_eq_true.mp fits with ⟨weapon, member, fits⟩
    rcases List.getElem?_of_mem member with ⟨index, carried⟩
    have inactive : defender.incapacitated = false := by simpa using active
    rw [chooseCounter_eq, inactive, if_neg (by simp), Option.isSome_map,
      Option.isSome_iff_ne_none]
    intro none
    have listed : (index, counterRating attacker defender weapon) ∈
        counters attacker defender attacking :=
      mem_counters_iff.mpr ⟨weapon, carried, fits, rfl⟩
    rw [(Choice.best?_eq_none_iff _).mp none] at listed
    cases listed

theorem Battlefield.isSome_counter_pair (field : Battlefield) (attacker defender : Combatant)
    (index : Nat) (weapon : Weapon) :
    (field.pair attacker defender index weapon).counter.isSome =
      (!defender.incapacitated && defender.weapons.any (canCounter weapon)) := by
  rw [← isSome_chooseCounter attacker]
  simp only [Battlefield.pair]
  cases chosen : chooseCounter attacker defender weapon with
  | none => rfl
  | some answer =>
      rcases chooseCounter_eq_some chosen with ⟨-, counter, carried, -⟩
      rw [Option.bind_some, carried]
      rfl

theorem Battlefield.carried_of_counter {field : Battlefield} {attacker defender : Combatant}
    {index : Nat} {weapon : Weapon} {counter : Nat × Weapon}
    (answers : (field.pair attacker defender index weapon).counter = some counter) :
    defender.weapons[counter.1]? = some counter.2 := by
  rcases Option.bind_eq_some_iff.mp answers with ⟨answer, -, carried⟩
  rcases Option.map_eq_some_iff.mp carried with ⟨found, place, rfl⟩
  exact place

theorem Battlefield.mem_weapons_of_counter {field : Battlefield} {attacker defender : Combatant}
    {index : Nat} {weapon : Weapon} {counter : Nat × Weapon}
    (answers : (field.pair attacker defender index weapon).counter = some counter) :
    counter.2 ∈ defender.weapons :=
  List.mem_of_getElem? (carried_of_counter answers)

theorem Pairing.isSome_weapon_defenderProfile (pairing : Pairing) (field : Battlefield) :
    (pairing.defenderProfile field).weapon.isSome = pairing.counter.isSome := by
  unfold Pairing.defenderProfile
  cases pairing.counter <;> rfl

theorem Pairing.isSome_counter_of_strikes (pairing : Pairing) (field : Battlefield)
    (strikes : 0 < (pairing.matchup field).defender.strikes) : pairing.counter.isSome = true := by
  cases answer : pairing.counter with
  | none =>
      simp only [Pairing.matchup, Pairing.defenderProfile, answer] at strikes
      cases strikes
  | some counter => rfl

end Hexfield
