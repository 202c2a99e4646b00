import Hexfield.Battlefield
import Hexfield.Proofs.Roster.Consistency

namespace Hexfield

/-!
What a contest between two units may do to a field.

The two combatants may be hurt, healed, afflicted and taught, and either of them may leave the
field.  One unit may be placed in addition.  Everything else stays: the board, the teams, the hour
and the rules, and every other unit.  The statements are about single operations on a field, whoever
carries them out and in whatever order.

A unit that heals stays alive as long as the sum of its hitpoints and of what it heals fits into the
word; it stays within its maximum in any case.  So what is said of a unit's health has two parts,
and one of them may depend on a condition.
-/

namespace Combatant

/-- A unit is the same as before, but for its hitpoints, its experience and its status. -/
def SameUnit (before after : Combatant) : Prop :=
  after =
    { before with
      hitpoints := after.hitpoints
      experience := after.experience
      status := after.status }

namespace SameUnit

theorem refl (unit : Combatant) : unit.SameUnit unit :=
  rfl

theorem trans {first second third : Combatant} (left : first.SameUnit second)
    (right : second.SameUnit third) : first.SameUnit third := by
  unfold SameUnit at *
  rw [right, left]

theorem hex {before after : Combatant} (same : before.SameUnit after) :
    after.hex = before.hex := by
  rw [same]

theorem takeDamage (unit : Combatant) (amount : Nat) : unit.SameUnit (unit.takeDamage amount) :=
  rfl

theorem heal (unit : Combatant) (amount : Nat) : unit.SameUnit (unit.heal amount) :=
  rfl

theorem gainExperience (unit : Combatant) (amount : Nat) :
    unit.SameUnit (unit.gainExperience amount) :=
  rfl

end SameUnit

/-- A live unit has a hitpoint at least, and not more of them than its maximum. -/
def Healthy (unit : Combatant) : Prop :=
  1 ≤ unit.hitpoints ∧ unit.hitpoints ≤ unit.maxHitpoints

instance (unit : Combatant) : Decidable unit.Healthy :=
  inferInstanceAs (Decidable (_ ∧ _))

/-- Whatever hitpoints a unit has within its maximum, and however much of a foe's it drains, it
stays healthy: this is so exactly if its maximum and half of the foe's fit into a word together. -/
theorem healthy_heal_iff {most foe : Nat} (positive : 1 ≤ most) :
    (∀ unit : Combatant, unit.maxHitpoints = most → unit.Healthy → ∀ damage ≤ foe,
        (unit.heal (damage / 2)).Healthy) ↔ most + foe / 2 < UInt32.size := by
  constructor
  · intro keeps
    refine Nat.lt_of_not_le fun wide => ?_
    -- The sum of these hitpoints and of half of that damage is the size of the word.
    let unit : Combatant :=
      { ofType "" ⟨1⟩ ⟨0, 0⟩ most with hitpoints := min most UInt32.size }
    have healthy : unit.Healthy := by
      simp only [Healthy, unit, ofType, UInt32.size]
      omega
    have healed := keeps unit rfl healthy (2 * (UInt32.size - most)) (by omega)
    have sum : min most UInt32.size + 2 * (UInt32.size - most) / 2 = UInt32.size := by omega
    simp only [Healthy, heal, unit, ofType, sum, low32, Nat.mod_self, Nat.zero_min] at healed
    omega
  · rintro fits unit rfl ⟨alive, within⟩ damage bounded
    simp only [Healthy, heal]
    rw [low32_of_lt (by omega)]
    omega

/-- A unit has not more hitpoints than its maximum; if it is spared, it has one at least. -/
def Sound (spared : Prop) (unit : Combatant) : Prop :=
  unit.hitpoints ≤ unit.maxHitpoints ∧ (spared → 1 ≤ unit.hitpoints)

theorem Healthy.sound {unit : Combatant} (healthy : unit.Healthy) (spared : Prop) :
    unit.Sound spared :=
  ⟨healthy.2, fun _ => healthy.1⟩

theorem Sound.heal {spared : Prop} {unit : Combatant} (sound : unit.Sound spared)
    {damage foe : Nat} (bounded : damage ≤ foe)
    (fits : spared → unit.maxHitpoints + foe / 2 < UInt32.size) :
    (unit.heal (damage / 2)).Sound spared := by
  rcases sound with ⟨within, alive⟩
  refine ⟨Nat.min_le_right _ _, fun spared => ?_⟩
  have positive := Nat.le_trans (alive spared) within
  exact ((healthy_heal_iff positive).mpr (fits spared) unit rfl ⟨alive spared, within⟩ damage
    bounded).1

end Combatant

namespace Battlefield

/-- If a number stands for a live unit, then this is sound. -/
def SoundAt (field : Battlefield) (spared : Prop) (id : UnitId) : Prop :=
  ∀ unit, field.roster.get? id = some unit → unit.Sound spared

/-- A contest has changed the field, and the unit that was placed in the course of it, if there is
one, has the number after all those that were given before. -/
structure Contest (before : Battlefield) (attacker defender : UnitId) (spawned : Option UnitId)
    (after : Battlefield) : Prop where
  consistent : after.roster.Consistent
  /-- Only the units have changed. -/
  frame : after = { before with roster := after.roster }
  slots : after.roster.slots.size = before.roster.slots.size + spawned.toList.length
  combatants : ∀ (id : UnitId) (unit : Combatant), id = attacker ∨ id = defender →
    after.roster.get? id = some unit →
    ∃ unit', before.roster.get? id = some unit' ∧ unit'.SameUnit unit
  others : ∀ id, id ≠ attacker → id ≠ defender → spawned ≠ some id →
    after.roster.get? id = before.roster.get? id
  fresh : ∀ id, spawned = some id → id.val = before.roster.slots.size

variable {before field after : Battlefield} {attacker defender id : UnitId}
  {spawned : Option UnitId}

namespace Contest

theorem refl (consistent : field.roster.Consistent) (attacker defender : UnitId) :
    field.Contest attacker defender none field := by
  refine ⟨consistent, rfl, rfl, ?_, fun _ _ _ _ => rfl, ?_⟩
  · exact fun id unit _ alive => ⟨unit, alive, .refl unit⟩
  · intro id impossible
    cases impossible

theorem update (contest : before.Contest attacker defender spawned field)
    (combatant : id = attacker ∨ id = defender) {change : Combatant → Combatant}
    (same : ∀ unit : Combatant, unit.SameUnit (change unit)) :
    before.Contest attacker defender spawned (field.update id change) := by
  refine ⟨contest.consistent.update id fun unit => (same unit).hex, ?_, ?_, ?_, ?_, contest.fresh⟩
  · rw [contest.frame]
    rfl
  · exact (Roster.size_slots_update ..).trans contest.slots
  · intro other unit role alive
    change (field.roster.update id change).get? other = some unit at alive
    rw [Roster.get?_update] at alive
    split at alive
    · rcases Option.map_eq_some_iff.mp alive with ⟨unchanged, present, rfl⟩
      rcases contest.combatants other unchanged role present with ⟨first, found, remains⟩
      exact ⟨first, found, remains.trans (same unchanged)⟩
    · exact contest.combatants other unit role alive
  · intro other notAttacker notDefender old
    have different : id ≠ other := by
      rintro rfl
      exact combatant.elim notAttacker notDefender
    exact (Roster.get?_update_of_ne _ different change).trans
      (contest.others other notAttacker notDefender old)

theorem erase (contest : before.Contest attacker defender spawned field)
    (combatant : id = attacker ∨ id = defender) :
    before.Contest attacker defender spawned (field.erase id) := by
  refine ⟨contest.consistent.erase id, ?_, ?_, ?_, ?_, contest.fresh⟩
  · rw [contest.frame]
    rfl
  · exact (Roster.size_slots_erase ..).trans contest.slots
  · intro other unit role alive
    change (field.roster.erase id).get? other = some unit at alive
    rw [Roster.get?_erase] at alive
    split at alive
    · cases alive
    · exact contest.combatants other unit role alive
  · intro other notAttacker notDefender old
    have different : id ≠ other := by
      rintro rfl
      exact combatant.elim notAttacker notDefender
    change (field.roster.erase id).get? other = _
    rw [Roster.get?_erase, if_neg different]
    exact contest.others other notAttacker notDefender old

/-- A further unit is placed on a field that has room for it. -/
theorem addUnit (contest : before.Contest attacker defender none field)
    (room : before.roster.slots.size < UInt32.size)
    (attackerSlot : attacker.val < before.roster.slots.size)
    (defenderSlot : defender.val < before.roster.slots.size) {unit : Combatant}
    (placed : field.addUnit unit = .ok (id, after)) :
    before.Contest attacker defender (some id) after := by
  rcases addUnit_eq_ok placed with ⟨roster, inserted, rfl⟩
  have slots : field.roster.slots.size = before.roster.slots.size := contest.slots
  rw [← slots] at room
  rcases Roster.insert_eq_ok_of_room room inserted with ⟨number, units⟩
  refine ⟨contest.consistent.insert room inserted, ?_, ?_, ?_, ?_, ?_⟩
  · rw [contest.frame]
  · rw [Roster.size_slots_insert inserted, slots]
    rfl
  · intro other unit' role alive
    have different : id ≠ other := by
      rintro rfl
      rcases role with rfl | rfl
      · omega
      · omega
    rw [units, if_neg different] at alive
    exact contest.combatants other unit' role alive
  · intro other notAttacker notDefender old
    have different : id ≠ other := fun same => old (congrArg some same)
    rw [units, if_neg different]
    exact contest.others other notAttacker notDefender (fun impossible => by cases impossible)
  · rintro other same
    cases same
    exact number.trans slots

end Contest

/-! ## Health -/

variable {spared : Prop}

theorem SoundAt.update (sound : field.SoundAt spared id) {other : UnitId}
    {change : Combatant → Combatant}
    (keeps : id = other → ∀ unit, field.roster.get? id = some unit → unit.Sound spared →
      (change unit).Sound spared) :
    (field.update other change).SoundAt spared id := by
  intro unit alive
  change (field.roster.update other change).get? id = some unit at alive
  rw [Roster.get?_update] at alive
  split at alive
  · rename_i same
    rcases Option.map_eq_some_iff.mp alive with ⟨unchanged, present, rfl⟩
    exact keeps same.symm unchanged present (sound unchanged present)
  · exact sound unit alive

/-- Nothing is asked of the health of a unit that leaves the field. -/
theorem soundAt_erase {victim : UnitId} (sound : id ≠ victim → field.SoundAt spared id) :
    (field.erase victim).SoundAt spared id := by
  intro unit alive
  change (field.roster.erase victim).get? id = some unit at alive
  rw [Roster.get?_erase] at alive
  split at alive
  · cases alive
  · rename_i different
    exact sound (Ne.symm different) unit alive

theorem SoundAt.addUnit (sound : field.SoundAt spared id) {unit : Combatant} {placed : UnitId}
    (healthy : unit.Healthy) (added : field.addUnit unit = .ok (placed, after)) :
    after.SoundAt spared id := by
  rcases addUnit_eq_ok added with ⟨roster, inserted, rfl⟩
  intro other alive
  rw [(Roster.insert_eq_ok inserted).2] at alive
  split at alive
  · cases alive
    exact healthy.sound spared
  · exact sound other alive

/-! ## Drains -/

/-- A unit that can drain finds room in its word for half of its foe's hitpoints, even if both have
all they can have. -/
def DrainFits (field : Battlefield) (id foe : UnitId) : Prop :=
  ∀ unit target, field.roster.get? id = some unit → field.roster.get? foe = some target →
    unit.wields .drain = true → unit.maxHitpoints + target.maxHitpoints / 2 < UInt32.size

/-- A contest between two units is no danger to a unit but by blows. -/
def Spares (field : Battlefield) (attacker defender id : UnitId) : Prop :=
  (id = attacker → field.DrainFits attacker defender) ∧
    (id = defender → field.DrainFits defender attacker)

/-- In the course of a contest the combatants can drain no more than at its start. -/
theorem Contest.drainFits (contest : before.Contest attacker defender spawned field)
    {foe : UnitId} (combatant : id = attacker ∨ id = defender)
    (opponent : foe = attacker ∨ foe = defender) (fits : before.DrainFits id foe) :
    field.DrainFits id foe := by
  intro unit target alive targetAlive drains
  rcases contest.combatants id unit combatant alive with ⟨first, found, same⟩
  rcases contest.combatants foe target opponent targetAlive with ⟨other, found', same'⟩
  rw [same] at drains ⊢
  rw [same']
  exact fits first other found found' drains

end Battlefield
end Hexfield
