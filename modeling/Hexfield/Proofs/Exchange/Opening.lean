import Hexfield.Proofs.Exchange.Effects
import Hexfield.Proofs.Exchange.Turns
import Hexfield.Proofs.Matchup.Pairing
import Hexfield.Proofs.Roster.Consistency

namespace Hexfield

/-!
How an exchange begins, as long as the observer leaves the field alone.

An exchange begins exactly when both combatants are on the field and the attacker's weapon has a
strike.  It then stands at the start of its schedule, and nothing on the field has changed but that
both combatants no longer rest.
-/

/-- An exchange before its first swing. -/
def Pairing.opening (pairing : Pairing) (matchup : Matchup) (attacker defender : UnitId) :
    Exchange :=
  { attacker, defender
    weapon := pairing.weaponIndex
    hexes := [pairing.attacker.hex, pairing.defender.hex]
    attackerBudget := matchup.attacker.strikes
    defenderBudget := matchup.defender.strikes
    attackerSwings := matchup.attacker.strikes
    defenderSwings := matchup.defender.strikes
    rounds := max matchup.rounds 1
    preempted := matchup.defenderStrikesFirst
    turn := .attacker
    swings := #[]
    desyncs := 0
    spawned := none
    ending := none }

theorem Pairing.upcoming_opening (pairing : Pairing) (matchup : Matchup)
    (attacker defender : UnitId) :
    (pairing.opening matchup attacker defender).upcoming = matchup.schedule :=
  rfl

theorem Pairing.orderly_opening (pairing : Pairing) (matchup : Matchup)
    (attacker defender : UnitId) : (pairing.opening matchup attacker defender).Orderly :=
  ⟨fun _ => ⟨rfl, rfl, rfl⟩, Nat.le_refl _⟩

def Combatant.roused (unit : Combatant) : Combatant :=
  { unit with status := { unit.status with resting := false } }

def Battlefield.rouse (field : Battlefield) (attacker defender : UnitId) : Battlefield :=
  (field.update attacker Combatant.roused).update defender Combatant.roused

theorem Battlefield.keeps_rouse {β : Type} (trait : Combatant → β)
    (restless : ∀ unit, trait unit.roused = trait unit) (field : Battlefield)
    (attacker defender : UnitId) : field.Keeps trait (field.rouse attacker defender) :=
  (keeps_update trait restless field attacker).trans (keeps_update trait restless _ defender)

/-- A fight goes on if the observer has left both combatants on the field. -/
def Fight.unlessRemoved {ρ σ : Type} (observer : Observer σ) (fight : Fight ρ σ) : Fight ρ σ :=
  if fight.exchange.bothPresent fight.field then fight else fight.finish observer .interrupted

namespace Scene

variable {ρ σ : Type} {observer : Observer σ} {scene : Scene ρ σ} {attacker defender : UnitId}
  {weapon : Nat}

theorem pairing_of_begin {fight : Fight ρ σ}
    (begun : scene.begin observer attacker defender weapon = .ok fight) :
    ∃ pairing, scene.field.pairing attacker defender weapon = .ok pairing ∧
      pairing.weapon.strikes ≠ 0 := by
  unfold Scene.begin at begun
  simp only [bind, Except.bind] at begun
  split at begun
  · cases begun
  · rename_i attackerUnit foundAttacker
    split at begun
    · cases begun
    · rename_i chosen foundWeapon
      split at begun
      · cases begun
      · rename_i armed
        split at begun
        · cases begun
        · rename_i pairing paired
          refine ⟨pairing, paired, ?_⟩
          rcases Battlefield.pairing_eq_ok_iff.mp paired with
            ⟨attackerUnit', defenderUnit, chosen', foundAttacker', -, foundWeapon', rfl⟩
          have sameUnit := (Battlefield.unit_eq_ok_iff.mp foundAttacker).symm.trans foundAttacker'
          cases sameUnit
          have sameWeapon :=
            (Combatant.weapon_eq_ok_iff.mp foundWeapon).symm.trans foundWeapon'
          cases sameWeapon
          exact armed

/-- The fight right after the announcement of the attack, whatever the observer has made of it. -/
def announced (observer : Observer σ) (pairing : Pairing) (attacker defender : UnitId)
    (scene : Scene ρ σ) : Fight ρ σ :=
  Fight.announce observer (.attack attacker defender pairing.weaponIndex)
    { scene with
      field := scene.field.rouse attacker defender
      exchange := pairing.opening (pairing.matchup scene.field) attacker defender }

/-- The observer has no part in whether an exchange begins, and breaks it off at once if it removes
a combatant. -/
theorem begin_eq (observer : Observer σ) (scene : Scene ρ σ) (attacker defender : UnitId)
    (weapon : Nat) :
    scene.begin observer attacker defender weapon = (do
      let attackerUnit ← scene.field.unit attacker
      let chosen ← attackerUnit.weapon weapon
      if chosen.strikes = 0 then throw (.cannotInitiate attacker)
      let pairing ← scene.field.pairing attacker defender weapon
      pure ((scene.announced observer pairing attacker defender).unlessRemoved observer)) := by
  unfold Scene.begin
  simp only [bind, Except.bind]
  cases scene.field.unit attacker with
  | error fault => rfl
  | ok attackerUnit =>
      simp only
      cases attackerUnit.weapon weapon with
      | error fault => rfl
      | ok chosen =>
          simp only
          split
          · rfl
          · cases paired : scene.field.pairing attacker defender weapon with
            | error fault => rfl
            | ok pairing =>
                cases Battlefield.weaponIndex_of_pairing paired
                exact (apply_ite Except.ok _ _ _).symm

theorem begin_eq_of_pairing (observer : Observer σ) {pairing : Pairing}
    (paired : scene.field.pairing attacker defender weapon = .ok pairing)
    (armed : pairing.weapon.strikes ≠ 0) :
    scene.begin observer attacker defender weapon =
      .ok ((scene.announced observer pairing attacker defender).unlessRemoved observer) := by
  rcases Battlefield.pairing_eq_ok_iff.mp paired with
    ⟨attackerUnit, defenderUnit, chosen, foundAttacker, -, foundWeapon, rfl⟩
  rw [begin_eq, Battlefield.unit_eq_ok_iff.mpr foundAttacker]
  simp only [bind, Except.bind]
  rw [Combatant.weapon_eq_ok_iff.mpr foundWeapon, paired]
  exact if_neg armed

/-- If the observer leaves the field alone, no combatant is missing when an exchange begins. -/
theorem begin_eq_announced (leaves : observer.LeavesField) {pairing : Pairing}
    (paired : scene.field.pairing attacker defender weapon = .ok pairing)
    (armed : pairing.weapon.strikes ≠ 0) :
    scene.begin observer attacker defender weapon =
      .ok (scene.announced observer pairing attacker defender) := by
  rcases Battlefield.units_of_pairing paired with ⟨foundAttacker, foundDefender⟩
  have field : (scene.announced observer pairing attacker defender).field =
      scene.field.rouse attacker defender :=
    leaves _ _ _
  have present : (scene.announced observer pairing attacker defender).exchange.bothPresent
      (scene.announced observer pairing attacker defender).field = true := by
    have keeps := scene.field.keeps_rouse (fun _ => ()) (fun _ => rfl) attacker defender
    rcases keeps.get? foundAttacker with ⟨attackerAfter, aliveAttacker, -⟩
    rcases keeps.get? foundDefender with ⟨defenderAfter, aliveDefender, -⟩
    rw [field]
    change (((scene.field.rouse attacker defender).roster.get? attacker).isSome &&
      ((scene.field.rouse attacker defender).roster.get? defender).isSome) = true
    rw [aliveAttacker, aliveDefender]
    rfl
  rw [begin_eq_of_pairing observer paired armed, Fight.unlessRemoved, if_pos present]

/-- If the observer leaves the field alone, an exchange that begins can go on. -/
theorem begin_of_pairing (leaves : observer.LeavesField) {pairing : Pairing}
    (paired : scene.field.pairing attacker defender weapon = .ok pairing)
    (armed : pairing.weapon.strikes ≠ 0) :
    ∃ fight, scene.begin observer attacker defender weapon = .ok fight ∧
      fight.field = scene.field.rouse attacker defender ∧ fight.rolls = scene.rolls ∧
      fight.exchange = pairing.opening (pairing.matchup scene.field) attacker defender :=
  ⟨_, begin_eq_announced leaves paired armed, leaves _ _ _, rfl, rfl⟩

/-- How an exchange stands that has begun. -/
theorem opened_of_begin (leaves : observer.LeavesField) {fight : Fight ρ σ}
    (begun : scene.begin observer attacker defender weapon = .ok fight) :
    ∃ pairing, scene.field.pairing attacker defender weapon = .ok pairing ∧
      pairing.weapon.strikes ≠ 0 ∧ fight.field = scene.field.rouse attacker defender ∧
      fight.rolls = scene.rolls ∧
      fight.exchange = pairing.opening (pairing.matchup scene.field) attacker defender := by
  rcases pairing_of_begin begun with ⟨pairing, paired, armed⟩
  rcases begin_of_pairing leaves paired armed with ⟨start, started, field, drawn, opened⟩
  cases begun.symm.trans started
  exact ⟨pairing, paired, armed, field, drawn, opened⟩

end Scene

/-! ## A skirmish -/

/-- A sword swung in a frenzy, which takes life from those it hits. -/
def Weapon.bloodSword : Weapon :=
  { sword with specials := [.berserk, .drain] }

def Combatant.raider : Combatant :=
  (ofType "Raider" ⟨1⟩ ⟨0, 0⟩ 34).withWeapon .bloodSword

def Combatant.guard : Combatant :=
  (ofType "Guard" ⟨2⟩ ⟨1, 0⟩ 42).withWeapon .spear

/-- A field on which a raider stands beside a guard, whose spear strikes first. -/
def Battlefield.skirmish : Battlefield :=
  { board := .flat 2 1
    roster :=
      { slots := #[some .raider, some .guard]
        index := ((∅ : Std.ExtTreeMap Hex UnitId).insert ⟨0, 0⟩ ⟨0⟩).insert ⟨1, 0⟩ ⟨1⟩ }
    teams := .twoSides
    time := .dusk
    rules := {} }

theorem Battlefield.consistent_skirmish : skirmish.roster.Consistent := by
  have raider : Roster.empty.insert .raider =
      .ok (⟨0⟩, { slots := #[some .raider], index := Roster.empty.index.insert ⟨0, 0⟩ ⟨0⟩ }) :=
    rfl
  have guard : Roster.insert
      { slots := #[some .raider], index := Roster.empty.index.insert ⟨0, 0⟩ ⟨0⟩ } .guard =
        .ok (⟨1⟩, skirmish.roster) :=
    rfl
  exact (Roster.consistent_empty.insert (by decide) raider).insert (by decide) guard

theorem Battlefield.pairing_skirmish :
    skirmish.pairing ⟨0⟩ ⟨1⟩ 0 = .ok (skirmish.pair .raider .guard 0 .bloodSword) :=
  pairing_eq_ok_iff.mpr ⟨.raider, .guard, .bloodSword, rfl, rfl, rfl, rfl⟩

theorem Scene.begin_skirmish {ρ σ : Type} {observer : Observer σ}
    (leaves : observer.LeavesField) (rolls : ρ) (memory : σ) :
    ∃ fight, Scene.begin observer ⟨0⟩ ⟨1⟩ 0 ⟨.skirmish, rolls, memory⟩ = .ok fight := by
  have paired : (Scene.mk .skirmish rolls memory).field.pairing ⟨0⟩ ⟨1⟩ 0 = .ok _ :=
    Battlefield.pairing_skirmish
  rcases begin_of_pairing leaves paired (by decide) with ⟨fight, begun, -⟩
  exact ⟨fight, begun⟩

/-! ## A leech -/

def Weapon.leechBite : Weapon :=
  { club with name := "bite", damage := 2, strikes := 1, specials := [.drain] }

/-- A leech with all the hitpoints that a word can hold. -/
def Combatant.leech : Combatant :=
  (ofType "Leech" ⟨1⟩ ⟨0, 0⟩ 4294967295).withWeapon .leechBite

def Combatant.wader : Combatant :=
  ofType "Wader" ⟨2⟩ ⟨1, 0⟩ 10

def Battlefield.swamp : Battlefield :=
  { skirmish with roster := { skirmish.roster with slots := #[some .leech, some .wader] } }

theorem Battlefield.consistent_swamp : swamp.roster.Consistent := by
  have leech := Roster.consistent_empty.insert (by decide)
    (rfl : Roster.empty.insert .leech = .ok (⟨0⟩, _))
  exact leech.insert (by decide) (rfl : Roster.insert _ .wader = .ok (⟨1⟩, swamp.roster))

end Hexfield
