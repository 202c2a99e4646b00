import Hexfield.Proofs.Exchange.Quiet

namespace Hexfield

/-!
Units of stone in an exchange.

A petrified defender finds no weapon to answer with, so it is given no strikes, and whoever turns to
stone in an exchange ends it.  Nothing asks the attacker whether it is petrified when an exchange
begins, and then it strikes like any other: this is the only way in which a petrified unit comes to
strike.
-/

theorem Battlefield.active_of_counter {field : Battlefield} {attacker defender : UnitId}
    {weapon : Nat} {pairing : Pairing}
    (paired : field.pairing attacker defender weapon = .ok pairing)
    (counters : pairing.counter.isSome = true) : pairing.defender.status.petrified = false := by
  rcases pairing_eq_ok_iff.mp paired with ⟨attackerUnit, defenderUnit, chosen, -, -, -, rfl⟩
  rw [isSome_counter_pair] at counters
  exact Bool.not_eq_true' _ ▸ (Bool.and_eq_true_iff.mp counters).1

namespace Fight

variable {ρ σ : Type} {fight : Fight ρ σ}

theorem Ready.active_defender (ready : fight.Ready) {rest : List Bool}
    (upcoming : fight.exchange.upcoming = Role.defender.mark :: rest) :
    ∃ unit, fight.field.roster.get? fight.exchange.defender = some unit ∧
      unit.status.petrified = false := by
  rcases ready.answers with ⟨pairing, paired, counters⟩
  have strikes := Exchange.defenderBudget_pos ready.going ready.orderly upcoming
  exact ⟨pairing.defender, (Battlefield.units_of_pairing paired).2,
    Battlefield.active_of_counter paired (counters strikes)⟩

end Fight

namespace Scene

variable {ρ σ : Type} {observer : Observer σ} {scene : Scene ρ σ} {attacker defender : UnitId}
  {weapon : Nat} {fight : Fight ρ σ}

/-- Whichever swing an exchange makes, after any number of steps and with any given records, the
unit that strikes is petrified at that moment if and only if it is the attacker and was petrified
when the exchange began. -/
theorem striker_petrified_iff [RollSource ρ] (leaves : observer.LeavesField) (catalog : Catalog)
    (begun : scene.begin observer attacker defender weapon = .ok fight)
    (earlier : List (Option SwingRecord)) (given : Option SwingRecord) :
    let now := fight.steps observer catalog earlier
    ∀ record after, now.step observer catalog given = (.ok (some record), after) →
      ∃ role striker attackerUnit,
        after.exchange.swings = now.exchange.swings.push { striker := role, record } ∧
          now.field.roster.get? (now.exchange.unitOf role) = some striker ∧
          scene.field.roster.get? attacker = some attackerUnit ∧
          (striker.status.petrified = true ↔
            role = .attacker ∧ attackerUnit.status.petrified = true) := by
  intro now record after stepped
  rcases ready_of_begin leaves begun with ⟨-, -, ready, -⟩
  rcases (ready.goesOn_steps observer catalog earlier).of_step stepped with
    ⟨nowReady, quiet, mark, rest, upcoming⟩
  rcases exists_continues leaves begun quiet with ⟨found, continues⟩
  have attackerAlive := (Battlefield.units_of_pairing continues.paired).1
  rcases nowReady.step_order catalog leaves upcoming given with
    ⟨swing, after', stepped', marked, booked, -⟩
  rw [stepped'] at stepped
  cases stepped
  refine ⟨swing.striker, ?_⟩
  cases role : swing.striker with
  | attacker =>
      rcases continues.alive .attacker with ⟨striker, alive, same⟩
      have stone : striker.status.petrified = found.attacker.status.petrified :=
        (congrArg (fun unit => unit.status.petrified) same :)
      refine ⟨striker, found.attacker, ?_, alive, attackerAlive, ?_⟩
      · rw [booked, ← role]
      · rw [stone]
        exact (and_iff_right rfl).symm
  | defender =>
      rw [← marked, role] at upcoming
      rcases nowReady.active_defender upcoming with ⟨striker, alive, active⟩
      refine ⟨striker, found.attacker, ?_, alive, attackerAlive, ?_⟩
      · rw [booked, ← role]
      · rw [active]
        simp

/-- The guard is not petrified when it makes the first swing of the raider's attack. -/
theorem striker_petrified_iff_skirmish :
    ∃ (fight : Fight ScriptedDice EventLog) (record : SwingRecord)
      (after : Fight ScriptedDice EventLog) (role : Role) (striker : Combatant),
      Scene.begin .recorder ⟨0⟩ ⟨1⟩ 0
          ⟨.skirmish, ScriptedDice.ofArray #[10, 60, 35], {}⟩ = .ok fight ∧
        fight.step .recorder {} none = (.ok (some record), after) ∧
        after.exchange.swings = fight.exchange.swings.push { striker := role, record } ∧
        fight.field.roster.get? (fight.exchange.unitOf role) = some striker ∧
        striker.status.petrified = false := by
  rcases begin_skirmish Observer.recorder_leavesField (ScriptedDice.ofArray #[10, 60, 35]) {} with
    ⟨fight, begun⟩
  rcases step_of_begin Observer.recorder_leavesField {} begun .defender
    (by decide +kernel) none with ⟨record, after, stepped, -⟩
  rcases striker_petrified_iff Observer.recorder_leavesField {} begun [] none record after stepped
    with ⟨role, striker, raider, swings, alive, raiderAlive, stone⟩
  refine ⟨fight, record, after, role, striker, begun, stepped, swings, alive, ?_⟩
  cases raiderAlive
  exact Bool.eq_false_iff.mpr fun petrified => Bool.false_ne_true (stone.mp petrified).2

end Scene

/-! ## A statue that strikes -/

def Combatant.statue : Combatant :=
  { (ofType "Statue" ⟨1⟩ ⟨0, 0⟩ 34).withWeapon .spear with status := { petrified := true } }

def Battlefield.gallery : Battlefield :=
  { skirmish with
    roster := { skirmish.roster with slots := #[some .statue, some .guard] } }

/-- A statue that is told to attack begins an exchange and makes its first swing. -/
theorem Scene.petrified_statue_strikes :
    ∃ (fight : Fight ScriptedDice EventLog) (record : SwingRecord)
      (after : Fight ScriptedDice EventLog) (striker : Combatant),
      Scene.begin .recorder ⟨0⟩ ⟨1⟩ 0 ⟨.gallery, ScriptedDice.ofArray #[10], {}⟩ = .ok fight ∧
        fight.step .recorder {} none = (.ok (some record), after) ∧
        after.exchange.swings = #[{ striker := .attacker, record }] ∧
        fight.field.roster.get? fight.exchange.attacker = some striker ∧
        striker.status.petrified = true := by
  let scene : Scene ScriptedDice EventLog := ⟨.gallery, ScriptedDice.ofArray #[10], {}⟩
  have paired : scene.field.pairing ⟨0⟩ ⟨1⟩ 0 =
      .ok (Battlefield.gallery.pair .statue .guard 0 .spear) :=
    Battlefield.pairing_eq_ok_iff.mpr ⟨.statue, .guard, .spear, rfl, rfl, rfl, rfl⟩
  rcases Scene.begin_of_pairing Observer.recorder_leavesField paired (by decide) with
    ⟨fight, begun, field, -, opened⟩
  rcases Scene.step_of_begin Observer.recorder_leavesField {} begun .attacker
    (by decide +kernel) none with ⟨record, after, stepped, swings⟩
  refine ⟨fight, record, after, Combatant.statue.roused, begun, stepped, swings, ?_, rfl⟩
  rw [field, opened]
  rfl

end Hexfield
