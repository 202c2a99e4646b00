import Hexfield.Duel
import Hexfield.Proofs.Exchange.Quiet
import Hexfield.Proofs.Scenario.Building

namespace Hexfield

/-!
When the duel of a scenario can be told.

A document names the fighters of its duel by their places in the list of units, and a weapon by its
place among the weapons of the first of them.  The places of the fighters are checked when the
scenario is built; that of the weapon is not.  It is relied on when the duel is told, and so it
alone decides whether there is an account: two units that are on the field, with a weapon that the
first has, fight to the end whatever the rolls are.
-/

namespace Scene

variable {ρ σ : Type} {observer : Observer σ} {scene : Scene ρ σ} {attacker defender : UnitId}
  {weapon : Nat} {pairing : Pairing}

theorem begin_eq_of_strikeless (observer : Observer σ)
    (paired : scene.field.pairing attacker defender weapon = .ok pairing)
    (strikeless : pairing.weapon.strikes = 0) :
    scene.begin observer attacker defender weapon = .error (.cannotInitiate attacker) := by
  rcases Battlefield.pairing_eq_ok_iff.mp paired with
    ⟨attackerUnit, defenderUnit, chosen, foundAttacker, -, foundWeapon, rfl⟩
  rw [begin_eq, Battlefield.unit_eq_ok_iff.mpr foundAttacker]
  simp only [bind, Except.bind]
  rw [Combatant.weapon_eq_ok_iff.mpr foundWeapon]
  exact if_pos strikeless

/-- An attack between paired units is fought to its end, unless the weapon has no strikes. -/
theorem resolve_of_pairing [RollSource ρ] (leaves : observer.LeavesField) (catalog : Catalog)
    (paired : scene.field.pairing attacker defender weapon = .ok pairing)
    (given : List SwingRecord) :
    (∃ report after,
        scene.resolve observer catalog attacker defender weapon given = (.ok report, after)) ∨
      scene.resolve observer catalog attacker defender weapon given =
        (.error (.cannotInitiate attacker), scene) := by
  by_cases strikeless : pairing.weapon.strikes = 0
  · right
    rw [resolve, begin_eq_of_strikeless observer paired strikeless]
  · left
    rcases begin_of_pairing leaves paired strikeless with ⟨fight, begun, -⟩
    rcases ready_of_begin leaves begun with ⟨-, -, ready, -⟩
    rcases ready.run_ends observer catalog given with ⟨records, ending, ran, -⟩
    exact ⟨_, _, resolve_of_run begun ran⟩

end Scene

namespace Duel

variable {ρ : Type} [RollSource ρ] {scenario : Scenario} {attacker defender : UnitId}
  {weapon : Nat} {pairing : Pairing}

/-- A recorded attack between paired units gives no one cause for complaint. -/
theorem exists_recorded (paired : scenario.field.pairing attacker defender weapon = .ok pairing)
    (given : List SwingRecord) (rolls : ρ) :
    ∃ told, recorded scenario attacker defender weapon given rolls = .ok told := by
  have onField : (Scene.mk scenario.field rolls ({} : EventLog)).field.pairing attacker defender
      weapon = .ok pairing :=
    paired
  rcases Scene.resolve_of_pairing Observer.recorder_leavesField scenario.catalog onField given with
    ⟨report, after, resolved⟩ | refused
  · exact ⟨(some report, after), by simp only [recorded, resolved]⟩
  · exact ⟨(none, _), by simp only [recorded, refused]; rfl⟩

theorem exists_fight (paired : scenario.field.pairing attacker defender weapon = .ok pairing)
    (trials : Nat) (rolls followerRolls : ρ) :
    ∃ told, fight scenario attacker defender weapon trials rolls followerRolls = .ok told := by
  rcases exists_recorded paired [] rolls with ⟨⟨fought, lead⟩, led⟩
  simp only [fight, paired, led, bind, Except.bind]
  cases fought with
  | none => exact ⟨_, rfl⟩
  | some report =>
      rcases exists_recorded paired report.records followerRolls with ⟨replayed, followed⟩
      simp only [followed]
      exact ⟨_, rfl⟩

theorem fight_of_unpaired {fault : Fault}
    (unpaired : scenario.field.pairing attacker defender weapon = .error fault) (trials : Nat)
    (rolls followerRolls : ρ) :
    fight scenario attacker defender weapon trials rolls followerRolls = .error fault := by
  simp only [fight, unpaired, bind, Except.bind]

end Duel

namespace Layout

variable {document : Document} {scenario : Scenario} {duel : DuelEntry}

theorem weapons_of_toCombatant {entry : UnitEntry} {unit : Combatant}
    (listed : entry.toCombatant = .ok unit) :
    unit.unitType = entry.unitType ∧ unit.weapons.length = entry.weapons.length := by
  unfold UnitEntry.toCombatant at listed
  split at listed
  · cases listed
  · cases listed
    exact ⟨rfl, List.length_map _⟩

/-- A listed unit is on the field under the number of its place. -/
theorem exists_listed (realizes : scenario.Realizes document) {i : Nat}
    (listed : i < document.units.length) :
    ∃ entry unit, document.units[i]? = some entry ∧ entry.toCombatant = .ok unit ∧
      scenario.field.roster.get? ⟨i⟩ = some unit := by
  have place := realizes.units i
  rw [List.getElem?_eq_getElem listed] at place
  rcases Option.map_eq_some_iff.mp place.symm with ⟨unit, alive, same⟩
  exact ⟨_, unit, List.getElem?_eq_getElem listed, same.symm, alive⟩

/-- The fighters of a scenario's duel can be paired exactly if the first of them has the weapon.
They go by the numbers that their places have, which are the low words of these. -/
theorem pairing_of_build (built : document.build = .ok scenario)
    (named : document.duel = some duel) :
    scenario.duel = some (⟨low32 duel.attacker⟩, ⟨low32 duel.defender⟩, duel.weapon) ∧
      ∃ entry, document.units[low32 duel.attacker]? = some entry ∧
        (duel.weapon < entry.weapons.length →
          ∃ pairing, scenario.field.pairing ⟨low32 duel.attacker⟩ ⟨low32 duel.defender⟩
            duel.weapon = .ok pairing) ∧
        (entry.weapons.length ≤ duel.weapon →
          scenario.field.pairing ⟨low32 duel.attacker⟩ ⟨low32 duel.defender⟩ duel.weapon =
            .error (.noSuchWeapon duel.weapon entry.unitType entry.weapons.length)) := by
  have verdict := verdict_build document
  have realizes := verdict.good_of_ok built
  have wellFormed := Document.objections_eq_nil_iff.mp (verdict.exists_ok_iff.mp ⟨_, built⟩)
  rcases wellFormed.duel duel named with ⟨attackerListed, defenderListed⟩
  rcases exists_listed realizes (Nat.lt_of_le_of_lt (low32_le _) attackerListed) with
    ⟨entry, attacker, place, same, alive⟩
  rcases exists_listed realizes (Nat.lt_of_le_of_lt (low32_le _) defenderListed) with
    ⟨-, defender, -, -, opposed⟩
  rcases weapons_of_toCombatant same with ⟨unitType, count⟩
  refine ⟨?_, entry, place, fun armed => ?_, fun unarmed => ?_⟩
  · rw [realizes.duel, named]
    rfl
  · rw [← count] at armed
    exact ⟨_, Battlefield.pairing_eq_ok_iff.mpr ⟨attacker, defender, _, alive, opposed,
      List.getElem?_eq_getElem armed, rfl⟩⟩
  · have missing : attacker.weapon duel.weapon =
        .error (.noSuchWeapon duel.weapon entry.unitType entry.weapons.length) := by
      rw [← count] at unarmed
      rw [Combatant.weapon, List.getElem?_eq_none unarmed, unitType, count]
    rw [Battlefield.pairing, Battlefield.unit_eq_ok_iff.mpr alive,
      Battlefield.unit_eq_ok_iff.mpr opposed]
    simp only [bind, Except.bind, missing]

end Layout

namespace Duel

variable {ρ : Type} [RollSource ρ]

/-- The duel of a scenario that has been built is told exactly if its first fighter has the weapon
that the document names; and if not, this is what the caller is blamed for, whatever the rolls
are. -/
theorem ofScenario_told_iff {document : Layout.Document} {scenario : Scenario}
    {duel : Layout.DuelEntry} (built : document.build = .ok scenario)
    (named : document.duel = some duel) (trials : Nat) (rolls followerRolls : ρ) :
    ∃ entry, document.units[low32 duel.attacker]? = some entry ∧
      ((∃ told, ofScenario scenario trials rolls followerRolls = .ok told) ↔
        duel.weapon < entry.weapons.length) ∧
      ∀ fault, ofScenario scenario trials rolls followerRolls = .error fault ↔
        entry.weapons.length ≤ duel.weapon ∧
          fault = .noSuchWeapon duel.weapon entry.unitType entry.weapons.length := by
  rcases Layout.pairing_of_build built named with ⟨dueled, entry, place, paired, unpaired⟩
  refine ⟨entry, place, ?_⟩
  simp only [ofScenario, dueled]
  by_cases armed : duel.weapon < entry.weapons.length
  · rcases paired armed with ⟨pairing, pairedNow⟩
    rcases exists_fight pairedNow trials rolls followerRolls with ⟨told, fought⟩
    rw [fought]
    refine ⟨⟨fun _ => armed, fun _ => ⟨told, rfl⟩⟩, fun fault => ⟨fun failed => ?_, ?_⟩⟩
    · simp only [reduceCtorEq] at failed
    · exact fun blamed => absurd armed (Nat.not_lt.mpr blamed.1)
  · have beyond := Nat.le_of_not_lt armed
    rw [fight_of_unpaired (unpaired beyond)]
    refine ⟨?_, fun fault => ?_⟩
    · simp only [reduceCtorEq, exists_false, armed]
    · rw [Except.error.injEq]
      exact ⟨fun same => ⟨beyond, same.symm⟩, fun blamed => blamed.2.symm⟩

/-- Two soldiers with a club each fight their duel with the first weapon. -/
theorem ofScenario_told_standoff :
    ∃ scenario told, (Layout.Document.standoff 1 0).build = .ok scenario ∧
      ofScenario scenario 100 ([0, 99, 40] : List Roll) [] = .ok told := by
  have sound := Layout.verdict_build (.standoff 1 0)
  rcases sound.exists_ok_iff.mpr (Layout.Document.objections_eq_nil_iff.mpr
    (Layout.Document.wellFormed_standoff 0)) with ⟨scenario, built⟩
  rcases ofScenario_told_iff built rfl 100 ([0, 99, 40] : List Roll) [] with ⟨entry, place, told, -⟩
  cases place
  rcases told.mpr (by decide) with ⟨account, fought⟩
  exact ⟨scenario, account, built, fought⟩

/-- Two soldiers whose duel names a second weapon, which they do not have, make up a scenario all
the same; and to tell their duel is to break a promise. -/
theorem standoff_without_weapon :
    ∃ scenario, (Layout.Document.standoff 1 1).build = .ok scenario ∧
      ∀ trials (rolls followerRolls : List Roll), ∃ fault,
        ofScenario scenario trials rolls followerRolls = .error fault ∧
          fault.isViolation = true := by
  have sound := Layout.verdict_build (.standoff 1 1)
  rcases sound.exists_ok_iff.mpr (Layout.Document.objections_eq_nil_iff.mpr
    (Layout.Document.wellFormed_standoff 1)) with ⟨scenario, built⟩
  rcases Layout.pairing_of_build built rfl with ⟨dueled, entry, place, -, unpaired⟩
  cases place
  refine ⟨scenario, built, fun trials rolls followerRolls =>
    ⟨.noSuchWeapon 1 "Soldier" 1, ?_, rfl⟩⟩
  simp only [ofScenario, dueled]
  exact fight_of_unpaired (unpaired (Nat.le_refl 1)) trials rolls followerRolls

end Duel
end Hexfield
