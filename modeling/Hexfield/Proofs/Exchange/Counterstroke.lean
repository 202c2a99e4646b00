import Hexfield.Proofs.Exchange.Quiet
import Hexfield.Proofs.Exchange.Truth

namespace Hexfield

/-!
With which weapon a defender answers, from swing to swing.

The defender's budget of strikes, the number of rounds and the first strike are settled when an
exchange begins, and the weapon with which the defender answers is chosen anew before every swing.
The choice looks at nothing that an exchange changes but the defender's hitpoints, and at these only
to rate weapons that swarm.  So a defender that could answer at first can answer to the end, and it
answers with the weapon found at first unless a swarm has grown or shrunk.
-/

theorem Pairing.weapon_defenderProfile (pairing : Pairing) (field : Battlefield) :
    (pairing.defenderProfile field).weapon = pairing.counter.map Prod.fst := by
  unfold defenderProfile
  cases pairing.counter <;> rfl

namespace Battlefield

theorem weapon_defender_pair (field after : Battlefield) (attacker defender : Combatant)
    (index : Nat) (weapon : Weapon) :
    ((field.pair attacker defender index weapon).matchup after).defender.weapon =
      chooseCounter attacker defender weapon := by
  refine (Pairing.weapon_defenderProfile _ after).trans ?_
  simp only [pair]
  cases chosen : chooseCounter attacker defender weapon with
  | none => rfl
  | some answer =>
      rcases chooseCounter_eq_some chosen with ⟨-, counter, carried, -⟩
      rw [Option.bind_some, carried]
      rfl

end Battlefield

/-- Two matchups agree on how long the exchange lasts and on who strikes first if they are those of
the same weapons, under the same rules. -/
theorem Pairing.matchup_agrees {first later : Pairing} {before after : Battlefield}
    (rules : after.rules = before.rules) (weapon : later.weapon = first.weapon)
    (counter : later.counter = first.counter) :
    (later.matchup after).rounds = (first.matchup before).rounds ∧
      (later.matchup after).defenderStrikesFirst =
        (first.matchup before).defenderStrikesFirst := by
  have berserk : later.berserk = first.berserk := by
    rw [Pairing.berserk, Pairing.berserk, weapon, counter]
  have attackerFirst : (later.attackerProfile after).firstStrike =
      (first.attackerProfile before).firstStrike :=
    congrArg (Weapon.hasSpecial · .firstStrike) weapon
  have defenderFirst : (later.defenderProfile after).firstStrike =
      (first.defenderProfile before).firstStrike := by
    unfold Pairing.defenderProfile
    rw [counter]
    cases first.counter <;> rfl
  simp only [Pairing.matchup, berserk, rules, attackerFirst, defenderFirst, and_self]

namespace Fight

variable {ρ σ : Type}

/-- How the numbers that a later swing is made with stand to the pairing with which the exchange
began, as far as the defender's answer is concerned. -/
structure Answers (start : Battlefield) (found : Pairing) (now : Fight ρ σ) (later : Matchup) :
    Prop where
  read : now.field.matchup now.exchange.attacker now.exchange.defender now.exchange.weapon =
    .ok later
  budget : now.exchange.defenderBudget = (found.matchup start).defender.strikes
  /-- The defender chooses as it would have chosen at first with its present hitpoints. -/
  chosen : later.defender.weapon =
    chooseCounter found.attacker
      { found.defender with hitpoints := now.field.hitpointsOf now.exchange.defender } found.weapon
  able : later.defender.weapon.isSome = (found.matchup start).defender.weapon.isSome
  /-- Only swarming changes the choice. -/
  changed : later.defender.weapon ≠ (found.matchup start).defender.weapon →
    ∃ index swarming,
      ((found.matchup start).defender.weapon = some index ∨ later.defender.weapon = some index) ∧
        found.defender.weapons[index]? = some swarming ∧ swarming.hasSpecial .swarm = true
  /-- What was settled at first belongs to the weapon, as long as it is the one found at first. -/
  unchanged : later.defender.weapon = (found.matchup start).defender.weapon →
    later.rounds = (found.matchup start).rounds ∧
      later.defenderStrikesFirst = (found.matchup start).defenderStrikesFirst

/-- Wherever units have kept what is lasting of them, the defender's answer stands to that found at
first as it should. -/
theorem exists_answers {start : Battlefield} {found : Pairing} {now : Fight ρ σ}
    (paired : start.pairing now.exchange.attacker now.exchange.defender now.exchange.weapon =
      .ok found)
    (budget : now.exchange.defenderBudget = (found.matchup start).defender.strikes)
    (keeps : start.Keeps Combatant.lasting now.field) :
    ∃ later, now.Answers start found later := by
  rcases keeps.pairing_lasting paired with
    ⟨attackerUnit, defenderUnit, pairedNow, alive, sameAttacker, sameDefender⟩
  rcases Battlefield.pairing_eq_ok_iff.mp paired with
    ⟨attackerBefore, defenderBefore, weapon, -, -, -, rfl⟩
  -- All that the choice looks at, but for the hitpoints, is lasting.
  have resistances : attackerUnit.resistances = attackerBefore.resistances :=
    (congrArg Combatant.resistances sameAttacker :)
  have weapons : defenderUnit.weapons = defenderBefore.weapons :=
    (congrArg Combatant.weapons sameDefender :)
  have stone : defenderUnit.incapacitated = defenderBefore.incapacitated :=
    (congrArg Combatant.incapacitated sameDefender :)
  have most : defenderUnit.maxHitpoints = defenderBefore.maxHitpoints :=
    (congrArg Combatant.maxHitpoints sameDefender :)
  have hitpoints : now.field.hitpointsOf now.exchange.defender = defenderUnit.hitpoints := by
    rw [Battlefield.hitpointsOf, alive]
    rfl
  refine ⟨(now.field.pair attackerUnit defenderUnit now.exchange.weapon weapon).matchup now.field,
    ?_, budget, ?_, ?_, ?_, ?_⟩
  · rw [Battlefield.matchup, pairedNow]
    rfl
  · rw [Battlefield.weapon_defender_pair, hitpoints]
    exact chooseCounter_eq_of_hitpoints resistances weapons stone most weapon
  · rw [Battlefield.weapon_defender_pair, Battlefield.weapon_defender_pair, isSome_chooseCounter,
      isSome_chooseCounter, stone, weapons]
  · intro other
    rw [Battlefield.weapon_defender_pair, Battlefield.weapon_defender_pair] at other ⊢
    exact (chooseCounter_eq_or_swarms resistances weapons stone weapon).resolve_left other
  · intro same
    rw [Battlefield.weapon_defender_pair, Battlefield.weapon_defender_pair] at same
    refine Pairing.matchup_agrees keeps.rules rfl ?_
    exact congrArg₂ (fun choice (carried : List Weapon) =>
      choice.bind fun index => (carried[index]?).map fun counter => (index, counter)) same weapons

end Fight

namespace Scene

variable {ρ σ : Type} {observer : Observer σ} {scene : Scene ρ σ} {attacker defender : UnitId}
  {weapon : Nat} {fight : Fight ρ σ}

/-- As long as an exchange has been quiet, the defender's answer stands to that found when it began
as it should. -/
theorem exists_answers_of_quiet (leaves : observer.LeavesField)
    (begun : scene.begin observer attacker defender weapon = .ok fight) {now : Fight ρ σ}
    (quiet : fight.Quiet now) :
    now.exchange.attacker = attacker ∧ now.exchange.defender = defender ∧
      now.exchange.weapon = weapon ∧
        ∃ found later, scene.field.pairing attacker defender weapon = .ok found ∧
          now.Answers scene.field found later := by
  rcases exists_continues leaves begun quiet with ⟨found, continues⟩
  rcases continues.between with ⟨attackerName, defenderName, weaponName⟩
  rcases Fight.exists_answers continues.paired_now continues.budget continues.keeps with
    ⟨later, answers⟩
  exact ⟨attackerName, defenderName, weaponName, found, later, continues.paired, answers⟩

/-- As long as an exchange has not ended, after any number of steps and with any given records, the
weapon with which the defender would answer the next swing stands as follows to the one found at
first, to which the budget of strikes belongs: it is what the defender would have chosen at first
with its present hitpoints; there is one if there was one at first; it is another one only if one of
the two swarms; and if it is the same, then so are the number of rounds and the first strike. -/
theorem counter_reconsidered [RollSource ρ] (leaves : observer.LeavesField) (catalog : Catalog)
    (begun : scene.begin observer attacker defender weapon = .ok fight)
    (earlier : List (Option SwingRecord)) :
    let now := fight.steps observer catalog earlier
    now.exchange.ending = none →
      now.exchange.attacker = attacker ∧ now.exchange.defender = defender ∧
        now.exchange.weapon = weapon ∧
          ∃ found later, scene.field.pairing attacker defender weapon = .ok found ∧
            now.Answers scene.field found later := by
  intro now going
  rcases ready_of_begin leaves begun with ⟨-, -, ready, -⟩
  exact exists_answers_of_quiet leaves begun
    (ready.goesOn_steps observer catalog earlier going).2

end Scene

/-! ## A pack that shrinks -/

def Weapon.greatsword : Weapon :=
  { sword with damage := 21 }

/-- Claws of many, which strike less often the fewer are left. -/
def Weapon.claws : Weapon :=
  { name := "claws", damage := 5, strikes := 6, range := .melee, damageType := .blade
    specials := [.swarm] }

def Combatant.giant : Combatant :=
  (ofType "Giant" ⟨1⟩ ⟨0, 0⟩ 40).withWeapon .greatsword

def Combatant.pack : Combatant :=
  ((ofType "Pack" ⟨2⟩ ⟨1, 0⟩ 40).withWeapon .claws).withWeapon .sword

def Battlefield.ambush : Battlefield :=
  { skirmish with
    roster := { skirmish.roster with slots := #[some .giant, some .pack] } }

theorem Battlefield.pairing_ambush :
    ambush.pairing ⟨0⟩ ⟨1⟩ 0 = .ok (ambush.pair .giant .pack 0 .greatsword) :=
  pairing_eq_ok_iff.mpr ⟨.giant, .pack, .greatsword, rfl, rfl, rfl, rfl⟩

namespace Scene

/-- The giant's first blow leaves the pack less than half of its hitpoints, and the exchange goes
on. -/
theorem blow_ambush :
    ∃ (fight : Fight ScriptedDice EventLog) (record : SwingRecord)
      (after : Fight ScriptedDice EventLog),
      Scene.begin .recorder ⟨0⟩ ⟨1⟩ 0 ⟨.ambush, ScriptedDice.ofArray #[10], {}⟩ = .ok fight ∧
        fight.step .recorder {} none = (.ok (some record), after) ∧
        after.exchange.ending = none ∧ after.field.hitpointsOf ⟨1⟩ = 19 := by
  let scene : Scene ScriptedDice EventLog := ⟨.ambush, ScriptedDice.ofArray #[10], {}⟩
  have paired : scene.field.pairing ⟨0⟩ ⟨1⟩ 0 = .ok _ := Battlefield.pairing_ambush
  rcases begin_of_pairing Observer.recorder_leavesField paired (by decide) with
    ⟨fight, begun, field, rolls, opened⟩
  rcases ready_of_begin Observer.recorder_leavesField begun with ⟨-, -, ready, -⟩
  have upcoming : fight.exchange.upcoming =
      true :: ((Battlefield.ambush.pair .giant .pack 0 .greatsword).matchup
        .ambush).schedule.tail := by
    rw [opened, Pairing.upcoming_opening]
    decide +kernel
  rcases ready.step_of_upcoming .recorder {} upcoming none with
    ⟨role, exchange, pairing, after, due, stepped, swung⟩
  cases Role.mark_injective (show role.mark = Role.attacker.mark from due.marked)
  have pair : pairing =
      fight.field.pair Combatant.giant.roused Combatant.pack.roused 0 .greatsword := by
    have found := due.paired
    rw [field, opened] at found
    rw [field]
    cases found
    rfl
  have recorded : fight.dueRecord .attacker pairing none = ⟨true, 21, 60, false⟩ := by
    rw [pair, Fight.dueRecord, Fight.nextRecord, field, rolls]
    decide +kernel
  have harmless : ((pairing.matchup fight.field).profileOf .attacker).petrifies = false := by
    rw [pair]
    rfl
  have target : pairing.opponentOf .attacker = Combatant.pack.roused := by
    rw [pair]
    rfl
  rw [recorded, target] at swung
  rw [recorded] at stepped
  rcases due.quiet_bookedDue none with ⟨books, -, -⟩
  have apart : (fight.bookedDue .attacker exchange pairing none).exchange.attacker ≠
      (fight.bookedDue .attacker exchange pairing none).exchange.defender := by
    rw [books, opened]
    exact (by decide : (⟨0⟩ : UnitId) ≠ ⟨1⟩)
  have alive := due.bookedDue_target none
  rw [target] at alive
  have going := (due.bookedDue_same none).2.2.2.trans ready.going
  have endured := swung.endures going apart alive rfl (by decide) harmless
  rw [books, opened] at endured
  exact ⟨fight, _, after, begun, stepped, endured.1, endured.2⟩

/-- The pack would answer the giant's attack with its claws, and after the first blow it answers
with its sword. -/
theorem counter_changes_ambush :
    ∃ (fight : Fight ScriptedDice EventLog) (record : SwingRecord)
      (after : Fight ScriptedDice EventLog) (first later : Matchup),
      Scene.begin .recorder ⟨0⟩ ⟨1⟩ 0 ⟨.ambush, ScriptedDice.ofArray #[10], {}⟩ = .ok fight ∧
        fight.step .recorder {} none = (.ok (some record), after) ∧
        after.exchange.ending = none ∧
        Battlefield.ambush.matchup ⟨0⟩ ⟨1⟩ 0 = .ok first ∧
        after.field.matchup ⟨0⟩ ⟨1⟩ 0 = .ok later ∧
        first.defender.weapon = some 0 ∧ later.defender.weapon = some 1 := by
  rcases blow_ambush with ⟨fight, record, after, begun, stepped, going, left⟩
  rcases ready_of_begin Observer.recorder_leavesField begun with ⟨-, -, ready, -⟩
  have goesOn := ready.goesOn_steps .recorder {} [none]
  rw [show fight.steps .recorder {} [none] = after from congrArg Prod.snd stepped] at goesOn
  rcases exists_answers_of_quiet Observer.recorder_leavesField begun (goesOn going).2 with
    ⟨attackerName, defenderName, weaponName, found, later, paired, answers⟩
  cases Battlefield.pairing_ambush.symm.trans paired
  have read := answers.read
  have chosen := answers.chosen
  rw [attackerName, defenderName, weaponName] at read
  rw [defenderName, left] at chosen
  refine ⟨fight, record, after,
    (Battlefield.ambush.pair .giant .pack 0 .greatsword).matchup .ambush, later, begun, stepped,
    going, ?_, read, ?_, ?_⟩
  · rw [Battlefield.matchup, Battlefield.pairing_ambush]
    rfl
  · rw [Battlefield.weapon_defender_pair]
    decide +kernel
  · rw [chosen]
    decide +kernel

/-- The pack's answer after the giant's first blow is what it would have chosen at first with
nineteen hitpoints. -/
theorem counter_reconsidered_ambush :
    ∃ (fight : Fight ScriptedDice EventLog) (later : Matchup),
      Scene.begin .recorder ⟨0⟩ ⟨1⟩ 0 ⟨.ambush, ScriptedDice.ofArray #[10], {}⟩ = .ok fight ∧
        (fight.steps .recorder {} [none]).exchange.ending = none ∧
        (fight.steps .recorder {} [none]).field.matchup ⟨0⟩ ⟨1⟩ 0 = .ok later ∧
        later.defender.weapon =
          chooseCounter .giant { Combatant.pack with hitpoints := 19 } .greatsword := by
  rcases blow_ambush with ⟨fight, record, after, begun, stepped, going, left⟩
  have same : fight.steps .recorder {} [none] = after := congrArg Prod.snd stepped
  rw [← same] at going left
  rcases counter_reconsidered Observer.recorder_leavesField {} begun [none] going with
    ⟨attackerName, defenderName, weaponName, found, later, paired, answers⟩
  cases Battlefield.pairing_ambush.symm.trans paired
  have read := answers.read
  have chosen := answers.chosen
  rw [attackerName, defenderName, weaponName] at read
  rw [defenderName, left] at chosen
  exact ⟨fight, later, begun, going, read, chosen⟩

end Scene

end Hexfield
