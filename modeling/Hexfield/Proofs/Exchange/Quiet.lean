import Hexfield.Proofs.Exchange.Integrity

namespace Hexfield

/-!
An exchange is quiet until it ends.

Between its beginning and its end an exchange tells no one anything, and of its combatants it
touches nothing but hitpoints, poison and slowness.  So everything that a later statement reads off
a field in the middle of an exchange can be read off the field on which it began, and a whole run
comes down to its last step: quiet steps lead to a fight that is still ready, and one more step ends
it.  Nothing here is asked of the observer, which has no part in what goes on before the end.
-/

/-- What is lasting of a unit: all of it but its hitpoints, its poison, its slowness and its
rest. -/
def Combatant.lasting (unit : Combatant) : Combatant :=
  { unit with
    hitpoints := 0
    status := { unit.status with poisoned := false, slowed := false, resting := false } }

theorem StrikeProfile.lasting_afflict {profile : StrikeProfile}
    (harmless : profile.petrifies = false) (unit : Combatant) :
    (profile.afflict unit).lasting = unit.lasting := by
  simp [Combatant.lasting, afflict, harmless]

theorem Battlefield.Keeps.factor {β γ : Type} {trait : Combatant → β} {before after : Battlefield}
    (keeps : before.Keeps trait after) (reading : β → γ) :
    before.Keeps (fun unit => reading (trait unit)) after := by
  refine ⟨keeps.board, keeps.teams, keeps.time, keeps.rules, keeps.index, fun id => ?_⟩
  have same := congrArg (Option.map reading) (keeps.units id)
  rw [Option.map_map, Option.map_map] at same
  exact same

/-- Where units have kept what is lasting of them, a pairing is one of the same units with the same
weapon. -/
theorem Battlefield.Keeps.pairing_lasting {before after : Battlefield} {attacker defender : UnitId}
    {weapon : Nat} {found : Pairing} (keeps : before.Keeps Combatant.lasting after)
    (paired : before.pairing attacker defender weapon = .ok found) :
    ∃ attackerUnit defenderUnit,
      after.pairing attacker defender weapon =
          .ok (after.pair attackerUnit defenderUnit weapon found.weapon) ∧
        after.roster.get? defender = some defenderUnit ∧
        attackerUnit.lasting = found.attacker.lasting ∧
        defenderUnit.lasting = found.defender.lasting := by
  rcases Battlefield.pairing_eq_ok_iff.mp paired with
    ⟨attackerBefore, defenderBefore, chosen, foundAttacker, foundDefender, foundWeapon, rfl⟩
  rcases keeps.get? foundAttacker with ⟨attackerUnit, aliveAttacker, sameAttacker⟩
  rcases keeps.get? foundDefender with ⟨defenderUnit, aliveDefender, sameDefender⟩
  have weapons : attackerUnit.weapons = attackerBefore.weapons :=
    (congrArg Combatant.weapons sameAttacker :)
  refine ⟨attackerUnit, defenderUnit, ?_, aliveDefender, sameAttacker, sameDefender⟩
  apply Battlefield.pairing_eq_ok_iff.mpr
  exact ⟨attackerUnit, defenderUnit, chosen, aliveAttacker, aliveDefender,
    weapons ▸ foundWeapon, rfl⟩

namespace Fight

variable {ρ σ : Type} {observer : Observer σ} {catalog : Catalog} {fight after : Fight ρ σ}

/-- An exchange has gone on from one fight to another: only its turns and the record of its swings
have changed, its observer has heard nothing, all units are what they were in what is lasting, and
there are as many slots for them. -/
structure Quiet (before after : Fight ρ σ) : Prop where
  exchange : after.exchange =
    { before.exchange with
      attackerSwings := after.exchange.attackerSwings
      defenderSwings := after.exchange.defenderSwings
      rounds := after.exchange.rounds
      preempted := after.exchange.preempted
      turn := after.exchange.turn
      swings := after.exchange.swings
      desyncs := after.exchange.desyncs }
  memory : after.memory = before.memory
  keeps : before.field.Keeps Combatant.lasting after.field
  slots : after.field.roster.slots.size = before.field.roster.slots.size

namespace Quiet

variable {first second third : Fight ρ σ}

theorem refl (fight : Fight ρ σ) : fight.Quiet fight :=
  ⟨rfl, rfl, .refl _ _, rfl⟩

theorem trans (left : first.Quiet second) (right : second.Quiet third) : first.Quiet third := by
  refine ⟨?_, right.memory.trans left.memory, left.keeps.trans right.keeps,
    right.slots.trans left.slots⟩
  have later := right.exchange
  rw [left.exchange] at later
  exact later

variable (quiet : first.Quiet second)

include quiet

theorem attacker : second.exchange.attacker = first.exchange.attacker :=
  (congrArg Exchange.attacker quiet.exchange :)

theorem defender : second.exchange.defender = first.exchange.defender :=
  (congrArg Exchange.defender quiet.exchange :)

theorem weapon : second.exchange.weapon = first.exchange.weapon :=
  (congrArg Exchange.weapon quiet.exchange :)

theorem hexes : second.exchange.hexes = first.exchange.hexes :=
  (congrArg Exchange.hexes quiet.exchange :)

theorem spawned : second.exchange.spawned = first.exchange.spawned :=
  (congrArg Exchange.spawned quiet.exchange :)

theorem defenderBudget : second.exchange.defenderBudget = first.exchange.defenderBudget :=
  (congrArg Exchange.defenderBudget quiet.exchange :)

end Quiet

/-- A swing ends the exchange or changes nothing that is lasting. -/
theorem Swung.quiet_or_ended {role : Role} {profile : StrikeProfile} {striker target : Combatant}
    {record : SwingRecord}
    (swung : Swung observer catalog role profile striker target record fight after)
    (going : fight.exchange.ending = none) :
    (after.exchange = fight.exchange ∧ after.memory = fight.memory ∧
        fight.field.Keeps Combatant.lasting after.field ∧
        after.field.roster.slots.size = fight.field.roster.slots.size) ∨
      ∃ ending, after.exchange.ending = some ending := by
  cases swung with
  | missed => exact Or.inl ⟨rfl, rfl, .refl _ _, rfl⟩
  | endured hit survived harmless =>
      exact Or.inl ⟨rfl, rfl, keeps_struck _ (fun _ _ => rfl) (fun _ _ => rfl)
        (StrikeProfile.lasting_afflict harmless) _ _ _, size_slots_struck _ _ _ _⟩
  | petrified =>
      refine Or.inr ⟨.petrified, ?_⟩
      rw [exchange_finish]
      exact going
  | killed =>
      refine Or.inr ⟨if fight.exchange.opponentOf role = fight.exchange.defender then
        .defenderDied else .attackerDied, ?_⟩
      rw [exchange_resolveDeath]
      · rfl
      · exact going

variable [RollSource ρ]

theorem Due.quiet_bookedDue {mark : Bool} {rest : List Bool} {role : Role} {exchange : Exchange}
    {pairing : Pairing} (due : fight.Due mark rest role exchange pairing)
    (given : Option SwingRecord) : fight.Quiet (fight.bookedDue role exchange pairing given) := by
  refine ⟨?_, rfl, .refl _ _, rfl⟩
  rw [due.bookedDue_exchange given]

/-- After a swing that was due the exchange is ready for the rest, and has been quiet; or it has
ended. -/
theorem Due.quiet_or_ended {mark : Bool} {rest : List Bool} {role : Role} {exchange : Exchange}
    {pairing : Pairing} {profile : StrikeProfile} {striker target : Combatant}
    {record : SwingRecord} {given : Option SwingRecord}
    (due : fight.Due mark rest role exchange pairing) (going : fight.exchange.ending = none)
    (swung : Swung observer catalog role profile striker target record
      (fight.bookedDue role exchange pairing given) after) :
    (after.Ready ∧ after.exchange.upcoming = rest ∧ fight.Quiet after) ∨
      ∃ ending, after.exchange.ending = some ending := by
  have booked := due.quiet_bookedDue given
  have stillGoing := (due.bookedDue_same given).2.2.2.trans going
  rcases swung.quiet_or_ended stillGoing with ⟨same, memory, keeps, slots⟩ | ended
  · have kept : fight.field.Keeps Combatant.lasting after.field := booked.keeps.trans keeps
    rcases due.ready_of_keeps going same (kept.factor Combatant.armament) with ⟨ready, upcoming⟩
    refine Or.inl ⟨ready, upcoming, ?_, memory.trans booked.memory, kept,
      slots.trans booked.slots⟩
    rw [same]
    exact booked.exchange
  · exact Or.inr ended

/-- The step that ends an exchange: the schedule is used up, or the swing that was due ends it. -/
inductive Closes (observer : Observer σ) (catalog : Catalog) (last : Fight ρ σ) : Fight ρ σ → Prop
  | usedUp {exchange : Exchange} (turned : last.exchange.TurnsTo exchange) :
      Closes observer catalog last (finish observer .exhausted { last with exchange })
  | felled {mark : Bool} {rest : List Bool} {role : Role} {exchange : Exchange}
      {pairing : Pairing} {given : Option SwingRecord} {after : Fight ρ σ} {ending : Ending}
      (due : last.Due mark rest role exchange pairing)
      (swung : Swung observer catalog role ((pairing.matchup last.field).profileOf role)
        (pairing.unitOf role) (pairing.opponentOf role) (last.dueRecord role pairing given)
        (last.bookedDue role exchange pairing given) after)
      (ended : after.exchange.ending = some ending) :
      Closes observer catalog last after

/-- A run is quiet up to the step that ends it. -/
theorem Ready.runFor_closes (observer : Observer σ) (catalog : Catalog) (due : List Bool) :
    ∀ {fight : Fight ρ σ} {limit : Nat} (given : List SwingRecord), fight.Ready →
      fight.exchange.upcoming = due → due.length < limit →
      ∃ last after, fight.runFor observer catalog limit given = (.ok (), after) ∧
        fight.Quiet last ∧ last.Ready ∧ last.Closes observer catalog after := by
  -- The schedule shortens with every quiet step, and the limit with it.
  induction due with
  | nil =>
      intro fight limit given ready upcoming enough
      rcases Nat.exists_eq_succ_of_ne_zero (Nat.ne_of_gt enough) with ⟨limit, rfl⟩
      rcases ready.runFor_of_usedUp observer catalog upcoming limit given with
        ⟨exchange, turned, ran⟩
      exact ⟨fight, _, ran, .refl fight, ready, .usedUp turned⟩
  | cons mark rest ih =>
      intro fight limit given ready upcoming enough
      rcases ready.step_of_upcoming observer catalog upcoming given.head? with
        ⟨role, exchange, pairing, after, due, stepped, swung⟩
      rcases Nat.exists_eq_succ_of_ne_zero (Nat.ne_of_gt (Nat.zero_lt_of_lt enough)) with
        ⟨limit, rfl⟩
      have ran := runFor_of_step ready.going stepped limit
      rcases due.quiet_or_ended ready.going swung with
        ⟨nextReady, nextUpcoming, quiet⟩ | ⟨ending, ended⟩
      · rcases ih given.tail nextReady nextUpcoming (Nat.lt_of_succ_lt_succ enough) with
          ⟨last, final, ranOn, quietOn, lastReady, closes⟩
        exact ⟨last, final, ran.trans ranOn, quiet.trans quietOn, lastReady, closes⟩
      · exact ⟨fight, after, ran.trans (runFor_of_ended ended _ _), .refl fight, ready,
          .felled due swung ended⟩

/-! ## Step by step -/

theorem Closes.exists_ending {last : Fight ρ σ} (closes : last.Closes observer catalog after)
    (going : last.exchange.ending = none) : ∃ ending, after.exchange.ending = some ending := by
  cases closes with
  | usedUp turned =>
      refine ⟨.exhausted, ?_⟩
      rw [exchange_finish]
      rw [turned]
      exact going
  | felled due swung ended => exact ⟨_, ended⟩

theorem Closes.combatants {last : Fight ρ σ} (closes : last.Closes observer catalog after)
    (going : last.exchange.ending = none) :
    after.exchange.attacker = last.exchange.attacker ∧
      after.exchange.defender = last.exchange.defender := by
  cases closes with
  | usedUp turned =>
      rw [Exchange.TurnsTo] at turned
      rw [exchange_finish, turned]
      · exact ⟨rfl, rfl⟩
      · rw [turned]
        exact going
  | @felled _ _ role exchange pairing given _ _ due swung _ =>
      rcases due.bookedDue_same given with ⟨attackerName, defenderName, -, sameEnding⟩
      rw [swung.exchange_eq (sameEnding.trans going)]
      exact ⟨attackerName, defenderName⟩

theorem Ready.step_quiet_or_closes (ready : fight.Ready) (observer : Observer σ)
    (catalog : Catalog) (given : Option SwingRecord) :
    let after := (fight.step observer catalog given).2
    (after.Ready ∧ fight.Quiet after) ∨ fight.Closes observer catalog after := by
  cases upcoming : fight.exchange.upcoming with
  | nil =>
      rcases ready.step_of_usedUp observer catalog upcoming given with ⟨exchange, turned, stepped⟩
      rw [stepped]
      exact Or.inr (.usedUp turned)
  | cons mark rest =>
      rcases ready.step_of_upcoming observer catalog upcoming given with
        ⟨role, exchange, pairing, after, due, stepped, swung⟩
      rw [stepped]
      rcases due.quiet_or_ended ready.going swung with ⟨nextReady, -, quiet⟩ | ⟨ending, ended⟩
      · exact Or.inl ⟨nextReady, quiet⟩
      · exact Or.inr (.felled due swung ended)

theorem steps_of_ended {ending : Ending} (ended : fight.exchange.ending = some ending)
    (given : List (Option SwingRecord)) : fight.steps observer catalog given = fight := by
  induction given with
  | nil => rfl
  | cons record rest ih =>
      rw [steps, List.foldl_cons, step_of_ended ended record]
      exact ih

/-- Steps that have ended an exchange were quiet up to the one that closed it. -/
theorem Ready.steps_closes (observer : Observer σ) (catalog : Catalog) {ending : Ending}
    (given : List (Option SwingRecord)) (ready : fight.Ready)
    (ended : (fight.steps observer catalog given).exchange.ending = some ending) :
    ∃ last, fight.Quiet last ∧ last.Ready ∧
      last.Closes observer catalog (fight.steps observer catalog given) := by
  induction given generalizing fight with
  | nil => cases ready.going.symm.trans ended
  | cons record rest ih =>
      change ∃ last, fight.Quiet last ∧ last.Ready ∧ last.Closes observer catalog
        ((fight.step observer catalog record).2.steps observer catalog rest)
      rcases ready.step_quiet_or_closes observer catalog record with ⟨nextReady, quiet⟩ | closes
      · rcases ih nextReady ended with ⟨last, quietOn, lastReady, closes⟩
        exact ⟨last, quiet.trans quietOn, lastReady, closes⟩
      · rcases closes.exists_ending ready.going with ⟨ending, ended⟩
        rw [steps_of_ended ended]
        exact ⟨fight, .refl fight, ready, closes⟩

theorem exists_steps_of_runFor (observer : Observer σ) (catalog : Catalog) (limit : Nat)
    (given : List SwingRecord) (fight : Fight ρ σ) :
    ∃ records, (fight.runFor observer catalog limit given).2 =
      fight.steps observer catalog records := by
  induction limit generalizing fight given with
  | zero => exact ⟨[], rfl⟩
  | succ limit ih =>
      unfold runFor
      split
      · exact ⟨[], rfl⟩
      · rcases stepped : fight.step observer catalog given.head? with ⟨_ | _ | record, after⟩
        · exact ⟨[given.head?], (congrArg Prod.snd stepped).symm⟩
        · exact ⟨[given.head?], (congrArg Prod.snd stepped).symm⟩
        · rcases ih given.tail after with ⟨records, ran⟩
          exact ⟨given.head? :: records, ran.trans
            (congrArg (fun result => steps observer catalog records result.2) stepped).symm⟩

/-- A run of a fight that is ready is a sequence of steps that ends it. -/
theorem Ready.run_ends (ready : fight.Ready) (observer : Observer σ) (catalog : Catalog)
    (given : List SwingRecord) :
    ∃ records ending,
      fight.run observer catalog given = (.ok (), fight.steps observer catalog records) ∧
        (fight.steps observer catalog records).exchange.ending = some ending := by
  rcases ready.runFor_closes observer catalog _ given rfl (Exchange.length_lt_of_upcoming rfl) with
    ⟨last, after, ran, -, lastReady, closes⟩
  rcases exists_steps_of_runFor observer catalog (fight.exchange.swingsLeft + 1) given fight with
    ⟨records, same⟩
  rcases closes.exists_ending lastReady.going with ⟨ending, ended⟩
  rw [ran] at same
  subst same
  exact ⟨records, ending, ran, ended⟩

/-- As long as an exchange goes on, it is ready for its next swing and has been quiet since it
began. -/
def GoesOn (start fight : Fight ρ σ) : Prop :=
  fight.exchange.ending = none → fight.Ready ∧ start.Quiet fight

namespace GoesOn

variable {start : Fight ρ σ}

theorem step (goesOn : start.GoesOn fight) (observer : Observer σ) (catalog : Catalog)
    (given : Option SwingRecord) : start.GoesOn (fight.step observer catalog given).2 := by
  cases ending : fight.exchange.ending with
  | some ended =>
      rw [step_of_ended ending given]
      exact goesOn
  | none =>
      rcases goesOn ending with ⟨ready, quiet⟩
      intro unended
      rcases ready.step_quiet_or_closes observer catalog given with ⟨nextReady, next⟩ | closes
      · exact ⟨nextReady, quiet.trans next⟩
      · rcases closes.exists_ending ready.going with ⟨ending', ended⟩
        cases unended.symm.trans ended

/-- Only an exchange that goes on, and has a swing left, makes a swing. -/
theorem of_step (goesOn : start.GoesOn fight) {given : Option SwingRecord} {record : SwingRecord}
    (stepped : fight.step observer catalog given = (.ok (some record), after)) :
    fight.Ready ∧ start.Quiet fight ∧ ∃ mark rest, fight.exchange.upcoming = mark :: rest := by
  cases ending : fight.exchange.ending with
  | some ended =>
      rw [step_of_ended ending given] at stepped
      cases stepped
  | none =>
      rcases goesOn ending with ⟨ready, quiet⟩
      cases upcoming : fight.exchange.upcoming with
      | nil =>
          rcases ready.step_of_usedUp observer catalog upcoming given with ⟨_, -, ended⟩
          rw [ended] at stepped
          cases stepped
      | cons mark rest => exact ⟨ready, quiet, mark, rest, rfl⟩

theorem steps (goesOn : start.GoesOn fight) (observer : Observer σ) (catalog : Catalog)
    (given : List (Option SwingRecord)) :
    start.GoesOn (fight.steps observer catalog given) := by
  induction given generalizing fight with
  | nil => exact goesOn
  | cons record rest ih => exact ih (goesOn.step observer catalog record)

end GoesOn

theorem Ready.goesOn_steps (ready : fight.Ready) (observer : Observer σ) (catalog : Catalog)
    (given : List (Option SwingRecord)) :
    fight.GoesOn (fight.steps observer catalog given) :=
  GoesOn.steps (fun _ => ⟨ready, .refl fight⟩) observer catalog given

end Fight

namespace Scene

variable {ρ σ : Type} {observer : Observer σ} {scene : Scene ρ σ} {attacker defender : UnitId}
  {weapon : Nat} {fight : Fight ρ σ}

/-- What an exchange still has of its beginning as long as it is quiet: the units and the weapon of
the pairing with which it began, the hexes on which they stood, the defender's budget of strikes,
what is lasting of all units, and the number of their slots. -/
structure Continues (scene : Scene ρ σ) (attacker defender : UnitId) (weapon : Nat)
    (found : Pairing) (now : Fight ρ σ) : Prop where
  paired : scene.field.pairing attacker defender weapon = .ok found
  between : now.exchange.attacker = attacker ∧ now.exchange.defender = defender ∧
    now.exchange.weapon = weapon
  hexes : now.exchange.hexes = [found.attacker.hex, found.defender.hex]
  unspawned : now.exchange.spawned = none
  budget : now.exchange.defenderBudget = (found.matchup scene.field).defender.strikes
  keeps : scene.field.Keeps Combatant.lasting now.field
  slots : now.field.roster.slots.size = scene.field.roster.slots.size

theorem exists_continues (leaves : observer.LeavesField)
    (begun : scene.begin observer attacker defender weapon = .ok fight) {now : Fight ρ σ}
    (quiet : fight.Quiet now) :
    ∃ found, scene.Continues attacker defender weapon found now := by
  rcases opened_of_begin leaves begun with ⟨found, paired, -, field, -, opened⟩
  have roused : scene.field.Keeps Combatant.lasting fight.field := by
    rw [field]
    exact scene.field.keeps_rouse Combatant.lasting (fun _ => rfl) attacker defender
  have slots : fight.field.roster.slots.size = scene.field.roster.slots.size := by
    rw [field]
    simp [Battlefield.rouse, Battlefield.update]
  refine ⟨found, paired, ⟨?_, ?_, ?_⟩, ?_, ?_, ?_, roused.trans quiet.keeps,
    quiet.slots.trans slots⟩
  · exact quiet.attacker.trans (congrArg Exchange.attacker opened)
  · exact quiet.defender.trans (congrArg Exchange.defender opened)
  · exact quiet.weapon.trans ((congrArg Exchange.weapon opened).trans
      (Battlefield.weaponIndex_of_pairing paired))
  · exact quiet.hexes.trans (congrArg Exchange.hexes opened)
  · exact quiet.spawned.trans (congrArg Exchange.spawned opened)
  · exact quiet.defenderBudget.trans (congrArg Exchange.defenderBudget opened)

namespace Continues

variable {found : Pairing} {now : Fight ρ σ}

theorem paired_now (continues : scene.Continues attacker defender weapon found now) :
    scene.field.pairing now.exchange.attacker now.exchange.defender now.exchange.weapon =
      .ok found := by
  rcases continues.between with ⟨rfl, rfl, rfl⟩
  exact continues.paired

/-- The next swing finds the units with which the exchange began, in what is lasting of them. -/
theorem exists_pairing (continues : scene.Continues attacker defender weapon found now) :
    ∃ later,
      now.field.pairing now.exchange.attacker now.exchange.defender now.exchange.weapon =
          .ok later ∧
        ∀ part, (later.unitOf part).lasting = (found.unitOf part).lasting := by
  rcases continues.keeps.pairing_lasting continues.paired_now with
    ⟨attackerUnit, defenderUnit, paired, -, sameAttacker, sameDefender⟩
  refine ⟨_, paired, fun part => ?_⟩
  cases part with
  | attacker => exact sameAttacker
  | defender => exact sameDefender

theorem alive (continues : scene.Continues attacker defender weapon found now) (part : Role) :
    ∃ unit, now.field.roster.get? (now.exchange.unitOf part) = some unit ∧
      unit.lasting = (found.unitOf part).lasting := by
  rcases Battlefield.units_of_pairing continues.paired_now with ⟨attackerAlive, defenderAlive⟩
  cases part with
  | attacker => exact continues.keeps.get? attackerAlive
  | defender => exact continues.keeps.get? defenderAlive

end Continues

/-- The first swing of an exchange is made by the side that its schedule names first. -/
theorem step_of_begin [RollSource ρ] (leaves : observer.LeavesField) (catalog : Catalog)
    (begun : scene.begin observer attacker defender weapon = .ok fight) (role : Role)
    (first : (scene.field.matchup attacker defender weapon).toOption.bind
      (fun matchup => matchup.schedule.head?) = some role.mark)
    (given : Option SwingRecord) :
    ∃ record after, fight.step observer catalog given = (.ok (some record), after) ∧
      after.exchange.swings = #[{ striker := role, record }] := by
  rcases ready_of_begin leaves begun with ⟨matchup, matched, ready, upcoming, -, -, unswung, -⟩
  rw [matched] at first
  rcases List.head?_eq_some_iff.mp first with ⟨rest, scheduled⟩
  rcases ready.step_order catalog leaves (upcoming.trans scheduled) given with
    ⟨swing, after, stepped, marked, booked, -⟩
  refine ⟨swing.record, after, stepped, ?_⟩
  rw [booked, unswung, ← Role.mark_injective marked]
  rfl

end Scene

end Hexfield
