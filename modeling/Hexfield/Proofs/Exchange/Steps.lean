import Hexfield.Proofs.Exchange.Opening

namespace Hexfield

/-!
One step of an exchange, between the observer's silence before and after it.

Between two swings a fight is ready: its schedule is in order, both combatants are on the field, and
a defender that gets strikes has a weapon to strike with.  A step of a ready fight ends the exchange
if the schedule is used up, and otherwise makes the swing that is due.
-/

/-- What decides whether a unit can answer an attack: its weapons, and whether it is petrified. -/
def Combatant.armament (unit : Combatant) : List Weapon × Bool :=
  (unit.weapons, unit.status.petrified)

/-- Where both combatants keep their armaments, their pairing stays possible and keeps its
answer. -/
theorem Battlefield.pairing_of_armament {before after : Battlefield} {attacker defender : UnitId}
    {weapon : Nat} {found : Pairing}
    (paired : before.pairing attacker defender weapon = .ok found)
    (sameAttacker : (after.roster.get? attacker).map Combatant.armament =
      (before.roster.get? attacker).map Combatant.armament)
    (sameDefender : (after.roster.get? defender).map Combatant.armament =
      (before.roster.get? defender).map Combatant.armament) :
    ∃ later, after.pairing attacker defender weapon = .ok later ∧
      later.counter.isSome = found.counter.isSome := by
  rcases Battlefield.pairing_eq_ok_iff.mp paired with
    ⟨attackerUnit, defenderUnit, chosen, foundAttacker, foundDefender, foundWeapon, rfl⟩
  rw [foundAttacker] at sameAttacker
  rw [foundDefender] at sameDefender
  rcases Option.map_eq_some_iff.mp sameAttacker with ⟨attackerAfter, aliveAttacker, attackerSame⟩
  rcases Option.map_eq_some_iff.mp sameDefender with ⟨defenderAfter, aliveDefender, defenderSame⟩
  have attackerWeapons : attackerAfter.weapons = attackerUnit.weapons :=
    congrArg Prod.fst attackerSame
  have defenderWeapons : defenderAfter.weapons = defenderUnit.weapons :=
    congrArg Prod.fst defenderSame
  have stone : defenderAfter.incapacitated = defenderUnit.incapacitated :=
    congrArg Prod.snd defenderSame
  refine ⟨after.pair attackerAfter defenderAfter weapon chosen, ?_, ?_⟩
  · apply Battlefield.pairing_eq_ok_iff.mpr
    exact ⟨attackerAfter, defenderAfter, chosen, aliveAttacker, aliveDefender,
      attackerWeapons ▸ foundWeapon, rfl⟩
  · rw [Battlefield.isSome_counter_pair, Battlefield.isSome_counter_pair, stone, defenderWeapons]

theorem Battlefield.Keeps.pairing {before after : Battlefield} {attacker defender : UnitId}
    {weapon : Nat} {found : Pairing} (keeps : before.Keeps Combatant.armament after)
    (paired : before.pairing attacker defender weapon = .ok found) :
    ∃ later, after.pairing attacker defender weapon = .ok later ∧
      later.counter.isSome = found.counter.isSome :=
  pairing_of_armament paired (keeps.units attacker) (keeps.units defender)

def Pairing.unitOf (pairing : Pairing) : Role → Combatant
  | .attacker => pairing.attacker
  | .defender => pairing.defender

def Pairing.opponentOf (pairing : Pairing) : Role → Combatant
  | .attacker => pairing.defender
  | .defender => pairing.attacker

namespace Fight

variable {ρ σ : Type} {fight : Fight ρ σ}

/-- The next swing of the fight can be made, whichever side the schedule gives it to. -/
structure Ready (fight : Fight ρ σ) : Prop where
  going : fight.exchange.ending = none
  orderly : fight.exchange.Orderly
  answers : ∃ pairing,
    fight.field.pairing fight.exchange.attacker fight.exchange.defender fight.exchange.weapon =
        .ok pairing ∧
      (0 < fight.exchange.defenderBudget → pairing.counter.isSome = true)

/-- An exchange at its start is ready if both combatants are as well armed as when it was opened. -/
theorem ready_of_opening {start : Battlefield} {attacker defender : UnitId} {weapon : Nat}
    {pairing : Pairing} (paired : start.pairing attacker defender weapon = .ok pairing)
    (opened : fight.exchange = pairing.opening (pairing.matchup start) attacker defender)
    (sameAttacker : (fight.field.roster.get? attacker).map Combatant.armament =
      (start.roster.get? attacker).map Combatant.armament)
    (sameDefender : (fight.field.roster.get? defender).map Combatant.armament =
      (start.roster.get? defender).map Combatant.armament) : fight.Ready := by
  rcases Battlefield.pairing_of_armament paired sameAttacker sameDefender with
    ⟨later, pairedLater, sameAnswer⟩
  refine ⟨?_, ?_, later, ?_, fun budgeted => ?_⟩
  · rw [opened]
    rfl
  · rw [opened]
    exact pairing.orderly_opening _ _ _
  · rw [opened]
    simp only [Pairing.opening, Battlefield.weaponIndex_of_pairing paired]
    exact pairedLater
  · rw [opened] at budgeted
    rw [sameAnswer]
    exact pairing.isSome_counter_of_strikes start budgeted

/-- The swing that is due in a fight: the part that makes it, the state of the exchange in which it
is made, and the pairing from which its numbers are read. -/
structure Due (fight : Fight ρ σ) (mark : Bool) (rest : List Bool) (role : Role)
    (exchange : Exchange) (pairing : Pairing) : Prop where
  marked : role.mark = mark
  turned : fight.exchange.TurnsTo exchange
  upcoming : (exchange.spend role).upcoming = rest
  orderly : (exchange.spend role).Orderly
  paired : fight.field.pairing fight.exchange.attacker fight.exchange.defender
    fight.exchange.weapon = .ok pairing
  counters : 0 < fight.exchange.defenderBudget → pairing.counter.isSome = true

namespace Due

variable {mark : Bool} {rest : List Bool} {role : Role} {exchange : Exchange} {pairing : Pairing}

theorem target_alive (due : fight.Due mark rest role exchange pairing) :
    fight.field.roster.get? (fight.exchange.opponentOf role) =
      some (pairing.opponentOf role) := by
  rcases Battlefield.units_of_pairing due.paired with ⟨attackerAlive, defenderAlive⟩
  cases role with
  | attacker => exact defenderAlive
  | defender => exact attackerAlive

end Due

variable [RollSource ρ]

/-- The record of a swing that is due. -/
def dueRecord (role : Role) (pairing : Pairing) (given : Option SwingRecord)
    (fight : Fight ρ σ) : SwingRecord :=
  fight.nextRecord ((pairing.matchup fight.field).profileOf role) (pairing.opponentOf role) given

def bookedDue (role : Role) (exchange : Exchange) (pairing : Pairing)
    (given : Option SwingRecord) (fight : Fight ρ σ) : Fight ρ σ :=
  booked role ((pairing.matchup fight.field).profileOf role) (pairing.opponentOf role) given
    { fight with exchange }

namespace Due

variable {mark : Bool} {rest : List Bool} {role : Role} {exchange : Exchange} {pairing : Pairing}

/-- A swing in the books is one more swing, between the same units, and has not ended anything
yet. -/
theorem bookedDue_exchange (due : fight.Due mark rest role exchange pairing)
    (given : Option SwingRecord) :
    (fight.bookedDue role exchange pairing given).exchange =
      { fight.exchange with
        attackerSwings := (exchange.spend role).attackerSwings
        defenderSwings := (exchange.spend role).defenderSwings
        rounds := exchange.rounds
        preempted := exchange.preempted
        turn := exchange.turn
        swings := fight.exchange.swings.push
          { striker := role, record := fight.dueRecord role pairing given }
        desyncs := low32 (fight.exchange.desyncs +
          ((((pairing.matchup fight.field).profileOf role).outcome
            (RollSource.roll fight.rolls).1 (pairing.opponentOf role).hitpoints).disputed
              given).toNat) } := by
  have turned := due.turned
  rw [Exchange.TurnsTo] at turned
  rw [turned]
  cases role <;> rfl

theorem bookedDue_same (due : fight.Due mark rest role exchange pairing)
    (given : Option SwingRecord) :
    let booked := fight.bookedDue role exchange pairing given
    booked.exchange.attacker = fight.exchange.attacker ∧
      booked.exchange.defender = fight.exchange.defender ∧
      booked.exchange.spawned = fight.exchange.spawned ∧
      booked.exchange.ending = fight.exchange.ending := by
  intro booked
  rw [due.bookedDue_exchange given]
  exact ⟨rfl, rfl, rfl, rfl⟩

theorem bookedDue_target (due : fight.Due mark rest role exchange pairing)
    (given : Option SwingRecord) :
    let booked := fight.bookedDue role exchange pairing given
    booked.field.roster.get? (booked.exchange.opponentOf role) =
      some (pairing.opponentOf role) := by
  intro booked
  rcases due.bookedDue_same given with ⟨attacker, defender, -, -⟩
  rw [Exchange.opponentOf_congr attacker defender]
  exact due.target_alive

/-- Once a swing that is due is in the books, the fight is ready for the rest, as long as what
befalls the field leaves everyone as well armed as before. -/
theorem ready_of_keeps (due : fight.Due mark rest role exchange pairing)
    (going : fight.exchange.ending = none) {given : Option SwingRecord} {after : Fight ρ σ}
    (same : after.exchange = (fight.bookedDue role exchange pairing given).exchange)
    (keeps : fight.field.Keeps Combatant.armament after.field) :
    after.Ready ∧ after.exchange.upcoming = rest := by
  have books := due.bookedDue_exchange given
  have upcoming : after.exchange.upcoming = rest := by
    rw [same]
    exact due.upcoming
  refine ⟨⟨?_, ?_, ?_⟩, upcoming⟩
  · rw [same, books]
    exact going
  · rw [same]
    exact ⟨due.orderly.untouched, due.orderly.within⟩
  · rcases keeps.pairing due.paired with ⟨later, paired, answer⟩
    refine ⟨later, ?_, ?_⟩
    · rw [same, books]
      exact paired
    · rw [same, books, answer]
      exact due.counters

end Due

theorem Ready.step_of_usedUp (observer : Observer σ) (catalog : Catalog) (ready : fight.Ready)
    (usedUp : fight.exchange.upcoming = []) (given : Option SwingRecord) :
    ∃ exchange, fight.exchange.TurnsTo exchange ∧
      fight.step observer catalog given =
        (.ok none, finish observer .exhausted { fight with exchange }) := by
  have accords := Exchange.nextStriker_accords ready.going ready.orderly
  unfold step
  rcases striker : fight.exchange.nextStriker with ⟨role, exchange⟩
  rw [striker] at accords
  simp only at accords
  cases role with
  | none => exact ⟨exchange, accords.1, rfl⟩
  | some role =>
      rw [usedUp] at accords
      cases accords.2.1

/-- A fight that has not used up its schedule makes the next swing of it. -/
theorem Ready.step_of_upcoming (observer : Observer σ) (catalog : Catalog) (ready : fight.Ready)
    {mark : Bool} {rest : List Bool} (upcoming : fight.exchange.upcoming = mark :: rest)
    (given : Option SwingRecord) :
    ∃ role exchange pairing after,
      fight.Due mark rest role exchange pairing ∧
        fight.step observer catalog given =
          (.ok (some (fight.dueRecord role pairing given)), after) ∧
        Swung observer catalog role ((pairing.matchup fight.field).profileOf role)
          (pairing.unitOf role) (pairing.opponentOf role) (fight.dueRecord role pairing given)
          (fight.bookedDue role exchange pairing given) after := by
  have accords := Exchange.nextStriker_accords ready.going ready.orderly
  rcases ready.answers with ⟨pairing, paired, counters⟩
  rcases striker : fight.exchange.nextStriker with ⟨next, exchange⟩
  rw [striker] at accords
  simp only at accords
  cases next with
  | none =>
      rw [upcoming] at accords
      cases accords.2
  | some role =>
      rcases accords with ⟨turned, first, orderly, budgeted⟩
      rw [upcoming] at first
      have names : exchange.attacker = fight.exchange.attacker ∧
          exchange.defender = fight.exchange.defender ∧
          exchange.weapon = fight.exchange.weapon := by
        rw [turned]
        exact ⟨rfl, rfl, rfl⟩
      have armed : exchange.armedStriker role
          (pairing.matchup fight.field).defender.weapon.isSome = (some role, exchange) := by
        apply if_neg
        rintro ⟨defends, unarmed⟩
        exact unarmed ((pairing.isSome_weapon_defenderProfile fight.field).trans
          (counters (budgeted defends)))
      let start : Fight ρ σ := { fight with exchange }
      rcases swung_swing observer catalog role ((pairing.matchup fight.field).profileOf role)
        (pairing.unitOf role) (pairing.opponentOf role) given start with ⟨recorded, swung⟩
      have stepped : fight.step observer catalog given =
          (.ok (some (swing observer catalog role ((pairing.matchup fight.field).profileOf role)
            (pairing.unitOf role) (pairing.opponentOf role) given start).1),
          (swing observer catalog role ((pairing.matchup fight.field).profileOf role)
            (pairing.unitOf role) (pairing.opponentOf role) given start).2) := by
        unfold step
        simp only [striker, names.1, names.2.1, names.2.2, paired, armed]
        cases role <;> rfl
      refine ⟨role, exchange, pairing, _, ⟨(List.cons.inj first).1.symm, turned,
        (List.cons.inj first).2.symm, orderly, paired, counters⟩, ?_, swung⟩
      rw [stepped, recorded]
      rfl

end Fight
end Hexfield
