import Hexfield.Proofs.Exchange.Integrity
import Hexfield.Proofs.Exchange.Lockstep

namespace Hexfield

/-!
What an exchange publishes of a swing is what the swing did.

A given record may claim anything, and it is settled with the hitpoints of the target before it
counts.  A record fits these hitpoints if it could be the outcome of a roll against them: settling
makes every record fit and changes none that fits already.  What a swing does to the field is read
off its record, so a record that fits is true of it.  That the given record is settled against the
right hitpoints in every state of an exchange is left to the run.
-/

namespace SwingRecord

variable {given own record : SwingRecord} {targetHitpoints : Nat}

/-- A record that could be the outcome of a roll against so many hitpoints: a miss does nothing, and
a hit kills if and only if it takes all of them. -/
structure Fits (targetHitpoints : Nat) (record : SwingRecord) : Prop where
  miss : record.hit = false → record.damage = 0 ∧ record.dies = false
  hit : record.hit = true → (record.dies = true ↔ targetHitpoints ≤ record.damage)

theorem settled_hit (given : SwingRecord) (targetHitpoints : Nat) :
    (given.settled targetHitpoints).hit = given.hit ∧
      (given.settled targetHitpoints).chance = given.chance := by
  unfold settled
  split
  · split
    · exact ⟨rfl, rfl⟩
    · split
      · exact ⟨rfl, rfl⟩
      · exact ⟨rfl, rfl⟩
  · exact ⟨rfl, rfl⟩

/-- Settling makes a record fit, as long as there is a hitpoint for a survivor to keep. -/
theorem fits_settled (alive : 1 ≤ targetHitpoints) (given : SwingRecord) :
    (given.settled targetHitpoints).Fits targetHitpoints := by
  rcases given with ⟨hit, damage, chance, dies⟩
  cases hit with
  | false => exact ⟨fun _ => ⟨rfl, rfl⟩, fun hit => by cases hit⟩
  | true =>
      refine ⟨fun miss => ?_, fun _ => ?_⟩
      · rw [(settled_hit _ targetHitpoints).1] at miss
        cases miss
      · cases dies with
        | true =>
            simp only [settled, if_true, true_iff]
            exact Nat.le_max_right damage targetHitpoints
        | false =>
            by_cases tooMuch : targetHitpoints ≤ damage
            · simp only [settled, if_true, Bool.false_eq_true, if_false, tooMuch, false_iff]
              omega
            · simp [settled, tooMuch]

theorem Fits.settled_eq (fits : given.Fits targetHitpoints) :
    given.settled targetHitpoints = given := by
  rcases given with ⟨hit, damage, chance, dies⟩
  cases hit with
  | false =>
      rcases fits.miss rfl with ⟨harmless, survives⟩
      cases harmless
      cases survives
      rfl
  | true =>
      have kills := fits.hit rfl
      cases dies with
      | true => simp [settled, Nat.max_eq_left (kills.mp rfl)]
      | false => simp [settled, mt kills.mpr Bool.false_ne_true]

theorem Fits.reconciled (fits : own.Fits targetHitpoints) (alive : 1 ≤ targetHitpoints)
    (given : Option SwingRecord) : (own.reconciled given targetHitpoints).Fits targetHitpoints := by
  cases given with
  | none => exact fits
  | some record =>
      unfold SwingRecord.reconciled
      simp only
      split
      · exact fits
      · exact fits_settled alive record

/-- The record that counts hits as the given one does, at the chance that it names. -/
theorem reconciled_hit (own given : SwingRecord) (targetHitpoints : Nat) :
    (own.reconciled (some given) targetHitpoints).hit = given.hit ∧
      (own.reconciled (some given) targetHitpoints).chance = given.chance := by
  unfold reconciled
  simp only
  split
  · rename_i same
    rw [same]
    exact ⟨rfl, rfl⟩
  · exact settled_hit given targetHitpoints

/-- What a record says of a swing at a unit is what the swing did to the field. -/
structure TrueOf (record : SwingRecord) (id : UnitId) (target : Combatant)
    (before after : Battlefield) : Prop where
  miss : record.hit = false → record.damage = 0 ∧ record.dies = false ∧ after = before
  hit : record.hit = true →
    after.hitpointsOf id + min record.damage target.hitpoints = target.hitpoints
  dies : record.dies = true ↔ after.roster.get? id = none

end SwingRecord

theorem StrikeProfile.fits_outcome (profile : StrikeProfile) (roll : Roll)
    (targetHitpoints : Nat) : (profile.outcome roll targetHitpoints).Fits targetHitpoints := by
  by_cases hit : roll.val < profile.chanceToHit
  · exact ⟨fun miss => by simp [outcome, hit] at miss, fun _ => by simp [outcome, hit]⟩
  · exact ⟨fun _ => by simp [outcome, hit], fun struck => by simp [outcome, hit] at struck⟩

namespace Fight

variable {ρ σ : Type} {observer : Observer σ} {catalog : Catalog} {fight after : Fight ρ σ}

/-! ## One swing -/

theorem hitpointsOf_struck {role : Role} {target : Combatant}
    (distinct : fight.exchange.attacker ≠ fight.exchange.defender)
    (alive : fight.field.roster.get? (fight.exchange.opponentOf role) = some target)
    (profile : StrikeProfile) (damage : Nat) :
    ∃ unit, (fight.struck role profile damage).roster.get? (fight.exchange.opponentOf role) =
      some unit ∧ unit.hitpoints = target.hitpoints - damage := by
  have dealt := get?_deal_target (Exchange.unitOf_ne_opponentOf distinct role) profile damage
  refine ⟨profile.afflict (target.takeDamage damage), ?_, rfl⟩
  simp only [struck, Battlefield.update, Roster.get?_update_self, dealt, alive, Option.map_some]

/-- A hit that neither kills nor petrifies takes from its target what its record says, and the
exchange goes on. -/
theorem Swung.endures {role : Role} {profile : StrikeProfile} {striker target : Combatant}
    {record : SwingRecord}
    (swung : Swung observer catalog role profile striker target record fight after)
    (going : fight.exchange.ending = none)
    (distinct : fight.exchange.attacker ≠ fight.exchange.defender)
    (alive : fight.field.roster.get? (fight.exchange.opponentOf role) = some target)
    (hit : record.hit = true) (survived : record.damage < target.hitpoints)
    (harmless : profile.petrifies = false) :
    after.exchange.ending = none ∧
      after.field.hitpointsOf (fight.exchange.opponentOf role) =
        target.hitpoints - record.damage := by
  have applied : min record.damage target.hitpoints = record.damage :=
    Nat.min_eq_left (Nat.le_of_lt survived)
  cases swung with
  | missed miss =>
      rw [hit] at miss
      cases miss
  | endured =>
      rcases hitpointsOf_struck distinct alive profile (min record.damage target.hitpoints) with
        ⟨unit, present, left⟩
      refine ⟨going, ?_⟩
      rw [Battlefield.hitpointsOf, present, ← applied]
      exact left
  | petrified _ _ petrifies =>
      rw [harmless] at petrifies
      cases petrifies
  | killed _ lethal => omega

/-- A record that fits the hitpoints of the target is true of the swing it was applied by. -/
theorem Swung.trueOf {role : Role} {profile : StrikeProfile} {striker target : Combatant}
    {record : SwingRecord}
    (swung : Swung observer catalog role profile striker target record fight after)
    (leaves : observer.LeavesField)
    (distinct : fight.exchange.attacker ≠ fight.exchange.defender)
    (alive : fight.field.roster.get? (fight.exchange.opponentOf role) = some target)
    (fits : record.Fits target.hitpoints) :
    record.TrueOf (fight.exchange.opponentOf role) target fight.field after.field := by
  -- A survivor has lost what the record says, and the record does not say that it died.
  have survives : ∀ unit, after.field.roster.get? (fight.exchange.opponentOf role) = some unit →
      unit.hitpoints = target.hitpoints - min record.damage target.hitpoints →
      target.hitpoints - min record.damage target.hitpoints ≠ 0 → record.hit = true →
      record.TrueOf (fight.exchange.opponentOf role) target fight.field after.field := by
    intro unit present left survived hit
    refine ⟨fun miss => ?_, fun _ => ?_, ?_⟩
    · rw [hit] at miss
      cases miss
    · rw [Battlefield.hitpointsOf, present]
      change unit.hitpoints + _ = _
      omega
    · rw [fits.hit hit, present]
      simp only [reduceCtorEq, iff_false]
      omega
  cases swung with
  | missed miss =>
      rcases fits.miss miss with ⟨harmless, lives⟩
      refine ⟨fun _ => ⟨harmless, lives, rfl⟩, fun hit => ?_, ?_⟩
      · rw [miss] at hit
        cases hit
      · rw [lives, alive]
        simp
  | endured hit survived harmless =>
      rcases hitpointsOf_struck distinct alive profile (min record.damage target.hitpoints) with
        ⟨unit, present, left⟩
      exact survives unit present left survived hit
  | petrified hit survived petrifies =>
      rcases hitpointsOf_struck distinct alive profile (min record.damage target.hitpoints) with
        ⟨unit, present, left⟩
      rcases (keeps_finish Combatant.hitpoints leaves (fun _ _ => rfl) .petrified
        { fight with
          field := fight.struck role profile (min record.damage target.hitpoints)
          exchange := { fight.exchange with attackerSwings := 0, defenderSwings := 0 } }).get?
        present with ⟨stone, found, same⟩
      exact survives stone found (same.trans left) survived hit
  | killed hit lethal =>
      have placed : (fight.exchange.opponentOf role).val < (fight.deal role profile
          (min record.damage target.hitpoints)).field.roster.slots.size := by
        rw [size_slots_deal]
        exact Roster.lt_size_of_get? alive
      have units := units_resolveDeath (fun _ => ()) leaves (fun _ _ => rfl) catalog role striker
        target profile.contagion _ placed
      rw [exchange_deal, if_pos rfl] at units
      have gone := Option.map_eq_none_iff.mp units
      refine ⟨fun miss => ?_, fun _ => ?_, ?_⟩
      · rw [hit] at miss
        cases miss
      · rw [Battlefield.hitpointsOf, gone]
        change 0 + _ = _
        omega
      · rw [fits.hit hit]
        simp only [gone, iff_true]
        omega

/-! ## Step by step -/

/-- An exchange between two units that is ready for its next swing unless it has ended. -/
structure Underway (attacker defender : UnitId) (fight : Fight ρ σ) : Prop where
  attacker : fight.exchange.attacker = attacker
  defender : fight.exchange.defender = defender
  ready : fight.exchange.ending = none → fight.Ready
  /-- The disputes are counted in a word. -/
  word : fight.exchange.desyncs < UInt32.size

variable [RollSource ρ] {attacker defender : UnitId}

theorem Ready.desyncs_step_lt (ready : fight.Ready) (word : fight.exchange.desyncs < UInt32.size)
    (observer : Observer σ) (catalog : Catalog) (given : Option SwingRecord) :
    (fight.step observer catalog given).2.exchange.desyncs < UInt32.size := by
  cases upcoming : fight.exchange.upcoming with
  | nil =>
      rcases ready.step_of_usedUp observer catalog upcoming given with ⟨exchange, turned, stepped⟩
      have going : exchange.ending = none := by
        rw [turned]
        exact ready.going
      rw [stepped, exchange_finish _ going, turned]
      exact word
  | cons mark rest =>
      rcases ready.step_of_upcoming observer catalog upcoming given with
        ⟨role, exchange, pairing, after, due, stepped, swung⟩
      have going := (due.bookedDue_same given).2.2.2.trans ready.going
      rw [stepped, swung.exchange_eq going, due.bookedDue_exchange given]
      exact low32_lt _

theorem Underway.step (underway : fight.Underway attacker defender)
    (leaves : observer.LeavesField) (catalog : Catalog) (given : Option SwingRecord) :
    (fight.step observer catalog given).2.Underway attacker defender := by
  cases ending : fight.exchange.ending with
  | some ended =>
      rw [step_of_ended ending given]
      exact underway
  | none =>
      have ready := underway.ready ending
      have word := ready.desyncs_step_lt underway.word observer catalog given
      cases upcoming : fight.exchange.upcoming with
      | nil =>
          rcases ready.step_of_usedUp observer catalog upcoming given with
            ⟨exchange, turned, stepped⟩
          have going : exchange.ending = none := by
            rw [turned]
            exact ending
          rw [stepped] at word ⊢
          refine ⟨?_, ?_, ?_, word⟩
          · rw [exchange_finish _ going, turned]
            exact underway.attacker
          · rw [exchange_finish _ going, turned]
            exact underway.defender
          · intro unended
            rw [exchange_finish _ going] at unended
            cases unended
      | cons mark rest =>
          rcases ready.step_order catalog leaves upcoming given with
            ⟨swing, after, stepped, -, -, attackerSame, defenderSame, outcome⟩
          rw [stepped] at word ⊢
          refine ⟨attackerSame.trans underway.attacker, defenderSame.trans underway.defender, ?_,
            word⟩
          intro unended
          rcases outcome with ⟨nextReady, -⟩ | ⟨ended, hasEnded, -⟩
          · exact nextReady
          · rw [unended] at hasEnded
            cases hasEnded

theorem Underway.steps (underway : fight.Underway attacker defender)
    (leaves : observer.LeavesField) (catalog : Catalog) (given : List (Option SwingRecord)) :
    (fight.steps observer catalog given).Underway attacker defender := by
  induction given generalizing fight with
  | nil => exact underway
  | cons record rest ih => exact ih (underway.step leaves catalog record)

/-- What the step of an exchange with a given record publishes, compared with what the same step
does without one. -/
structure Publishes (observer : Observer σ) (catalog : Catalog) (given : Option SwingRecord)
    (fight : Fight ρ σ) (role : Role) (record : SwingRecord) (after : Fight ρ σ) : Prop where
  booked : after.exchange.swings = fight.exchange.swings.push { striker := role, record }
  /-- The target of the swing, at which the record was settled. -/
  target : ∃ target, fight.field.roster.get? (fight.exchange.opponentOf role) = some target ∧
    (1 ≤ target.hitpoints →
      record.TrueOf (fight.exchange.opponentOf role) target fight.field after.field) ∧
    ∀ record', given = some record' → record'.Fits target.hitpoints → record = record'
  asGiven : ∀ record', given = some record' →
    record.hit = record'.hit ∧ record.chance = record'.chance
  /-- The own outcome, which the step publishes if no record is given to it.  If another one is
  given, the word that counts the disputes goes on by one. -/
  own : ∃ own, (fight.step observer catalog none).1 = .ok (some own) ∧
    after.exchange.desyncs =
      if ∃ record', given = some record' ∧ record' ≠ own then low32 (fight.exchange.desyncs + 1)
      else fight.exchange.desyncs

omit [RollSource ρ] in
/-- A record other than the own outcome is one more dispute. -/
theorem low32_disputed {count : Nat} (word : count < UInt32.size) (own : SwingRecord)
    (given : Option SwingRecord) :
    low32 (count + (own.disputed given).toNat) =
      if ∃ record', given = some record' ∧ record' ≠ own then low32 (count + 1) else count := by
  cases given with
  | none => simp [SwingRecord.disputed, low32_of_lt word]
  | some record =>
      by_cases same : own = record
      · simp [SwingRecord.disputed, same, low32_of_lt word]
      · simp [SwingRecord.disputed, same, Ne.symm same]

/-- The swing of a ready fight publishes the truth. -/
theorem Ready.publishes (ready : fight.Ready) (word : fight.exchange.desyncs < UInt32.size)
    (leaves : observer.LeavesField)
    (distinct : fight.exchange.attacker ≠ fight.exchange.defender) (catalog : Catalog)
    {mark : Bool} {rest : List Bool} (upcoming : fight.exchange.upcoming = mark :: rest)
    (given : Option SwingRecord) :
    ∃ role record after, fight.step observer catalog given = (.ok (some record), after) ∧
      role.mark = mark ∧ fight.Publishes observer catalog given role record after := by
  rcases ready.step_of_upcoming observer catalog upcoming given with
    ⟨role, exchange, pairing, after, due, stepped, swung⟩
  rcases ready.step_of_upcoming observer catalog upcoming none with
    ⟨role', exchange', pairing', after', due', stepped', -⟩
  -- Both steps are due to the same side, from the same pairing.
  have sameRole : role' = role := Role.mark_injective (due'.marked.trans due.marked.symm)
  have samePairing : pairing' = pairing := by
    have paired := due'.paired
    rw [due.paired] at paired
    cases paired
    rfl
  subst sameRole
  subst samePairing
  have names := due.bookedDue_same given
  have books := due.bookedDue_exchange given
  have frame := swung.exchange_eq (names.2.2.2.trans ready.going)
  have sameTarget := Exchange.opponentOf_congr names.1 names.2.1 role'
  refine ⟨role', _, after, stepped, due.marked, ?_,
    ⟨pairing'.opponentOf role', due.target_alive, ?_, ?_⟩, ?_, ⟨_, congrArg Prod.fst stepped', ?_⟩⟩
  · rw [frame, books]
  · intro alive
    have fits := (StrikeProfile.fits_outcome ((pairing'.matchup fight.field).profileOf role')
      (RollSource.roll fight.rolls).1 (pairing'.opponentOf role').hitpoints).reconciled alive given
    have stillDistinct : (fight.bookedDue role' exchange pairing' given).exchange.attacker ≠
        (fight.bookedDue role' exchange pairing' given).exchange.defender := by
      rw [names.1, names.2.1]
      exact distinct
    rw [← sameTarget]
    exact swung.trueOf leaves stillDistinct (due.bookedDue_target given) fits
  · rintro record' rfl fits
    exact SwingRecord.reconciled_of_settled fits.settled_eq _
  · rintro record' rfl
    exact SwingRecord.reconciled_hit _ _ _
  · rw [frame, books]
    exact low32_disputed word _ given

end Fight

namespace Scene

variable {ρ σ : Type} {observer : Observer σ} {scene : Scene ρ σ} {attacker defender : UnitId}
  {weapon : Nat} {fight : Fight ρ σ}

theorem underway_of_begin (leaves : observer.LeavesField)
    (begun : scene.begin observer attacker defender weapon = .ok fight) :
    fight.Underway attacker defender := by
  rcases ready_of_begin leaves begun with ⟨-, -, ready, -, attackerName, defenderName, -, -⟩
  rcases opened_of_begin leaves begun with ⟨pairing, -, -, -, -, opened⟩
  refine ⟨attackerName, defenderName, fun _ => ready, ?_⟩
  rw [opened]
  exact Nat.zero_lt_of_lt (low32_lt 0)

end Scene
end Hexfield
