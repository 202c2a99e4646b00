import Hexfield.Proofs.Exchange.Order

namespace Hexfield

/-!
Leaders and followers.

A follower plays an exchange over from the records of a leader, with rolls of its own.  Two fights
are alike when their fields and the stories of their exchanges agree; whose rolls they draw, who
observes them and how often they disputed a record is left open.  Each operation takes alike fights
to alike fights.  A record that counted for the leader is consistent with the hitpoints of its
target, so it counts for the follower too, and alike fights make the same swing.
-/

/-- The own outcome of a roll is consistent with the hitpoints it was rolled against. -/
theorem StrikeProfile.settled_outcome (profile : StrikeProfile) (roll : Roll)
    (targetHitpoints : Nat) :
    (profile.outcome roll targetHitpoints).settled targetHitpoints =
      profile.outcome roll targetHitpoints := by
  by_cases hit : roll.val < profile.chanceToHit
  · by_cases lethal : targetHitpoints ≤ profile.damage
    · simp [outcome, SwingRecord.settled, hit, lethal]
    · simp [outcome, SwingRecord.settled, hit, lethal]
  · simp [outcome, SwingRecord.settled, hit]

namespace Fight

/-- Two fights that have come to the same on the field and in the story of the exchange. -/
structure Alike {ρ σ ρ' σ' : Type} (first : Fight ρ σ) (second : Fight ρ' σ') : Prop where
  field : second.field = first.field
  attacker : second.exchange.attacker = first.exchange.attacker
  defender : second.exchange.defender = first.exchange.defender
  weapon : second.exchange.weapon = first.exchange.weapon
  swings : second.exchange.swings = first.exchange.swings
  spawned : second.exchange.spawned = first.exchange.spawned
  ending : second.exchange.ending = first.exchange.ending

namespace Alike

variable {ρ σ ρ' σ' : Type} {observer : Observer σ} {observer' : Observer σ'}
  {first after : Fight ρ σ} {second after' : Fight ρ' σ'}

theorem onField (alike : first.Alike second) (exchange : after.exchange = first.exchange)
    (exchange' : after'.exchange = second.exchange) (field : after'.field = after.field) :
    after.Alike after' := by
  refine ⟨field, ?_, ?_, ?_, ?_, ?_, ?_⟩
  · rw [exchange, exchange']
    exact alike.attacker
  · rw [exchange, exchange']
    exact alike.defender
  · rw [exchange, exchange']
    exact alike.weapon
  · rw [exchange, exchange']
    exact alike.swings
  · rw [exchange, exchange']
    exact alike.spawned
  · rw [exchange, exchange']
    exact alike.ending

theorem unitOf (alike : first.Alike second) (role : Role) :
    second.exchange.unitOf role = first.exchange.unitOf role := by
  cases role with
  | attacker => exact alike.attacker
  | defender => exact alike.defender

theorem opponentOf (alike : first.Alike second) (role : Role) :
    second.exchange.opponentOf role = first.exchange.opponentOf role := by
  cases role with
  | attacker => exact alike.defender
  | defender => exact alike.attacker

theorem remember (alike : first.Alike second) (memory : σ) (memory' : σ') :
    ({ first with memory }).Alike { second with memory := memory' } :=
  alike.onField rfl rfl alike.field

theorem announce (alike : first.Alike second) (leaves : observer.LeavesField)
    (leaves' : observer'.LeavesField) (announcement announcement' : Announcement) :
    (first.announce observer announcement).Alike (second.announce observer' announcement') := by
  apply alike.onField
  · rfl
  · rfl
  · rw [field_announce leaves, field_announce leaves']
    exact alike.field

theorem update (alike : first.Alike second) (id : UnitId) (change : Combatant → Combatant) :
    ({ first with field := first.field.update id change }).Alike
      { second with field := second.field.update id change } := by
  apply alike.onField
  · rfl
  · rfl
  · rw [alike.field]

theorem erase (alike : first.Alike second) (id : UnitId) :
    ({ first with field := first.field.erase id }).Alike
      { second with field := second.field.erase id } := by
  apply alike.onField
  · rfl
  · rfl
  · rw [alike.field]

theorem shareExperience (alike : first.Alike second) :
    first.shareExperience.Alike second.shareExperience := by
  apply alike.onField
  · exact exchange_shareExperience first
  · exact exchange_shareExperience second
  · simp only [Fight.shareExperience, alike.field, alike.attacker, alike.defender]
    cases first.field.roster.get? first.exchange.attacker with
    | none => exact alike.field
    | some attacker =>
        cases first.field.roster.get? first.exchange.defender with
        | none => exact alike.field
        | some defender => rfl

theorem finish (alike : first.Alike second) (leaves : observer.LeavesField)
    (leaves' : observer'.LeavesField) (ending : Ending) :
    (first.finish observer ending).Alike (second.finish observer' ending) := by
  have finished : second.exchange.isFinished = first.exchange.isFinished := by
    rw [Exchange.isFinished, alike.ending]
    rfl
  unfold Fight.finish
  by_cases closed : first.exchange.isFinished = true
  · rw [if_pos closed, if_pos (finished.trans closed)]
    exact alike
  · rw [if_neg closed, if_neg (fun closed' => closed (finished.symm.trans closed'))]
    have ended : ({ first with exchange := { first.exchange with ending := some ending } }).Alike
        { second with exchange := { second.exchange with ending := some ending } } :=
      ⟨alike.field, alike.attacker, alike.defender, alike.weapon, alike.swings, alike.spawned,
        rfl⟩
    have shared := ended.shareExperience
    cases ending with
    | exhausted => exact (shared.announce leaves leaves' _ _).remember _ _
    | petrified => exact (shared.announce leaves leaves' _ _).remember _ _
    | attackerDied => exact (ended.announce leaves leaves' _ _).remember _ _
    | defenderDied => exact (ended.announce leaves leaves' _ _).remember _ _
    | interrupted => exact (ended.announce leaves leaves' _ _).remember _ _

theorem raise (alike : first.Alike second) (leaves : observer.LeavesField)
    (leaves' : observer'.LeavesField) (catalog : Catalog) (unitType : String) (side : Side)
    (hex : Hex) :
    (first.raise observer catalog unitType side hex).Alike
      (second.raise observer' catalog unitType side hex) := by
  unfold Fight.raise
  cases catalog.instantiate unitType side hex with
  | none => exact alike
  | some unit =>
      simp only [alike.field]
      cases first.field.addUnit unit with
      | error fault => exact alike
      | ok added =>
          apply Alike.announce _ leaves leaves'
          exact ⟨rfl, alike.attacker, alike.defender, alike.weapon, alike.swings, rfl,
            alike.ending⟩

theorem resolveDeath (alike : first.Alike second) (leaves : observer.LeavesField)
    (leaves' : observer'.LeavesField) (catalog : Catalog) (role : Role)
    (killer victim : Combatant) (contagion : Option String) :
    (first.resolveDeath observer catalog role killer victim contagion).Alike
      (second.resolveDeath observer' catalog role killer victim contagion) := by
  have rules : second.field.rules = first.field.rules := by rw [alike.field]
  unfold Fight.resolveDeath
  simp only [alike.unitOf, alike.opponentOf, alike.defender, rules]
  have rewarded := alike.update (first.exchange.unitOf role)
    (·.gainExperience (first.field.rules.experienceForKill victim.level))
  have announced := rewarded.announce leaves leaves'
    (.death (first.exchange.opponentOf role) (first.exchange.unitOf role) victim.hex)
    (.death (first.exchange.opponentOf role) (first.exchange.unitOf role) victim.hex)
  have buried := announced.erase (first.exchange.opponentOf role)
  apply Alike.finish _ leaves leaves'
  cases contagion with
  | none => exact buried
  | some unitType => exact buried.raise leaves leaves' catalog unitType killer.side victim.hex

theorem deal (alike : first.Alike second) (role : Role) (profile : StrikeProfile)
    (damage : Nat) : (first.deal role profile damage).Alike (second.deal role profile damage) := by
  have hurt := alike.update (first.exchange.opponentOf role) (·.takeDamage damage)
  unfold Fight.deal
  simp only [alike.unitOf, alike.opponentOf]
  split
  · exact hurt.update (first.exchange.unitOf role) (·.heal (damage / 2))
  · exact hurt

theorem applyHit (alike : first.Alike second) (leaves : observer.LeavesField)
    (leaves' : observer'.LeavesField) (catalog : Catalog) (role : Role)
    (profile : StrikeProfile) (striker target : Combatant) (record : SwingRecord) :
    (first.applyHit observer catalog role profile striker target record).Alike
      (second.applyHit observer' catalog role profile striker target record) := by
  have hurt := alike.deal role profile (min record.damage target.hitpoints)
  unfold Fight.applyHit
  simp only
  split
  · exact hurt.resolveDeath leaves leaves' catalog role striker target profile.contagion
  · have afflicted := hurt.update (first.exchange.opponentOf role) profile.afflict
    simp only [hurt.opponentOf]
    split
    · apply Alike.finish _ leaves leaves'
      exact ⟨afflicted.field, alike.attacker, alike.defender, alike.weapon, alike.swings,
        alike.spawned, alike.ending⟩
    · exact afflicted

theorem swung (alike : first.Alike second) (leaves : observer.LeavesField)
    (leaves' : observer'.LeavesField) {catalog : Catalog} {role : Role} {profile : StrikeProfile}
    {striker target : Combatant} {record : SwingRecord}
    (done : Swung observer catalog role profile striker target record first after)
    (done' : Swung observer' catalog role profile striker target record second after') :
    after.Alike after' := by
  rw [done.after_eq, done'.after_eq]
  split
  · exact alike.applyHit leaves leaves' catalog role profile striker target record
  · exact alike

variable [RollSource ρ] [RollSource ρ']

/-- A record that counts for one fight counts for every fight that is alike and is given it. -/
theorem dueRecord_eq (alike : first.Alike second) (role : Role) (pairing : Pairing)
    (given : Option SwingRecord) :
    second.dueRecord role pairing (some (first.dueRecord role pairing given)) =
      first.dueRecord role pairing given := by
  unfold dueRecord nextRecord
  rw [alike.field]
  apply SwingRecord.reconciled_of_settled
  apply SwingRecord.settled_reconciled
  exact StrikeProfile.settled_outcome _ _ _

theorem bookedDue (alike : first.Alike second) {mark mark' : Bool} {rest rest' : List Bool}
    {role : Role} {exchange exchange' : Exchange} {pairing : Pairing}
    (due : first.Due mark rest role exchange pairing)
    (due' : second.Due mark' rest' role exchange' pairing) (given : Option SwingRecord) :
    (first.bookedDue role exchange pairing given).Alike
      (second.bookedDue role exchange' pairing (some (first.dueRecord role pairing given))) := by
  have books := due.bookedDue_exchange given
  have books' := due'.bookedDue_exchange (some (first.dueRecord role pairing given))
  refine ⟨alike.field, ?_, ?_, ?_, ?_, ?_, ?_⟩
  · rw [books, books']
    exact alike.attacker
  · rw [books, books']
    exact alike.defender
  · rw [books, books']
    exact alike.weapon
  · rw [books, books']
    simp only [alike.dueRecord_eq role pairing given, alike.swings]
  · rw [books, books']
    exact alike.spawned
  · rw [books, books']
    exact alike.ending

/-- A follower with the rolls of a leader that was given no record has nothing to dispute. -/
theorem undisputed (alike : first.Alike second) {mark : Bool} {rest : List Bool} {role : Role}
    {exchange : Exchange} {pairing : Pairing}
    (due : second.Due mark rest role exchange pairing)
    (same : RollSource.SameRolls first.rolls second.rolls)
    (undisputed : second.exchange.desyncs = 0) :
    (second.bookedDue role exchange pairing
      (some (first.dueRecord role pairing none))).exchange.desyncs = 0 := by
  have own : first.dueRecord role pairing none =
      ((pairing.matchup second.field).profileOf role).outcome (RollSource.roll second.rolls).1
        (pairing.opponentOf role).hitpoints := by
    unfold dueRecord nextRecord
    rw [alike.field, same.roll]
    rfl
  rw [due.bookedDue_exchange, own]
  simp only [SwingRecord.disputed_self, Bool.toNat_false, undisputed]
  rfl

/-- Alike fights, of which the second is given the record of the first, make the same swing. -/
theorem step (alike : first.Alike second) (leaves : observer.LeavesField)
    (leaves' : observer'.LeavesField) (catalog : Catalog) (ready : first.Ready)
    (ready' : second.Ready) {mark : Bool} {rest : List Bool}
    (upcoming : first.exchange.upcoming = mark :: rest)
    (upcoming' : second.exchange.upcoming = mark :: rest) (given : Option SwingRecord) :
    ∃ swing after after',
      first.step observer catalog given = (.ok (some swing.record), after) ∧
        second.step observer' catalog (some swing.record) = (.ok (some swing.record), after') ∧
        after.exchange.swings = first.exchange.swings.push swing ∧
        after.Alike after' ∧
        (given = none → RollSource.SameRolls first.rolls second.rolls →
          RollSource.SameRolls after.rolls after'.rolls ∧
            (second.exchange.desyncs = 0 → after'.exchange.desyncs = 0)) ∧
        (after.Ready ∧ after'.Ready ∧ after.exchange.upcoming = rest ∧
            after'.exchange.upcoming = rest ∨
          ∃ ending, after.exchange.ending = some ending) := by
  rcases ready.step_of_upcoming observer catalog upcoming given with
    ⟨role, exchange, pairing, after, due, stepped, done⟩
  rcases ready'.step_of_upcoming observer' catalog upcoming'
    (some (first.dueRecord role pairing given)) with
    ⟨role', exchange', pairing', after', due', stepped', done'⟩
  have sameRole : role' = role := Role.mark_injective (due'.marked.trans due.marked.symm)
  have samePairing : pairing' = pairing := by
    have paired := due'.paired
    rw [alike.field, alike.attacker, alike.defender, alike.weapon, due.paired] at paired
    cases paired
    rfl
  subst sameRole samePairing
  rw [alike.dueRecord_eq] at stepped' done'
  have books := due.bookedDue_exchange given
  have books' := due'.bookedDue_exchange (some (first.dueRecord role' pairing' given))
  have going : (first.bookedDue role' exchange pairing' given).exchange.ending = none := by
    rw [books]
    exact ready.going
  have going' : (second.bookedDue role' exchange' pairing'
      (some (first.dueRecord role' pairing' given))).exchange.ending = none := by
    rw [books']
    exact ready'.going
  have profile : (pairing'.matchup second.field).profileOf role' =
      (pairing'.matchup first.field).profileOf role' := by rw [alike.field]
  rw [profile] at done'
  have afterAlike := (alike.bookedDue due due' given).swung leaves leaves' done done'
  refine ⟨{ striker := role', record := first.dueRecord role' pairing' given }, after, after',
    stepped, stepped', ?_, afterAlike, ?_, ?_⟩
  · rw [done.exchange_eq going, books]
  · intro unled same
    constructor
    · rw [done.rolls_eq, done'.rolls_eq]
      exact same.next
    · intro undisputed
      rw [done'.exchange_eq going', unled]
      exact alike.undisputed due' same undisputed
  · rcases due.ready_or_fells leaves ready.going done with ⟨next, left, -⟩ | ⟨ending, ended, -⟩
    · rcases due'.ready_or_fells leaves' ready'.going done' with
        ⟨next', left', -⟩ | ⟨ending', ended', -⟩
      · exact Or.inl ⟨next, next', left, left'⟩
      · rw [afterAlike.ending, next.going] at ended'
        cases ended'
    · exact Or.inr ⟨ending, ended⟩

/-- A follower that is given the records of a leader's swings comes to the same end. -/
theorem runFor (leaves : observer.LeavesField) (leaves' : observer'.LeavesField)
    (catalog : Catalog) (due : List Bool) :
    ∀ {first : Fight ρ σ} {second : Fight ρ' σ'} {limit : Nat} (given : List SwingRecord),
      first.Alike second → first.Ready → second.Ready →
      first.exchange.upcoming = due → second.exchange.upcoming = due → due.length < limit →
      ∃ final final' made,
        first.runFor observer catalog limit given = (.ok (), final) ∧
          second.runFor observer' catalog limit (made.map AppliedSwing.record) = (.ok (), final') ∧
          final.exchange.swings.toList = first.exchange.swings.toList ++ made ∧
          final.Alike final' ∧
          (given = [] → RollSource.SameRolls first.rolls second.rolls →
            second.exchange.desyncs = 0 → final'.exchange.desyncs = 0) := by
  induction due with
  | nil =>
      intro first second limit given alike ready ready' upcoming upcoming' enough
      rcases Nat.exists_eq_succ_of_ne_zero (Nat.ne_of_gt enough) with ⟨limit, rfl⟩
      rcases ready.runFor_of_usedUp observer catalog upcoming limit given with
        ⟨exchange, turned, ran⟩
      rcases ready'.runFor_of_usedUp observer' catalog upcoming' limit [] with
        ⟨exchange', turned', ran'⟩
      have turnedAlike : ({ first with exchange }).Alike { second with exchange := exchange' } := by
        rw [turned, turned']
        exact ⟨alike.field, alike.attacker, alike.defender, alike.weapon, alike.swings,
          alike.spawned, alike.ending⟩
      have going : exchange.ending = none := by
        rw [turned]
        exact ready.going
      have going' : exchange'.ending = none := by
        rw [turned']
        exact ready'.going
      refine ⟨_, _, [], ran, ran', ?_, turnedAlike.finish leaves leaves' .exhausted, ?_⟩
      · rw [exchange_finish _ going, turned]
        exact (List.append_nil _).symm
      · intro unled same undisputed
        rw [exchange_finish _ going', turned']
        exact undisputed
  | cons mark rest ih =>
      intro first second limit given alike ready ready' upcoming upcoming' enough
      rcases alike.step leaves leaves' catalog ready ready' upcoming upcoming' given.head? with
        ⟨swing, after, after', stepped, stepped', swings, afterAlike, undisputed, outcome⟩
      rcases Nat.exists_eq_succ_of_ne_zero (Nat.ne_of_gt (Nat.zero_lt_of_lt enough)) with
        ⟨limit, rfl⟩
      have ran := runFor_of_step ready.going stepped limit
      have ran' : ∀ made : List AppliedSwing,
          second.runFor observer' catalog (limit + 1) ((swing :: made).map AppliedSwing.record) =
            after'.runFor observer' catalog limit (made.map AppliedSwing.record) :=
        fun made => runFor_of_step ready'.going stepped' limit
      rcases outcome with ⟨next, next', left, left'⟩ | ⟨ending, ended⟩
      · rcases ih given.tail afterAlike next next' left left' (Nat.lt_of_succ_lt_succ enough) with
          ⟨final, final', made, ranOn, ranOn', madeSwings, finalAlike, finalUndisputed⟩
        refine ⟨final, final', swing :: made, ran.trans ranOn, (ran' made).trans ranOn', ?_,
          finalAlike, ?_⟩
        · rw [madeSwings, swings, Array.toList_push, List.append_assoc, List.singleton_append]
        · intro unled same
          subst unled
          rcases undisputed rfl same with ⟨sameAfter, still⟩
          exact fun start => finalUndisputed rfl sameAfter (still start)
      · have ended' : after'.exchange.ending = some ending := afterAlike.ending.trans ended
        refine ⟨after, after', [swing], ran.trans (runFor_of_ended ended _ _),
          (ran' []).trans (runFor_of_ended ended' _ _), ?_, afterAlike, ?_⟩
        · rw [swings, Array.toList_push]
        · intro unled same
          subst unled
          exact (undisputed rfl same).2

end Alike
end Fight

namespace Scene

variable {ρ σ ρ' σ' : Type} {observer : Observer σ} {observer' : Observer σ'}
  {scene : Scene ρ σ} {attacker defender : UnitId} {weapon : Nat}

/-- On one field, an exchange that begins for a leader begins alike for every follower. -/
theorem begin_alike (leaves : observer.LeavesField) (leaves' : observer'.LeavesField)
    {fight : Fight ρ σ} (begun : scene.begin observer attacker defender weapon = .ok fight)
    (rolls : ρ') (memory : σ') :
    ∃ fight', Scene.begin observer' attacker defender weapon ⟨scene.field, rolls, memory⟩ =
        .ok fight' ∧
      fight.Alike fight' ∧ fight.rolls = scene.rolls ∧ fight'.rolls = rolls ∧
      fight'.exchange.desyncs = 0 := by
  rcases opened_of_begin leaves begun with ⟨pairing, paired, armed, field, drawn, opened⟩
  have follower : (Scene.mk scene.field rolls memory).field.pairing attacker defender weapon =
      .ok pairing := paired
  rcases begin_of_pairing leaves' follower armed with ⟨fight', begun', field', drawn', opened'⟩
  have sameField : fight'.field = fight.field := field'.trans field.symm
  have sameExchange : fight'.exchange = fight.exchange := opened'.trans opened.symm
  have undisputed : fight'.exchange.desyncs = 0 := by
    rw [opened']
    rfl
  refine ⟨fight', begun', ⟨sameField, ?_, ?_, ?_, ?_, ?_, ?_⟩, drawn, drawn', undisputed⟩
  · rw [sameExchange]
  · rw [sameExchange]
  · rw [sameExchange]
  · rw [sameExchange]
  · rw [sameExchange]
  · rw [sameExchange]

/-- Whoever plays an exchange over from the records of its report comes to the same field, the same
swings, the same end and the same risen unit, whatever rolls it draws; and it disputes nothing if
the rolls are those of a leader that was given no records. -/
theorem resolve_replays [RollSource ρ] (leaves : observer.LeavesField) (catalog : Catalog)
    (given : List SwingRecord) {fight : Fight ρ σ}
    (begun : scene.begin observer attacker defender weapon = .ok fight) :
    ∃ report final,
      scene.resolve observer catalog attacker defender weapon given = (.ok report, final) ∧
        ∀ {ρ' σ' : Type} [RollSource ρ'] {observer' : Observer σ'}, observer'.LeavesField →
          ∀ (rolls : ρ') (memory : σ'), ∃ report' final',
            Scene.resolve observer' catalog attacker defender weapon report.records
                ⟨scene.field, rolls, memory⟩ = (.ok report', final') ∧
              final'.field = final.field ∧
              report'.swings = report.swings ∧
              report'.ending = report.ending ∧
              report'.spawned = report.spawned ∧
              (given = [] → RollSource.SameRolls scene.rolls rolls → report'.desyncs = 0) := by
  rcases ready_of_begin leaves begun with ⟨matchup, matched, ready, upcoming, -, -, unswung, -⟩
  have enough := Exchange.length_lt_of_upcoming upcoming
  rcases ready.runFor_order catalog leaves matchup.schedule given upcoming enough with
    ⟨final, made, ran, swings, -⟩
  refine ⟨final.exchange.report, final.toScene, resolve_of_run begun ran, ?_⟩
  intro ρ' σ' source observer' leaves' rolls memory
  rcases begin_alike leaves leaves' begun rolls memory with
    ⟨fight', begun', alike, drawn, drawn', undisputed⟩
  rcases ready_of_begin leaves' begun' with ⟨matchup', matched', ready', upcoming', -⟩
  have sameMatchup : matchup' = matchup := by
    rw [matched] at matched'
    cases matched'
    rfl
  subst sameMatchup
  have enough' : fight'.exchange.swingsLeft + 1 = fight.exchange.swingsLeft + 1 := by
    rw [← Exchange.length_upcoming, ← Exchange.length_upcoming, upcoming, upcoming']
  rcases alike.runFor leaves leaves' catalog matchup'.schedule given ready ready' upcoming
    upcoming' enough with ⟨again, final', madeAgain, ranAgain, ran', swingsAgain, endAlike, calm⟩
  have sameFinal : again = final := congrArg Prod.snd (ranAgain.symm.trans ran)
  subst sameFinal
  have records : again.exchange.report.records = madeAgain.map AppliedSwing.record := by
    rw [Report.records, Exchange.report, swingsAgain, unswung]
    rfl
  have followed : fight'.run observer' catalog again.exchange.report.records =
      (.ok (), final') := by
    rw [records, Fight.run, enough']
    exact ran'
  refine ⟨final'.exchange.report, final'.toScene, resolve_of_run begun' followed, endAlike.field,
    ?_, ?_, endAlike.spawned, ?_⟩
  · exact congrArg Array.toList endAlike.swings
  · exact congrArg (·.getD .exhausted) endAlike.ending
  · intro unled same
    rw [← drawn, ← drawn'] at same
    exact calm unled same undisputed

/-- Whoever plays the raider's attack on the guard over sees what its leader saw. -/
theorem resolve_replays_skirmish :
    ∃ report final report' final',
      resolve .recorder {} ⟨0⟩ ⟨1⟩ 0 []
          ⟨.skirmish, ScriptedDice.ofArray #[10, 60, 35], {}⟩ = (.ok report, final) ∧
        resolve .silent {} ⟨0⟩ ⟨1⟩ 0 report.records
          ⟨.skirmish, ScriptedDice.ofArray #[99, 0], ()⟩ = (.ok report', final') ∧
        final'.field = final.field ∧ report'.swings = report.swings := by
  rcases begin_skirmish Observer.recorder_leavesField (ScriptedDice.ofArray #[10, 60, 35]) {} with
    ⟨fight, begun⟩
  rcases resolve_replays Observer.recorder_leavesField {} [] begun with
    ⟨report, final, resolved, followers⟩
  rcases followers Observer.silent_leavesField (ScriptedDice.ofArray #[99, 0]) () with
    ⟨report', final', resolved', field, swings, -⟩
  exact ⟨report, final, report', final', resolved, resolved', field, swings⟩

end Scene
end Hexfield
