import Hexfield.Proofs.Exchange.Transcript

namespace Hexfield

/-!
The life of an exchange: what it announces, and what experience it gives.

An exchange comes to its end in one of three ways: its schedule is used up, someone turns to stone,
or someone dies.  In the first two each combatant learns from the other's level; a death rewards the
killer alone.  As long as the observer leaves the field alone, no other experience is given, and
once the exchange is over nothing more happens.
-/

/-- The experience of a unit; a unit that is gone has none. -/
def Battlefield.experienceOf (field : Battlefield) (id : UnitId) : Option Nat :=
  (field.roster.get? id).map Combatant.experience

/-- The experience that an exchange gives to a part when it ends, by the levels of both. -/
def Ending.gain (rules : Rules) (level : Role → Nat) : Ending → Role → Nat
  | .exhausted, role => level role.other
  | .petrified, role => level role.other
  | .attackerDied, .defender => rules.experienceForKill (level .attacker)
  | .defenderDied, .attacker => rules.experienceForKill (level .defender)
  | _, _ => 0

theorem Ending.gain_killer (rules : Rules) (level : Role → Nat) (victim : Role) :
    victim.death.gain rules level victim.other = rules.experienceForKill (level victim) := by
  cases victim <;> rfl

theorem Ending.gain_peaceful {ending : Ending}
    (peaceful : ending = .exhausted ∨ ending = .petrified) (rules : Rules) (level : Role → Nat)
    (role : Role) : ending.gain rules level role = level role.other := by
  rcases peaceful with rfl | rfl <;> rfl

namespace Battlefield

theorem experienceOf_gain (field : Battlefield) (id other : UnitId) (amount : Nat) :
    (field.update id (·.gainExperience amount)).experienceOf other =
      if id = other then
        (field.experienceOf other).map fun experience => low32 (experience + amount)
      else field.experienceOf other := by
  simp only [experienceOf, update, Roster.get?_update]
  split
  · rw [Option.map_map, Option.map_map]
    rfl
  · rfl

theorem Keeps.experienceOf {before after : Battlefield}
    (keeps : before.Keeps Combatant.experience after) (id : UnitId) :
    after.experienceOf id = before.experienceOf id :=
  keeps.units id

end Battlefield

namespace Fight

variable {ρ σ : Type} {observer : Observer σ} {catalog : Catalog} {fight after : Fight ρ σ}

/-- What an exchange has given when it has ended: the part that has died is gone, and the other, or
each of the two if no one has died, has gained what the ending gives, in the word that holds its
experience; and no one else has gained or lost any, while a unit that has risen has none. -/
structure Rewards (start : Battlefield) (level : Role → Nat) (after : Fight ρ σ)
    (ending : Ending) : Prop where
  fallen : ∀ role : Role, ending = role.death →
    after.field.roster.get? (after.exchange.unitOf role) = none
  gained : ∀ role : Role, ending ≠ role.death →
    after.field.experienceOf (after.exchange.unitOf role) =
      (start.experienceOf (after.exchange.unitOf role)).map
        fun experience => low32 (experience + ending.gain start.rules level role)
  others : ∀ id, id ≠ after.exchange.attacker → id ≠ after.exchange.defender →
    after.field.experienceOf id = start.experienceOf id ∨
      start.roster.get? id = none ∧ after.exchange.spawned.isSome = true ∧
        after.field.experienceOf id = some 0

/-- Rewards may be counted from any field on which everyone has had the same experience. -/
theorem Rewards.of_keeps {first second : Battlefield} {level : Role → Nat} {ending : Ending}
    (rewards : after.Rewards second level ending)
    (keeps : first.Keeps Combatant.experience second) : after.Rewards first level ending := by
  refine ⟨rewards.fallen, fun role alive => ?_, fun id notAttacker notDefender => ?_⟩
  · rw [rewards.gained role alive, keeps.experienceOf, keeps.rules]
  · rw [← keeps.experienceOf, ← keeps.get?_eq_none_iff]
    exact rewards.others id notAttacker notDefender

/-- How an exchange stands when it is over: it has announced what its report tells, and nothing
else; it has named once the hexes where it began; and it has given the experience that its ending
gives.  The grave is where the part that has died stood, and the master of a unit that has risen is
the side of its killer. -/
structure Concluded (start : Battlefield) (attacker defender : UnitId) (weapon : Nat)
    (found : Pairing) (final : Fight ρ (σ × Transcript)) (ending : Ending) : Prop where
  between : final.exchange.attacker = attacker ∧ final.exchange.defender = defender
  uninterrupted : ending ≠ .interrupted
  announced : ∃ grave risen master,
    final.memory.2.events = final.exchange.report.chronicle weapon grave risen master ∧
      ∀ part : Role, ending = part.death →
        grave = (found.unitOf part).hex ∧ master = (found.unitOf part.other).side
  bloodless : final.exchange.spawned.isSome = true → ∃ part : Role, ending = part.death
  invalidated : final.memory.2.invalidations = [[found.attacker.hex, found.defender.hex]]
  rewards : final.Rewards start (fun part => (found.unitOf part).level) ending

/-! ## The endings -/

/-- Where both combatants are left, each gains the level of the other. -/
theorem field_settled {level : Role → Nat}
    (levels : ∀ role, (fight.field.roster.get? (fight.exchange.unitOf role)).map Combatant.level =
      some (level role)) {ending : Ending}
    (peaceful : ending = .exhausted ∨ ending = .petrified) :
    (fight.settled ending).field =
      (fight.field.update fight.exchange.attacker (·.gainExperience (level .defender))).update
        fight.exchange.defender (·.gainExperience (level .attacker)) := by
  rcases Option.map_eq_some_iff.mp (levels .attacker) with ⟨attacker, attackerAlive, attackerLevel⟩
  rcases Option.map_eq_some_iff.mp (levels .defender) with ⟨defender, defenderAlive, defenderLevel⟩
  simp only [Exchange.unitOf] at attackerAlive defenderAlive
  rw [← attackerLevel, ← defenderLevel]
  rcases peaceful with rfl | rfl <;>
    simp only [settled, shareExperience, attackerAlive, defenderAlive] <;> rfl

/-- An exchange that ends without a death rewards each combatant with the level of the other. -/
theorem rewards_finish (leaves : observer.LeavesField) (fight : Fight ρ σ)
    (going : fight.exchange.ending = none)
    (distinct : fight.exchange.attacker ≠ fight.exchange.defender) {level : Role → Nat}
    (levels : ∀ role, (fight.field.roster.get? (fight.exchange.unitOf role)).map Combatant.level =
      some (level role)) {ending : Ending}
    (peaceful : ending = .exhausted ∨ ending = .petrified) :
    (fight.finish observer ending).Rewards fight.field level ending := by
  have exchange : (fight.finish observer ending).exchange =
      { fight.exchange with ending := some ending } :=
    exchange_finish ending going
  have field : (fight.finish observer ending).field =
      (fight.field.update fight.exchange.attacker (·.gainExperience (level .defender))).update
        fight.exchange.defender (·.gainExperience (level .attacker)) := by
    rw [finish_of_going ending going, field_dismiss leaves]
    exact field_settled levels peaceful
  refine ⟨?_, ?_, ?_⟩
  · rintro role rfl
    rcases peaceful with died | died <;> cases role <;> cases died
  · intro role _
    rw [field, exchange, Ending.gain_peaceful peaceful, Battlefield.experienceOf_gain,
      Battlefield.experienceOf_gain]
    cases role with
    | attacker => exact (if_neg (Ne.symm distinct)).trans (if_pos rfl)
    | defender =>
        rw [Exchange.unitOf, if_pos rfl, if_neg distinct]
        rfl
  · intro id notAttacker notDefender
    rw [exchange] at notAttacker notDefender
    left
    rw [field, Battlefield.experienceOf_gain, Battlefield.experienceOf_gain,
      if_neg (Ne.symm notDefender), if_neg (Ne.symm notAttacker)]

/-- A unit that rises takes a new slot and has no experience, and no one else is touched by it. -/
theorem experienceOf_haunted (leaves : observer.LeavesField) (catalog : Catalog)
    (contagion : Option String) (side : Side) (hex : Hex) (fight : Fight ρ σ) (id : UnitId) :
    let haunted := fight.haunted observer catalog contagion side hex
    haunted.field.experienceOf id = fight.field.experienceOf id ∨
      id.val = fight.field.roster.slots.size ∧ haunted.exchange.spawned.isSome = true ∧
        haunted.field.experienceOf id = some 0 := by
  cases contagion with
  | none => exact Or.inl rfl
  | some unitType =>
      simp only [haunted]
      rcases raise_cases observer catalog unitType side hex fight with
        idle | ⟨unit, spawned, field, known, added, rose⟩
      · rw [idle]
        exact Or.inl rfl
      · rcases Battlefield.addUnit_eq_ok added with ⟨roster, inserted, rfl⟩
        rcases Roster.insert_eq_ok inserted with ⟨-, others⟩
        rcases Option.map_eq_some_iff.mp known with ⟨template, -, rfl⟩
        rw [rose, field_announce leaves]
        simp only [Battlefield.experienceOf, others]
        split
        · exact Or.inr ⟨‹_›, rfl, rfl⟩
        · exact Or.inl rfl

/-- Mourning rewards the killer, and takes the victim off the field. -/
theorem experienceOf_mourned (leaves : observer.LeavesField) (role : Role) (victim : Combatant)
    (fight : Fight ρ σ) (id : UnitId) :
    (fight.mourned observer role victim).field.experienceOf id =
      if fight.exchange.opponentOf role = id then none
      else if fight.exchange.unitOf role = id then
        (fight.field.experienceOf id).map fun experience =>
          low32 (experience + fight.field.rules.experienceForKill victim.level)
      else fight.field.experienceOf id := by
  rw [← Battlefield.experienceOf_gain]
  simp only [mourned, field_announce leaves, Battlefield.experienceOf]
  change ((Roster.erase _ _).get? id).map _ = _
  rw [Roster.get?_erase]
  split <;> rfl

/-- After a death the victim has no experience left, the killer has its reward, and a unit that has
risen has taken a new slot and has no experience. -/
theorem experienceOf_resolveDeath (leaves : observer.LeavesField) (catalog : Catalog)
    (going : fight.exchange.ending = none) (role : Role) (killer victim : Combatant)
    (contagion : Option String) (id : UnitId) :
    let after := fight.resolveDeath observer catalog role killer victim contagion
    (after.field.experienceOf id =
        if fight.exchange.opponentOf role = id then none
        else if fight.exchange.unitOf role = id then
          (fight.field.experienceOf id).map fun experience =>
            low32 (experience + fight.field.rules.experienceForKill victim.level)
        else fight.field.experienceOf id) ∨
      id.val = fight.field.roster.slots.size ∧ after.exchange.spawned.isSome = true ∧
        after.field.experienceOf id = some 0 := by
  intro after
  have field : after.field = ((fight.mourned observer role victim).haunted observer catalog
      contagion killer.side victim.hex).field :=
    field_resolveDeath leaves role killer victim contagion going
  rw [spawned_resolveDeath role killer victim contagion going, field,
    ← experienceOf_mourned leaves role victim fight id,
    ← size_slots_mourned leaves role victim fight]
  exact experienceOf_haunted leaves catalog contagion killer.side victim.hex _ id

/-- A death rewards the killer alone. -/
theorem rewards_resolveDeath (leaves : observer.LeavesField) (catalog : Catalog)
    (fight : Fight ρ σ) (going : fight.exchange.ending = none)
    (distinct : fight.exchange.attacker ≠ fight.exchange.defender)
    (alive : ∀ role, fight.field.roster.get? (fight.exchange.unitOf role) ≠ none)
    {level : Role → Nat} {role : Role} (killer : Combatant) {victim : Combatant}
    (victimLevel : victim.level = level role.other) (contagion : Option String) :
    (fight.resolveDeath observer catalog role killer victim contagion).Rewards fight.field level
      role.other.death := by
  have unitOf : ∀ part, (fight.resolveDeath observer catalog role killer victim
      contagion).exchange.unitOf part = fight.exchange.unitOf part :=
    unitOf_resolveDeath catalog role killer victim contagion going
  have reward := experienceOf_resolveDeath leaves catalog going role killer victim contagion
  have fresh : ∀ id : UnitId, id.val = fight.field.roster.slots.size →
      fight.field.roster.get? id = none := by
    intro id last
    cases present : fight.field.roster.get? id with
    | none => rfl
    | some unit =>
        exact absurd (Roster.lt_size_of_get? present) (Nat.not_lt.mpr (Nat.le_of_eq last.symm))
  have old := fun part => (reward (fight.exchange.unitOf part)).resolve_right fun risen =>
    alive part (fresh _ risen.1)
  have opponent := fight.exchange.unitOf_other role
  have apart := Exchange.unitOf_ne_opponentOf distinct role
  refine ⟨?_, ?_, ?_⟩
  · intro part died
    cases Role.death_injective died
    rw [unitOf]
    have gone := (old role.other).trans (if_pos opponent.symm)
    exact Option.map_eq_none_iff.mp gone
  · intro part survived
    rcases Role.eq_or_eq_other role part with rfl | rfl
    · have gain := Ending.gain_killer fight.field.rules level part.other
      rw [Role.other_other] at gain
      rw [unitOf, old part, if_neg (Ne.symm apart), if_pos rfl, gain, victimLevel]
    · exact absurd rfl survived
  · intro id notAttacker notDefender
    have strangers : ∀ part, fight.exchange.unitOf part ≠ id := by
      intro part same
      rw [← unitOf part] at same
      cases part with
      | attacker => exact notAttacker same.symm
      | defender => exact notDefender same.symm
    refine (reward id).imp (fun same => ?_) (And.imp_left (fresh id))
    rw [same, ← opponent, if_neg (strangers role.other), if_neg (strangers role)]

theorem Swung.rewards {role : Role} {profile : StrikeProfile} {striker target : Combatant}
    {record : SwingRecord} (leaves : observer.LeavesField)
    (swung : Swung observer catalog role profile striker target record fight after)
    (going : fight.exchange.ending = none)
    (distinct : fight.exchange.attacker ≠ fight.exchange.defender) {level : Role → Nat}
    (levels : ∀ role, (fight.field.roster.get? (fight.exchange.unitOf role)).map Combatant.level =
      some (level role)) (targetLevel : target.level = level role.other) {ending : Ending}
    (ended : after.exchange.ending = some ending) :
    after.Rewards fight.field level ending := by
  cases swung with
  | missed => cases going.symm.trans ended
  | endured => cases going.symm.trans ended
  | petrified hit survived petrifies =>
      let stopped : Fight ρ σ :=
        { fight with
          field := fight.struck role profile (min record.damage target.hitpoints)
          exchange := { fight.exchange with attackerSwings := 0, defenderSwings := 0 } }
      have stone : (stopped.finish observer .petrified).exchange.ending = some .petrified := by
        rw [exchange_finish]
        exact going
      cases stone.symm.trans ended
      have experience : fight.field.Keeps Combatant.experience stopped.field :=
        keeps_struck _ (fun _ _ => rfl) (fun _ _ => rfl) (fun _ => rfl) role _ fight
      have levels' : ∀ part, (stopped.field.roster.get? (stopped.exchange.unitOf part)).map
          Combatant.level = some (level part) := by
        intro part
        have kept : fight.field.Keeps Combatant.level stopped.field :=
          keeps_struck _ (fun _ _ => rfl) (fun _ _ => rfl) (fun _ => rfl) role _ fight
        rw [kept.units]
        exact levels part
      have rewards := rewards_finish leaves stopped going distinct levels' (Or.inr rfl)
      exact rewards.of_keeps experience
  | killed hit lethal =>
      let dealt := fight.deal role profile (min record.damage target.hitpoints)
      cases (ending_resolveDeath observer catalog role striker target profile.contagion dealt going
        distinct).symm.trans ended
      have experience : fight.field.Keeps Combatant.experience dealt.field :=
        keeps_deal _ (fun _ _ => rfl) (fun _ _ => rfl) role profile _ fight
      have present : ∀ part, dealt.field.roster.get? (dealt.exchange.unitOf part) ≠ none := by
        intro part gone
        rw [experience.get?_eq_none_iff] at gone
        cases (levels part).symm.trans (congrArg (Option.map Combatant.level) gone)
      have rewards := rewards_resolveDeath leaves catalog dealt going distinct present striker
        targetLevel profile.contagion
      exact rewards.of_keeps experience

variable [RollSource ρ]

theorem Closes.rewards {last : Fight ρ σ} (leaves : observer.LeavesField)
    (closes : last.Closes observer catalog after) (ready : last.Ready)
    (distinct : last.exchange.attacker ≠ last.exchange.defender) {level : Role → Nat}
    (levels : ∀ role, (last.field.roster.get? (last.exchange.unitOf role)).map Combatant.level =
      some (level role)) {ending : Ending} (ended : after.exchange.ending = some ending) :
    after.Rewards last.field level ending := by
  cases closes with
  | @usedUp exchange turned =>
      rw [Exchange.TurnsTo] at turned
      have attackerName : exchange.attacker = last.exchange.attacker := by rw [turned]
      have defenderName : exchange.defender = last.exchange.defender := by rw [turned]
      have going : exchange.ending = none := by
        rw [turned]
        exact ready.going
      rw [exchange_finish _ going] at ended
      cases ended
      apply rewards_finish leaves { last with exchange } going
      · rw [attackerName, defenderName]
        exact distinct
      · intro part
        rw [Exchange.unitOf_congr attackerName defenderName]
        exact levels part
      · exact Or.inl rfl
  | @felled _ _ role exchange pairing given _ _ due swung _ =>
      have quiet := due.quiet_bookedDue given
      have target := levels role.other
      rw [Exchange.unitOf_other, due.target_alive] at target
      apply swung.rewards leaves ((due.bookedDue_same given).2.2.2.trans ready.going)
      · rw [quiet.attacker, quiet.defender]
        exact distinct
      · intro part
        rw [Exchange.unitOf_congr quiet.attacker quiet.defender]
        exact levels part
      · exact Option.some.inj target
      · exact ended

end Fight

/-! ## A whole exchange -/

/-- A unit with all the experience that a word can hold. -/
def Combatant.veteran (unit : Combatant) : Combatant :=
  { unit with experience := 4294967295 }

def Battlefield.veterans : Battlefield :=
  { skirmish with
    roster :=
      { skirmish.roster with
        slots := #[some Combatant.raider.veteran, some Combatant.guard.veteran] } }

namespace Scene

variable {ρ σ : Type} [RollSource ρ] {observer : Observer σ} {scene : Scene ρ σ}
  {attacker defender : UnitId} {weapon : Nat} {fight : Fight ρ (σ × Transcript)}

theorem concluded_of_steps (leaves : observer.LeavesField) (catalog : Catalog)
    (distinct : attacker ≠ defender)
    (begun : scene.logged.begin observer.logged attacker defender weapon = .ok fight)
    (records : List (Option SwingRecord)) {ending : Ending}
    (ended : (fight.steps observer.logged catalog records).exchange.ending = some ending) :
    ∃ found, scene.field.pairing attacker defender weapon = .ok found ∧
      (fight.steps observer.logged catalog records).Concluded scene.field attacker defender weapon
        found ending := by
  rcases ready_of_begin leaves.logged begun with ⟨-, -, ready, -⟩
  rcases ready.steps_closes observer.logged catalog records ended with
    ⟨last, quiet, lastReady, closes⟩
  rcases exists_continues leaves.logged begun quiet with ⟨found, continues⟩
  rcases continues.between with ⟨attackerName, defenderName, -⟩
  rcases closes.combatants lastReady.going with ⟨attackerSame, defenderSame⟩
  rcases continues.exists_pairing with ⟨later, paired, same⟩
  have attacked : last.memory.2 =
      { events := [⟨0, .attack last.exchange.attacker last.exchange.defender weapon⟩] } := by
    rw [quiet.memory, transcript_begin leaves begun, attackerName, defenderName]
  rcases closes.chronicle lastReady continues.unspawned attacked paired with
    ⟨ending', grave, risen, master, ended', uninterrupted, bloodless, told, whose⟩
  cases ended'.symm.trans ended
  have levels : ∀ part, (last.field.roster.get? (last.exchange.unitOf part)).map Combatant.level =
      some (found.unitOf part).level := by
    intro part
    rcases continues.alive part with ⟨unit, alive, lasting⟩
    rw [alive]
    exact congrArg some (congrArg Combatant.level lasting :)
  have apart : last.exchange.attacker ≠ last.exchange.defender := by
    rw [attackerName, defenderName]
    exact distinct
  have rewards := closes.rewards leaves.logged lastReady apart levels ended
  refine ⟨found, continues.paired,
    ⟨attackerSame.trans attackerName, defenderSame.trans defenderName⟩, uninterrupted,
    ⟨grave, risen, master, ?_, fun part died => ?_⟩, bloodless, ?_,
    rewards.of_keeps (continues.keeps.factor Combatant.experience)⟩
  · rw [told]
  · rcases whose part died with ⟨rfl, rfl⟩
    exact ⟨(congrArg Combatant.hex (same part) :),
      (congrArg Combatant.side (same part.other) :)⟩
  · rw [told, continues.hexes]

/-- The life of an exchange between two units, with a transcript of all that is announced.

If it begins at all, then resolving the attack comes to its end; and whichever steps bring it to its
end, with whatever records, it stands concluded, and no further step does anything.  If it cannot
begin because the weapon has no strikes, nothing has happened. -/
theorem exchange_concludes (leaves : observer.LeavesField) (catalog : Catalog)
    (scene : Scene ρ σ) {attacker defender : UnitId} (distinct : attacker ≠ defender)
    (weapon : Nat) :
    (∀ fight, scene.logged.begin observer.logged attacker defender weapon = .ok fight →
      (∀ given : List SwingRecord, ∃ records ending,
        let final := fight.steps observer.logged catalog records
        scene.logged.resolve observer.logged catalog attacker defender weapon given =
            (.ok final.exchange.report, final.toScene) ∧
          final.exchange.ending = some ending) ∧
      ∀ (records : List (Option SwingRecord)) (ending : Ending),
        let final := fight.steps observer.logged catalog records
        final.exchange.ending = some ending →
          (∃ found, scene.field.pairing attacker defender weapon = .ok found ∧
            final.Concluded scene.field attacker defender weapon found ending) ∧
          ∀ record, final.step observer.logged catalog record = (.ok none, final)) ∧
    ∀ id, scene.logged.begin observer.logged attacker defender weapon =
        .error (.cannotInitiate id) →
      ∀ given, scene.logged.resolve observer.logged catalog attacker defender weapon given =
        (.error (.cannotInitiate id), scene.logged) := by
  constructor
  · intro fight begun
    refine ⟨fun given => ?_, ?_⟩
    · rcases ready_of_begin leaves.logged begun with ⟨-, -, ready, -⟩
      rcases ready.run_ends observer.logged catalog given with ⟨records, ending, ran, ended⟩
      exact ⟨records, ending, resolve_of_run begun ran, ended⟩
    · intro records ending final ended
      exact ⟨concluded_of_steps leaves catalog distinct begun records ended,
        fun record => Fight.step_of_ended ended record⟩
  · intro id refused given
    rw [resolve, refused]

/-- The raider's attack on the guard concludes, also with a record given to its first swing. -/
theorem exchange_concludes_skirmish :
    ∃ (fight : Fight ScriptedDice (Unit × Transcript)) (records : List (Option SwingRecord))
      (ending : Ending) (found : Pairing),
      let scene := (Scene.mk .skirmish (ScriptedDice.ofArray #[10, 60, 35]) ()).logged
      let final := fight.steps Observer.silent.logged {} records
      scene.begin Observer.silent.logged ⟨0⟩ ⟨1⟩ 0 = .ok fight ∧
        scene.resolve Observer.silent.logged {} ⟨0⟩ ⟨1⟩ 0 [⟨false, 9, 60, true⟩] =
          (.ok final.exchange.report, final.toScene) ∧
        Battlefield.skirmish.pairing ⟨0⟩ ⟨1⟩ 0 = .ok found ∧
        final.Concluded .skirmish ⟨0⟩ ⟨1⟩ 0 found ending := by
  rcases begin_skirmish Observer.silent_leavesField.logged (ScriptedDice.ofArray #[10, 60, 35])
    ((), {}) with ⟨fight, begun⟩
  have life := exchange_concludes Observer.silent_leavesField {}
    ⟨.skirmish, ScriptedDice.ofArray #[10, 60, 35], ()⟩ (by decide : (⟨0⟩ : UnitId) ≠ ⟨1⟩) 0
  rcases life.1 fight begun with ⟨ends, concludes⟩
  rcases ends [⟨false, 9, 60, true⟩] with ⟨records, ending, resolved, ended⟩
  rcases (concludes records ending ended).1 with ⟨found, paired, concluded⟩
  exact ⟨fight, records, ending, found, begun, resolved, paired, concluded⟩

/-- However the exchange of the veterans ends, one of them has survived it, and its experience is
not the sum of what it was and what the ending gives. -/
theorem veteran_forgets :
    ∃ (fight : Fight ScriptedDice (Unit × Transcript)) (records : List (Option SwingRecord))
      (ending : Ending) (part : Role),
      let scene := (Scene.mk .veterans (ScriptedDice.ofArray #[10, 60, 35]) ()).logged
      let final := fight.steps Observer.silent.logged {} records
      let veteran := final.exchange.unitOf part
      scene.begin Observer.silent.logged ⟨0⟩ ⟨1⟩ 0 = .ok fight ∧
        final.exchange.ending = some ending ∧ ending ≠ part.death ∧
        Battlefield.veterans.experienceOf veteran = some 4294967295 ∧
        final.field.experienceOf veteran ≠
          some (4294967295 + ending.gain Battlefield.veterans.rules (fun _ => 1) part) := by
  let start : Scene ScriptedDice Unit := ⟨.veterans, ScriptedDice.ofArray #[10, 60, 35], ()⟩
  have leaves := Observer.silent_leavesField
  let pairing := Battlefield.veterans.pair Combatant.raider.veteran Combatant.guard.veteran 0
    .bloodSword
  have paired : start.logged.field.pairing ⟨0⟩ ⟨1⟩ 0 = .ok pairing :=
    Battlefield.pairing_eq_ok_iff.mpr ⟨_, _, .bloodSword, rfl, rfl, rfl, rfl⟩
  rcases begin_of_pairing leaves.logged paired (by decide) with ⟨fight, begun, -⟩
  rcases ready_of_begin leaves.logged begun with ⟨-, -, ready, -⟩
  rcases ready.run_ends Observer.silent.logged {} [] with ⟨records, ending, -, ended⟩
  rcases concluded_of_steps leaves {} (by decide : (⟨0⟩ : UnitId) ≠ ⟨1⟩) begun records ended with
    ⟨found, same, concluded⟩
  cases same.symm.trans paired
  have levels : (fun part => (pairing.unitOf part).level) = fun _ => 1 := by
    funext part
    cases part <;> rfl
  let final := fight.steps Observer.silent.logged {} records
  have full : ∀ part : Role,
      Battlefield.veterans.experienceOf (final.exchange.unitOf part) = some 4294967295 := by
    rcases concluded.between with ⟨attackerName, defenderName⟩
    rintro (_ | _)
    · rw [Exchange.unitOf, attackerName]
      rfl
    · rw [Exchange.unitOf, defenderName]
      rfl
  have wrapped : ∀ part : Role, ending ≠ part.death →
      low32 (4294967295 + ending.gain Battlefield.veterans.rules (fun _ => 1) part) ≠
        4294967295 + ending.gain Battlefield.veterans.rules (fun _ => 1) part := by
    have uninterrupted := concluded.uninterrupted
    rintro (_ | _)
    · cases ending <;> first | decide | exact absurd rfl uninterrupted
    · cases ending <;> first | decide | exact absurd rfl uninterrupted
  obtain ⟨part, survived⟩ : ∃ part : Role, ending ≠ part.death := by
    by_cases died : ending = .attackerDied
    · exact ⟨.defender, by rw [died]; decide⟩
    · exact ⟨.attacker, died⟩
  refine ⟨fight, records, ending, part, begun, ended, survived, full part, ?_⟩
  rw [concluded.rewards.gained part survived, full part, levels]
  exact fun same => wrapped part survived (Option.some.inj same)

end Scene
end Hexfield
