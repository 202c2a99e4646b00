import Hexfield.Proofs.Exchange.Quiet

namespace Hexfield

/-!
What an exchange announces, from first to last.

An observer is told of the attack, of a death and of a rising, and of the end, and then which hexes
to look at anew.  What it makes of this is its own affair, and so is what it remembers; with a
transcript beside its memory it does to the field what it does without, and the transcript tells
what it was told.
-/

/-- What an observer has been told: events, and around which hexes its knowledge is out of date. -/
structure Transcript where
  events : List Event := []
  invalidations : List (List Hex) := []
deriving DecidableEq

namespace Transcript

def hear (transcript : Transcript) (events : List Event) : Transcript :=
  { transcript with events := transcript.events ++ events }

def invalidate (transcript : Transcript) (hexes : List Hex) : Transcript :=
  { transcript with invalidations := transcript.invalidations ++ [hexes] }

theorem hear_nil (transcript : Transcript) : transcript.hear [] = transcript := by
  simp [hear]

theorem hear_hear (transcript : Transcript) (events events' : List Event) :
    (transcript.hear events).hear events' = transcript.hear (events ++ events') := by
  simp [hear]

end Transcript

/-- An observer that keeps a transcript beside its memory. -/
def Observer.logged {σ : Type} (observer : Observer σ) : Observer (σ × Transcript) where
  notify := fun event field memory =>
    let told := observer.notify event field memory.1
    (told.1, told.2, memory.2.hear [event])
  invalidate := fun hexes memory => (observer.invalidate hexes memory.1, memory.2.invalidate hexes)

theorem Observer.LeavesField.logged {σ : Type} {observer : Observer σ}
    (leaves : observer.LeavesField) : observer.logged.LeavesField :=
  fun event field memory => leaves event field memory.1

/-- The scene for an observer with an empty transcript. -/
def Scene.logged {ρ σ : Type} (scene : Scene ρ σ) : Scene ρ (σ × Transcript) :=
  { scene with memory := (scene.memory, {}) }

def Scene.forget {ρ σ : Type} (scene : Scene ρ (σ × Transcript)) : Scene ρ σ :=
  { scene with memory := scene.memory.1 }

namespace Fight

variable {ρ σ : Type} {observer : Observer σ} {catalog : Catalog}

/-! ## A transcript changes nothing -/

def forget (fight : Fight ρ (σ × Transcript)) : Fight ρ σ :=
  { fight with memory := fight.memory.1 }

theorem forget_shareExperience (fight : Fight ρ (σ × Transcript)) :
    fight.shareExperience.forget = fight.forget.shareExperience := by
  have sameField : fight.forget.field = fight.field := rfl
  have sameExchange : fight.forget.exchange = fight.exchange := rfl
  unfold shareExperience
  rw [sameField, sameExchange]
  cases fight.field.roster.get? fight.exchange.attacker with
  | none => rfl
  | some attacker =>
      cases fight.field.roster.get? fight.exchange.defender with
      | none => rfl
      | some defender => rfl

theorem forget_settled (ending : Ending) (fight : Fight ρ (σ × Transcript)) :
    (fight.settled ending).forget = fight.forget.settled ending := by
  unfold settled
  cases ending with
  | exhausted => exact forget_shareExperience _
  | petrified => exact forget_shareExperience _
  | attackerDied => rfl
  | defenderDied => rfl
  | interrupted => rfl

theorem forget_finish (ending : Ending) (fight : Fight ρ (σ × Transcript)) :
    (fight.finish observer.logged ending).forget = fight.forget.finish observer ending := by
  rw [finish_eq, finish_eq, ← forget_settled]
  change _ = if fight.exchange.isFinished then _ else _
  split
  · rfl
  · rfl

theorem forget_unlessRemoved (fight : Fight ρ (σ × Transcript)) :
    (fight.unlessRemoved observer.logged).forget = fight.forget.unlessRemoved observer := by
  unfold unlessRemoved
  change _ = if fight.exchange.bothPresent fight.field then _ else _
  split
  · rfl
  · exact forget_finish ..

theorem forget_raise (unitType : String) (side : Side) (hex : Hex)
    (fight : Fight ρ (σ × Transcript)) :
    (fight.raise observer.logged catalog unitType side hex).forget =
      fight.forget.raise observer catalog unitType side hex := by
  unfold raise
  cases catalog.instantiate unitType side hex with
  | none => rfl
  | some unit =>
      have sameField : fight.forget.field = fight.field := rfl
      simp only [sameField]
      cases fight.field.addUnit unit with
      | error fault => rfl
      | ok added => rfl

theorem forget_resolveDeath (role : Role) (killer victim : Combatant) (contagion : Option String)
    (fight : Fight ρ (σ × Transcript)) :
    (fight.resolveDeath observer.logged catalog role killer victim contagion).forget =
      fight.forget.resolveDeath observer catalog role killer victim contagion := by
  unfold resolveDeath
  rw [forget_finish]
  cases contagion with
  | none => rfl
  | some unitType =>
      simp only
      rw [forget_raise]
      rfl

theorem forget_applyHit (role : Role) (profile : StrikeProfile) (striker target : Combatant)
    (record : SwingRecord) (fight : Fight ρ (σ × Transcript)) :
    (fight.applyHit observer.logged catalog role profile striker target record).forget =
      fight.forget.applyHit observer catalog role profile striker target record := by
  unfold applyHit
  simp only
  split
  · exact forget_resolveDeath ..
  · split
    · exact forget_finish ..
    · rfl

variable [RollSource ρ]

theorem forget_swing (role : Role) (profile : StrikeProfile) (striker target : Combatant)
    (given : Option SwingRecord) (fight : Fight ρ (σ × Transcript)) :
    Prod.map id forget
        (fight.swing observer.logged catalog role profile striker target given) =
      fight.forget.swing observer catalog role profile striker target given := by
  rw [swing_eq, swing_eq]
  change (fight.nextRecord profile target given, _) = (fight.nextRecord profile target given, _)
  apply congrArg (Prod.mk _)
  change forget _ = if (fight.nextRecord profile target given).hit then _ else _
  split
  · exact forget_applyHit ..
  · rfl

theorem forget_step (given : Option SwingRecord) (fight : Fight ρ (σ × Transcript)) :
    Prod.map id forget (fight.step observer.logged catalog given) =
      fight.forget.step observer catalog given := by
  have exhausted : ∀ exchange : Exchange,
      ({ fight with exchange }.finish observer.logged .exhausted).forget =
        { fight.forget with exchange }.finish observer .exhausted :=
    fun exchange => forget_finish .exhausted { fight with exchange }
  have sameStriker : fight.forget.exchange.nextStriker = fight.exchange.nextStriker := rfl
  have samePairing : fight.forget.field.pairing = fight.field.pairing := rfl
  unfold step
  rw [sameStriker]
  rcases fight.exchange.nextStriker with ⟨_ | role, exchange⟩
  · exact congrArg (Prod.mk _) (exhausted exchange)
  · simp only [samePairing]
    cases fight.field.pairing exchange.attacker exchange.defender exchange.weapon with
    | error fault => rfl
    | ok pairing =>
        have sameMatchup : pairing.matchup fight.forget.field = pairing.matchup fight.field := rfl
        simp only [sameMatchup]
        rcases exchange.armedStriker role
          (pairing.matchup fight.field).defender.weapon.isSome with ⟨_ | role, exchange⟩
        · exact congrArg (Prod.mk _) (exhausted exchange)
        · cases role with
          | attacker =>
              exact congrArg (fun swung => (Except.ok (some swung.1), swung.2))
                (forget_swing .attacker _ _ _ given { fight with exchange })
          | defender =>
              exact congrArg (fun swung => (Except.ok (some swung.1), swung.2))
                (forget_swing .defender _ _ _ given { fight with exchange })

theorem forget_runFor (limit : Nat) (given : List SwingRecord)
    (fight : Fight ρ (σ × Transcript)) :
    Prod.map id forget (fight.runFor observer.logged catalog limit given) =
      fight.forget.runFor observer catalog limit given := by
  induction limit generalizing fight given with
  | zero => rfl
  | succ limit ih =>
      have sameFinish : fight.forget.exchange.isFinished = fight.exchange.isFinished := rfl
      unfold runFor
      rw [sameFinish, ← forget_step]
      split
      · rfl
      · rcases fight.step observer.logged catalog given.head? with ⟨_ | _ | record, after⟩
        · rfl
        · rfl
        · exact ih given.tail after

end Fight

namespace Scene

variable {ρ σ : Type} {observer : Observer σ} {catalog : Catalog}

theorem forget_begin (attacker defender : UnitId) (weapon : Nat)
    (scene : Scene ρ (σ × Transcript)) :
    (scene.begin observer.logged attacker defender weapon).map Fight.forget =
      scene.forget.begin observer attacker defender weapon := by
  have sameField : scene.forget.field = scene.field := rfl
  rw [begin_eq, begin_eq, sameField]
  simp only [bind, Except.bind]
  cases scene.field.unit attacker with
  | error fault => rfl
  | ok attackerUnit =>
      simp only
      cases attackerUnit.weapon weapon with
      | error fault => rfl
      | ok chosen =>
          simp only
          split
          · rfl
          · cases scene.field.pairing attacker defender weapon with
            | error fault => rfl
            | ok pairing => exact congrArg Except.ok (Fight.forget_unlessRemoved _)

/-- An attack with a transcript is the attack without it. -/
theorem forget_resolve [RollSource ρ] (attacker defender : UnitId) (weapon : Nat)
    (given : List SwingRecord) (scene : Scene ρ (σ × Transcript)) :
    Prod.map id forget (scene.resolve observer.logged catalog attacker defender weapon given) =
      scene.forget.resolve observer catalog attacker defender weapon given := by
  unfold resolve
  rw [← forget_begin]
  cases scene.begin observer.logged attacker defender weapon with
  | error fault => rfl
  | ok fight =>
      have ran : Prod.map id Fight.forget (fight.run observer.logged catalog given) =
          fight.forget.run observer catalog given :=
        Fight.forget_runFor _ given fight
      simp only [Except.map, ← ran]
      rfl

end Scene

/-! ## From the attack to its end -/

/-- The deaths that are announced of an exchange: one, if it has ended with a death. -/
def Report.deaths (report : Report) (grave : Hex) : List Announcement :=
  match report.ending with
  | .attackerDied => [.death report.attacker report.defender grave]
  | .defenderDied => [.death report.defender report.attacker grave]
  | _ => []

/-- The risings that are announced of an exchange: one, if a unit has risen. -/
def Report.risings (report : Report) (grave : Hex) (risen : String) (master : Side) :
    List Announcement :=
  report.spawned.toList.map fun spawned => .contagionSpawn spawned risen master grave

/-- What is announced when an exchange ends, all of it after the last swing.  The number of swings
is told in a word. -/
def Report.closing (report : Report) (grave : Hex) (risen : String) (master : Side) : List Event :=
  (report.deaths grave ++ report.risings grave risen master ++
    [Announcement.attackEnd report.attacker report.defender report.ending]).map
      (Event.mk (low32 report.swings.length))

/-- All that is announced of an exchange: the attack before the first swing, and the rest after the
last. -/
def Report.chronicle (report : Report) (weapon : Nat) (grave : Hex) (risen : String)
    (master : Side) : List Event :=
  ⟨0, .attack report.attacker report.defender weapon⟩ :: report.closing grave risen master

theorem Role.death_injective {first second : Role} (same : first.death = second.death) :
    first = second := by
  cases first <;> cases second <;> first | rfl | cases same

namespace Fight

variable {ρ σ : Type} {observer : Observer σ} {catalog : Catalog}

/-- The end of an exchange is announced, and after that the hexes where it began are invalidated. -/
theorem transcript_finish {fight : Fight ρ (σ × Transcript)}
    (going : fight.exchange.ending = none) (ending : Ending) :
    (fight.finish observer.logged ending).memory.2 =
      (fight.memory.2.hear [⟨low32 fight.exchange.swings.size,
        .attackEnd fight.exchange.attacker fight.exchange.defender ending⟩]).invalidate
          fight.exchange.hexes := by
  rw [finish_of_going ending going]
  simp only [dismiss, Observer.logged, announce, exchange_settled, memory_settled]

theorem transcript_raise {fight : Fight ρ (σ × Transcript)}
    (unspawned : fight.exchange.spawned = none) (unitType : String) (side : Side) (hex : Hex) :
    let raised := fight.raise observer.logged catalog unitType side hex
    raised.memory.2 = fight.memory.2.hear
      (raised.exchange.spawned.toList.map fun spawned =>
        ⟨low32 fight.exchange.swings.size, .contagionSpawn spawned unitType side hex⟩) := by
  intro raised
  rcases raise_cases observer.logged catalog unitType side hex fight with
    idle | ⟨_, spawned, _, -, -, rose⟩
  · simp only [raised, idle, unspawned]
    exact (Transcript.hear_nil _).symm
  · simp only [raised, rose]
    rfl

theorem transcript_haunted {fight : Fight ρ (σ × Transcript)}
    (unspawned : fight.exchange.spawned = none) (contagion : Option String) (side : Side)
    (hex : Hex) :
    ∃ risen,
      let haunted := fight.haunted observer.logged catalog contagion side hex
      haunted.memory.2 = fight.memory.2.hear
        (haunted.exchange.spawned.toList.map fun spawned =>
          ⟨low32 fight.exchange.swings.size, .contagionSpawn spawned risen side hex⟩) := by
  cases contagion with
  | none =>
      refine ⟨"", ?_⟩
      simp only [haunted, unspawned]
      exact (Transcript.hear_nil _).symm
  | some unitType => exact ⟨unitType, transcript_raise unspawned unitType side hex⟩

/-- The exchange that ends with a death has its victim and its killer in the report. -/
theorem deaths_report {exchange : Exchange} {role : Role}
    (ended : exchange.ending =
      some (if exchange.opponentOf role = exchange.defender then .defenderDied else .attackerDied))
    (grave : Hex) :
    exchange.report.deaths grave =
      [.death (exchange.opponentOf role) (exchange.unitOf role) grave] := by
  have ending : exchange.report.ending =
      if exchange.opponentOf role = exchange.defender then .defenderDied else .attackerDied := by
    rw [Exchange.report, ended]
    rfl
  cases role with
  | attacker =>
      rw [Report.deaths, ending, Exchange.opponentOf, if_pos rfl]
      rfl
  | defender =>
      rw [Report.deaths, ending]
      by_cases same : exchange.attacker = exchange.defender
      · rw [Exchange.opponentOf, if_pos same]
        simp only [Exchange.report, Exchange.unitOf, same]
      · rw [Exchange.opponentOf, if_neg same]
        rfl

/-- A death is announced, then a rising if there is one, and then the end. -/
theorem transcript_resolveDeath {fight : Fight ρ (σ × Transcript)}
    (going : fight.exchange.ending = none) (unspawned : fight.exchange.spawned = none)
    (role : Role) (killer victim : Combatant) (contagion : Option String) :
    ∃ risen,
      let after := fight.resolveDeath observer.logged catalog role killer victim contagion
      after.memory.2 =
        (fight.memory.2.hear
          (after.exchange.report.closing victim.hex risen killer.side)).invalidate
            fight.exchange.hexes := by
  let mourned := fight.mourned observer.logged role victim
  let haunted := mourned.haunted observer.logged catalog contagion killer.side victim.hex
  have books : haunted.exchange = { fight.exchange with spawned := haunted.exchange.spawned } :=
    exchange_haunted contagion killer.side victim.hex mourned
  have stillGoing : haunted.exchange.ending = none := by
    rw [books]
    exact going
  have mourning : mourned.memory.2 = fight.memory.2.hear
      [⟨low32 fight.exchange.swings.size,
        .death (fight.exchange.opponentOf role) (fight.exchange.unitOf role) victim.hex⟩] := rfl
  have haunting : ∃ risen, haunted.memory.2 = mourned.memory.2.hear
      (haunted.exchange.spawned.toList.map fun spawned =>
        ⟨low32 fight.exchange.swings.size, .contagionSpawn spawned risen killer.side victim.hex⟩) :=
    transcript_haunted (show mourned.exchange.spawned = none from unspawned) contagion killer.side
      victim.hex
  rcases haunting with ⟨risen, haunting⟩
  refine ⟨risen, ?_⟩
  intro after
  have frame : after.exchange =
      { fight.exchange with
        spawned := after.exchange.spawned
        ending := some (if fight.exchange.opponentOf role = fight.exchange.defender then
          .defenderDied else .attackerDied) } :=
    exchange_resolveDeath catalog role killer victim contagion going
  have spawned : after.exchange.spawned = haunted.exchange.spawned :=
    spawned_resolveDeath role killer victim contagion going
  have farewell : after.memory.2 = (haunted.memory.2.hear [⟨low32 haunted.exchange.swings.size,
      .attackEnd haunted.exchange.attacker haunted.exchange.defender
        (if fight.exchange.opponentOf role = fight.exchange.defender then .defenderDied
          else .attackerDied)⟩]).invalidate haunted.exchange.hexes := by
    simp only [after, resolveDeath_eq]
    exact transcript_finish stillGoing _
  have deaths : after.exchange.report.deaths victim.hex =
      [.death (fight.exchange.opponentOf role) (fight.exchange.unitOf role) victim.hex] := by
    rw [frame]
    exact deaths_report rfl victim.hex
  rw [farewell, haunting, mourning, Transcript.hear_hear, Transcript.hear_hear, books,
    Report.closing, deaths, Report.risings]
  rw [frame]
  simp only [Exchange.report, spawned, List.map_append, List.map_map, List.map_cons, List.map_nil,
    List.append_assoc, Array.length_toList, Option.getD_some]
  rfl

/-- Where no one has died and no one has risen, only the end is announced. -/
theorem closing_of_bloodless {exchange : Exchange} {ending : Ending}
    (ended : exchange.ending = some ending) (bloodless : ∀ part : Role, ending ≠ part.death)
    (unspawned : exchange.spawned = none) (grave : Hex) (risen : String) (master : Side) :
    exchange.report.closing grave risen master =
      [⟨low32 exchange.swings.size, .attackEnd exchange.attacker exchange.defender ending⟩] := by
  have deaths : exchange.report.deaths grave = [] := by
    rw [Report.deaths, Exchange.report, ended]
    cases ending with
    | attackerDied => exact absurd rfl (bloodless .attacker)
    | defenderDied => exact absurd rfl (bloodless .defender)
    | exhausted => rfl
    | petrified => rfl
    | interrupted => rfl
  rw [Report.closing, deaths, Report.risings]
  simp only [Exchange.report, unspawned, ended]
  rfl

theorem transcript_finish_bloodless {fight : Fight ρ (σ × Transcript)}
    (going : fight.exchange.ending = none) (unspawned : fight.exchange.spawned = none)
    {ending : Ending} (bloodless : ∀ part : Role, ending ≠ part.death) (grave : Hex)
    (risen : String) (master : Side) :
    let after := fight.finish observer.logged ending
    after.memory.2 =
      (fight.memory.2.hear (after.exchange.report.closing grave risen master)).invalidate
        fight.exchange.hexes := by
  intro after
  have ended : after.exchange = { fight.exchange with ending := some ending } :=
    exchange_finish ending going
  rw [transcript_finish going, closing_of_bloodless (congrArg Exchange.ending ended) bloodless
    ((congrArg Exchange.spawned ended).trans unspawned), ended]

/-- How an exchange comes to its end after its last swing, as far as it can be heard: what is
announced is what the report tells, and then the hexes where the exchange began are invalidated.
The grave is the hex of the part that has died, and the master of a unit that rises is the side of
the other. -/
structure Announces (before after : Fight ρ (σ × Transcript)) (found : Pairing) (ending : Ending) :
    Prop where
  ended : after.exchange.ending = some ending
  uninterrupted : ending ≠ .interrupted
  bloodless : after.exchange.spawned.isSome = true → ∃ part : Role, ending = part.death
  told : ∃ grave risen master,
    after.memory.2 =
        (before.memory.2.hear (after.exchange.report.closing grave risen master)).invalidate
          before.exchange.hexes ∧
      ∀ part : Role, ending = part.death →
        grave = (found.unitOf part).hex ∧ master = (found.unitOf part.other).side

/-- What is heard of the end does not depend on what went on before in silence. -/
theorem Announces.of_same {first second after : Fight ρ (σ × Transcript)} {found : Pairing}
    {ending : Ending} (announces : second.Announces after found ending)
    (memory : second.memory = first.memory) (hexes : second.exchange.hexes = first.exchange.hexes) :
    first.Announces after found ending := by
  rcases announces with ⟨ended, uninterrupted, bloodless, grave, risen, master, told, whose⟩
  rw [memory, hexes] at told
  exact ⟨ended, uninterrupted, bloodless, grave, risen, master, told, whose⟩

theorem announces_finish (observer : Observer σ) (fight : Fight ρ (σ × Transcript))
    (going : fight.exchange.ending = none) (unspawned : fight.exchange.spawned = none)
    {ending : Ending} (peaceful : ending = .exhausted ∨ ending = .petrified) (found : Pairing) :
    fight.Announces (fight.finish observer.logged ending) found ending := by
  have bloodless : ∀ part : Role, ending ≠ part.death := by
    rcases peaceful with rfl | rfl <;> intro part <;> cases part <;> simp [Role.death]
  have ended : (fight.finish observer.logged ending).exchange =
      { fight.exchange with ending := some ending } :=
    exchange_finish ending going
  refine ⟨congrArg Exchange.ending ended, ?_, fun spawned => ?_, ⟨0, 0⟩, "", ⟨0⟩,
    transcript_finish_bloodless going unspawned bloodless _ _ _,
    fun part died => absurd died (bloodless part)⟩
  · rcases peaceful with rfl | rfl <;> simp
  · rw [ended] at spawned
    change fight.exchange.spawned.isSome = true at spawned
    rw [unspawned] at spawned
    cases spawned

/-- A death is the death of the part that was hit; where a unit fights itself, either part will
do. -/
theorem exists_victim {exchange : Exchange} {field : Battlefield} {pairing : Pairing}
    (paired : field.pairing exchange.attacker exchange.defender exchange.weapon = .ok pairing)
    (role : Role) :
    ∃ victim : Role, victim.death =
        (if exchange.opponentOf role = exchange.defender then .defenderDied else .attackerDied) ∧
      pairing.unitOf victim = pairing.opponentOf role ∧
      pairing.unitOf victim.other = pairing.unitOf role := by
  cases role with
  | attacker => exact ⟨.defender, (if_pos rfl).symm, rfl, rfl⟩
  | defender =>
      by_cases same : exchange.attacker = exchange.defender
      · rcases Battlefield.units_of_pairing paired with ⟨attackerAlive, defenderAlive⟩
        rw [same, defenderAlive] at attackerAlive
        have sameUnit : pairing.defender = pairing.attacker := Option.some.inj attackerAlive
        exact ⟨.defender, (if_pos same).symm, sameUnit, sameUnit.symm⟩
      · exact ⟨.attacker, (if_neg same).symm, rfl, rfl⟩

theorem announces_resolveDeath (observer : Observer σ) (catalog : Catalog)
    (fight : Fight ρ (σ × Transcript)) (going : fight.exchange.ending = none)
    (unspawned : fight.exchange.spawned = none)
    {field : Battlefield} {pairing : Pairing}
    (paired : field.pairing fight.exchange.attacker fight.exchange.defender fight.exchange.weapon =
      .ok pairing) (role : Role) (contagion : Option String) :
    ∃ ending, fight.Announces
      (fight.resolveDeath observer.logged catalog role (pairing.unitOf role)
        (pairing.opponentOf role) contagion) pairing ending := by
  rcases exists_victim paired role with ⟨victim, died, target, striker⟩
  have ended : (fight.resolveDeath observer.logged catalog role (pairing.unitOf role)
      (pairing.opponentOf role) contagion).exchange.ending = some victim.death := by
    rw [exchange_resolveDeath _ _ _ _ _ going, died]
  rcases transcript_resolveDeath going unspawned role (pairing.unitOf role)
    (pairing.opponentOf role) contagion with ⟨risen, told⟩
  refine ⟨victim.death, ended, ?_, fun _ => ⟨victim, rfl⟩, _, risen, _, told, ?_⟩
  · cases victim <;> simp [Role.death]
  · intro part same
    cases Role.death_injective same
    exact ⟨congrArg Combatant.hex target.symm, congrArg Combatant.side striker.symm⟩

theorem Swung.announces {role : Role} {profile : StrikeProfile} {record : SwingRecord}
    {pairing : Pairing} {fight after : Fight ρ (σ × Transcript)} {ending : Ending}
    (swung : Swung observer.logged catalog role profile (pairing.unitOf role)
      (pairing.opponentOf role) record fight after)
    (going : fight.exchange.ending = none) (unspawned : fight.exchange.spawned = none)
    {field : Battlefield}
    (paired : field.pairing fight.exchange.attacker fight.exchange.defender fight.exchange.weapon =
      .ok pairing) (ended : after.exchange.ending = some ending) :
    ∃ ending, fight.Announces after pairing ending := by
  cases swung with
  | missed => cases going.symm.trans ended
  | endured => cases going.symm.trans ended
  | petrified =>
      refine ⟨.petrified,
        Announces.of_same (announces_finish observer _ ?_ ?_ (Or.inr rfl) pairing) rfl ?_⟩
      · exact going
      · exact unspawned
      · rfl
  | killed =>
      rcases announces_resolveDeath observer catalog
        (fight.deal role profile (min record.damage (pairing.opponentOf role).hitpoints)) going
        unspawned paired role profile.contagion with ⟨died, announces⟩
      exact ⟨died, announces.of_same rfl rfl⟩

variable [RollSource ρ]

theorem Closes.announces {last after : Fight ρ (σ × Transcript)}
    (closes : last.Closes observer.logged catalog after) (ready : last.Ready)
    (unspawned : last.exchange.spawned = none) {pairing : Pairing}
    (paired : last.field.pairing last.exchange.attacker last.exchange.defender
      last.exchange.weapon = .ok pairing) :
    ∃ ending, last.Announces after pairing ending := by
  cases closes with
  | @usedUp exchange turned =>
      rw [Exchange.TurnsTo] at turned
      refine ⟨.exhausted,
        (announces_finish observer _ ?_ ?_ (Or.inl rfl) pairing).of_same rfl ?_⟩
      · rw [turned]
        exact ready.going
      · rw [turned]
        exact unspawned
      · rw [turned]
  | @felled _ _ role exchange _ given _ ending due swung ended =>
      cases due.paired.symm.trans paired
      have quiet := due.quiet_bookedDue given
      rw [← quiet.attacker, ← quiet.defender, ← quiet.weapon] at paired
      rcases swung.announces ((due.bookedDue_same given).2.2.2.trans ready.going)
        (quiet.spawned.trans unspawned) paired ended with ⟨ending, announces⟩
      exact ⟨ending, announces.of_same quiet.memory quiet.hexes⟩

/-- From the attack to its end, an exchange announces what its report tells. -/
theorem Closes.chronicle {last after : Fight ρ (σ × Transcript)}
    (closes : last.Closes observer.logged catalog after) (ready : last.Ready)
    (unspawned : last.exchange.spawned = none) {weapon : Nat}
    (attacked : last.memory.2 =
      { events := [⟨0, .attack last.exchange.attacker last.exchange.defender weapon⟩] })
    {pairing : Pairing}
    (paired : last.field.pairing last.exchange.attacker last.exchange.defender
      last.exchange.weapon = .ok pairing) :
    ∃ ending grave risen master,
      after.exchange.ending = some ending ∧ ending ≠ .interrupted ∧
      (after.exchange.spawned.isSome = true → ∃ part : Role, ending = part.death) ∧
      after.memory.2 =
        { events := after.exchange.report.chronicle weapon grave risen master
          invalidations := [last.exchange.hexes] } ∧
      ∀ part : Role, ending = part.death →
        grave = (pairing.unitOf part).hex ∧ master = (pairing.unitOf part.other).side := by
  rcases closes.announces ready unspawned paired with
    ⟨ending, ended, uninterrupted, bloodless, grave, risen, master, told, whose⟩
  have report : after.exchange.report.attacker = last.exchange.attacker ∧
      after.exchange.report.defender = last.exchange.defender :=
    closes.combatants ready.going
  refine ⟨ending, grave, risen, master, ended, uninterrupted, bloodless, ?_, whose⟩
  rw [told, attacked, Report.chronicle, report.1, report.2]
  rfl

end Fight

/-- An exchange that has begun has announced the attack. -/
theorem Scene.transcript_begin {ρ σ : Type} {observer : Observer σ} (leaves : observer.LeavesField)
    {scene : Scene ρ σ} {attacker defender : UnitId} {weapon : Nat}
    {fight : Fight ρ (σ × Transcript)}
    (begun : scene.logged.begin observer.logged attacker defender weapon = .ok fight) :
    fight.memory.2 = { events := [⟨0, .attack attacker defender weapon⟩] } := by
  rcases pairing_of_begin begun with ⟨found, paired, armed⟩
  cases (begin_eq_announced leaves.logged paired armed).symm.trans begun
  rw [← Battlefield.weaponIndex_of_pairing paired]
  rfl

end Hexfield
