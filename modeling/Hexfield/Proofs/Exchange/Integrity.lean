import Hexfield.Proofs.Battlefield.Contest
import Hexfield.Proofs.Exchange.Order

namespace Hexfield

/-!
An exchange keeps the field in order, whatever records are given to it.

A given record may say anything about a swing.  It is settled with the hitpoints of the target
before it is applied, and what is applied is a blow, a condition, a death or a rising.  Each of
these is a contest between the two combatants and leaves every live unit within its maximum, so
every state of an exchange does.  Each of them leaves the living alive, too, if only no drain can
outgrow the word of the hitpoints.  A combatant is gone exactly when the exchange has ended with its
death.
-/

theorem Combatant.sameUnit_roused (unit : Combatant) : unit.SameUnit unit.roused :=
  rfl

theorem Combatant.Sound.roused {spared : Prop} {unit : Combatant} (sound : unit.Sound spared) :
    unit.roused.Sound spared :=
  sound

namespace Battlefield

variable {field : Battlefield}

theorem contest_rouse (consistent : field.roster.Consistent) (attacker defender : UnitId) :
    field.Contest attacker defender none (field.rouse attacker defender) := by
  have attackerRoused := (Contest.refl consistent attacker defender).update (Or.inl rfl)
    Combatant.sameUnit_roused
  exact attackerRoused.update (Or.inr rfl) Combatant.sameUnit_roused

theorem SoundAt.rouse {spared : Prop} {id : UnitId} (sound : field.SoundAt spared id)
    (attacker defender : UnitId) : (field.rouse attacker defender).SoundAt spared id := by
  have attackerRoused : (field.update attacker Combatant.roused).SoundAt spared id :=
    sound.update fun _ _ _ sound => sound.roused
  exact attackerRoused.update fun _ _ _ sound => sound.roused

/-- Two different units that have been placed at some time on a field that has room for one more. -/
structure Opposed (field : Battlefield) (attacker defender : UnitId) : Prop where
  room : field.roster.slots.size < UInt32.size
  distinct : attacker ≠ defender
  attackerPlaced : attacker.val < field.roster.slots.size
  defenderPlaced : defender.val < field.roster.slots.size

/-- A part that drains has a weapon for it. -/
theorem wields_of_drains {attacker defender : UnitId} {weapon : Nat} {pairing : Pairing}
    (paired : field.pairing attacker defender weapon = .ok pairing) (role : Role)
    (drains : ((pairing.matchup field).profileOf role).drains = true) :
    (pairing.unitOf role).wields .drain = true := by
  rcases pairing_eq_ok_iff.mp paired with
    ⟨attackerUnit, defenderUnit, chosen, -, -, carried, rfl⟩
  cases role with
  | attacker =>
      exact List.any_eq_true.mpr
        ⟨chosen, List.mem_of_getElem? carried, (Bool.and_eq_true_iff.mp drains).1⟩
  | defender =>
      simp only [Matchup.profileOf, Pairing.matchup, Pairing.defenderProfile] at drains
      cases answer : (field.pair attackerUnit defenderUnit weapon chosen).counter with
      | none =>
          rw [answer] at drains
          cases drains
      | some counter =>
          rw [answer] at drains
          exact List.any_eq_true.mpr
            ⟨counter.2, mem_weapons_of_counter answer, (Bool.and_eq_true_iff.mp drains).1⟩

end Battlefield

/-- Units of every type that the catalog knows can live. -/
def Catalog.Viable (catalog : Catalog) : Prop :=
  ∀ unitType template, catalog.find? unitType = some template → 1 ≤ template.maxHitpoints

theorem Catalog.Viable.healthy {catalog : Catalog} (viable : catalog.Viable) {unitType : String}
    {side : Side} {hex : Hex} {unit : Combatant}
    (raised : catalog.instantiate unitType side hex = some unit) : unit.Healthy := by
  rcases Option.map_eq_some_iff.mp raised with ⟨template, known, rfl⟩
  exact ⟨viable unitType template known, Nat.le_refl _⟩

namespace StrikeProfile

theorem sameUnit_afflict (profile : StrikeProfile) (unit : Combatant) :
    unit.SameUnit (profile.afflict unit) :=
  rfl

theorem sound_afflict (profile : StrikeProfile) {spared : Prop} {unit : Combatant}
    (sound : unit.Sound spared) : (profile.afflict unit).Sound spared :=
  sound

end StrikeProfile

namespace Exchange

variable (exchange : Exchange) (role : Role)

theorem unitOf_combatant :
    exchange.unitOf role = exchange.attacker ∨ exchange.unitOf role = exchange.defender := by
  cases role with
  | attacker => exact Or.inl rfl
  | defender => exact Or.inr rfl

theorem opponentOf_combatant :
    exchange.opponentOf role = exchange.attacker ∨
      exchange.opponentOf role = exchange.defender := by
  cases role with
  | attacker => exact Or.inr rfl
  | defender => exact Or.inl rfl

end Exchange

namespace Fight

variable {ρ σ : Type} {observer : Observer σ} {catalog : Catalog} {before : Battlefield}
  {spared : UnitId → Prop} {fight after : Fight ρ σ}

/-- So far nothing but a contest between the combatants has changed the field, and every live unit
is sound. -/
structure Intact (before : Battlefield) (spared : UnitId → Prop) (fight : Fight ρ σ) : Prop where
  contest : before.Contest fight.exchange.attacker fight.exchange.defender fight.exchange.spawned
    fight.field
  sound : ∀ id, fight.field.SoundAt (spared id) id

/-- If the striker drains a target, and is to be spared, then its word can hold what it drains. -/
def Digests (fight : Fight ρ σ) (spared : UnitId → Prop) (role : Role) (profile : StrikeProfile)
    (target : Combatant) : Prop :=
  spared (fight.exchange.unitOf role) → profile.drains = true → ∀ striker,
    fight.field.roster.get? (fight.exchange.unitOf role) = some striker →
    striker.maxHitpoints + target.maxHitpoints / 2 < UInt32.size

/-! ## The parts of a swing -/

section Blows

variable {role : Role} {profile : StrikeProfile} {target : Combatant} {damage : Nat}

theorem contest_deal
    (contest : before.Contest fight.exchange.attacker fight.exchange.defender
      fight.exchange.spawned fight.field) (role : Role) (profile : StrikeProfile) (damage : Nat) :
    before.Contest fight.exchange.attacker fight.exchange.defender fight.exchange.spawned
      (fight.deal role profile damage).field := by
  have hurt := contest.update (fight.exchange.opponentOf_combatant role)
    (fun unit => .takeDamage unit damage)
  simp only [deal]
  split
  · exact hurt.update (fight.exchange.unitOf_combatant role)
      (fun unit => .heal unit (damage / 2))
  · exact hurt

/-- A blow leaves a unit sound, unless it takes all hitpoints of its target, or more for its striker
than that can digest. -/
theorem soundAt_deal {id : UnitId} (sound : fight.field.SoundAt (spared id) id)
    (apart : fight.exchange.attacker ≠ fight.exchange.defender)
    (bounded : damage ≤ target.maxHitpoints) (digests : fight.Digests spared role profile target)
    (survives : id = fight.exchange.opponentOf role → ∀ target,
      fight.field.roster.get? id = some target → target.hitpoints - damage ≠ 0) :
    (fight.deal role profile damage).field.SoundAt (spared id) id := by
  have hurt : (fight.field.update (fight.exchange.opponentOf role)
      (·.takeDamage damage)).SoundAt (spared id) id := by
    apply sound.update
    intro same target alive sound
    have left := survives same target alive
    rcases sound with ⟨within, -⟩
    simp only [Combatant.Sound, Combatant.takeDamage]
    omega
  simp only [deal]
  split
  · rename_i drinks
    refine hurt.update ?_
    rintro rfl striker alive sound
    -- The striker is not the one who has been hurt, so it is still the unit that it was.
    have unhurt := Roster.get?_update_of_ne fight.field.roster
      (Ne.symm (Exchange.unitOf_ne_opponentOf apart role)) (·.takeDamage damage)
    exact sound.heal bounded fun spares =>
      digests spares drinks.1 striker (unhurt.symm.trans alive)
  · exact hurt

/-- A hit that its target survives leaves the field in order. -/
theorem Intact.struck (intact : fight.Intact before spared)
    (apart : fight.exchange.attacker ≠ fight.exchange.defender)
    (alive : fight.field.roster.get? (fight.exchange.opponentOf role) = some target)
    (bounded : damage ≤ target.hitpoints) (digests : fight.Digests spared role profile target)
    (survives : target.hitpoints - damage ≠ 0) :
    Intact before spared { fight with field := fight.struck role profile damage } := by
  refine ⟨?_, ?_⟩
  · exact (contest_deal intact.contest role profile damage).update
      (fight.exchange.opponentOf_combatant role)
      (fun unit => profile.sameUnit_afflict unit)
  · intro id
    have within := Nat.le_trans bounded (intact.sound _ target alive).1
    have dealt : (fight.deal role profile damage).field.SoundAt (spared id) id := by
      apply soundAt_deal (intact.sound id) apart within digests
      rintro rfl target' alive'
      rw [alive] at alive'
      cases alive'
      exact survives
    exact dealt.update fun _ unit _ sound => profile.sound_afflict sound

end Blows

/-! ## Endings -/

theorem Intact.shareExperience (intact : fight.Intact before spared) :
    fight.shareExperience.Intact before spared := by
  unfold Fight.shareExperience
  split
  · refine ⟨?_, fun id => ?_⟩
    · apply (intact.contest.update (Or.inl rfl) _).update (Or.inr rfl)
      · exact fun unit => .gainExperience unit _
      · exact fun unit => .gainExperience unit _
    · apply ((intact.sound id).update _).update
      · exact fun _ unit _ sound => sound
      · exact fun _ unit _ sound => sound
  · exact intact

theorem Intact.of_eq (intact : fight.Intact before spared)
    (attacker : after.exchange.attacker = fight.exchange.attacker)
    (defender : after.exchange.defender = fight.exchange.defender)
    (spawned : after.exchange.spawned = fight.exchange.spawned)
    (field : after.field = fight.field) : after.Intact before spared := by
  refine ⟨?_, ?_⟩
  · rw [attacker, defender, spawned, field]
    exact intact.contest
  · rw [field]
    exact intact.sound

theorem Intact.announce (intact : fight.Intact before spared) (leaves : observer.LeavesField)
    (announcement : Announcement) : (fight.announce observer announcement).Intact before spared :=
  intact.of_eq rfl rfl rfl (field_announce leaves announcement fight)

theorem Intact.finish (intact : fight.Intact before spared) (leaves : observer.LeavesField)
    (ending : Ending) : (fight.finish observer ending).Intact before spared := by
  unfold Fight.finish
  split
  · exact intact
  · have ended : Intact before spared
        { fight with exchange := { fight.exchange with ending := some ending } } :=
      intact.of_eq rfl rfl rfl rfl
    cases ending with
    | exhausted => exact (ended.shareExperience.announce leaves _).of_eq rfl rfl rfl rfl
    | petrified => exact (ended.shareExperience.announce leaves _).of_eq rfl rfl rfl rfl
    | attackerDied => exact (ended.announce leaves _).of_eq rfl rfl rfl rfl
    | defenderDied => exact (ended.announce leaves _).of_eq rfl rfl rfl rfl
    | interrupted => exact (ended.announce leaves _).of_eq rfl rfl rfl rfl

theorem Intact.raise (intact : fight.Intact before spared) (leaves : observer.LeavesField)
    (unspawned : fight.exchange.spawned = none)
    (opposed : before.Opposed fight.exchange.attacker fight.exchange.defender)
    (viable : catalog.Viable) (unitType : String)
    (side : Side) (hex : Hex) :
    (fight.raise observer catalog unitType side hex).Intact before spared := by
  unfold Fight.raise
  split
  · exact intact
  · rename_i unit found
    split
    · exact intact
    · rename_i spawned field placed
      have contest := intact.contest
      rw [unspawned] at contest
      apply Intact.announce _ leaves
      refine ⟨contest.addUnit opposed.room opposed.attackerPlaced opposed.defenderPlaced placed,
        fun id => ?_⟩
      exact (intact.sound id).addUnit (viable.healthy found) placed

/-- A death leaves the field in order if all others are sound. -/
theorem intact_resolveDeath (leaves : observer.LeavesField) {role : Role}
    (contest : before.Contest fight.exchange.attacker fight.exchange.defender
      fight.exchange.spawned fight.field)
    (sound : ∀ id, id ≠ fight.exchange.opponentOf role → fight.field.SoundAt (spared id) id)
    (unspawned : fight.exchange.spawned = none)
    (opposed : before.Opposed fight.exchange.attacker fight.exchange.defender)
    (viable : catalog.Viable) (killer victim : Combatant) (contagion : Option String) :
    (fight.resolveDeath observer catalog role killer victim contagion).Intact before spared := by
  have erased (reward : Nat) (announcement : Announcement) :
      let rewarded : Fight ρ σ :=
        { fight with
          field := fight.field.update (fight.exchange.unitOf role) (·.gainExperience reward) }
      let announced := rewarded.announce observer announcement
      Intact before spared
        { announced with field := announced.field.erase (fight.exchange.opponentOf role) } := by
    intro rewarded announced
    have field : announced.field = rewarded.field := field_announce leaves announcement rewarded
    rw [field]
    refine ⟨?_, fun id => Battlefield.soundAt_erase fun different => ?_⟩
    · exact (contest.update (fight.exchange.unitOf_combatant role)
        fun unit => .gainExperience unit reward).erase (fight.exchange.opponentOf_combatant role)
    · exact (sound id different).update fun _ unit _ sound => sound
  unfold Fight.resolveDeath
  apply Intact.finish _ leaves
  cases contagion with
  | none => exact erased _ _
  | some unitType => exact (erased _ _).raise leaves unspawned opposed viable _ _ _

/-! ## One swing -/

/-- As long as no unit goes, an ending that is not a death tells that none has gone. -/
theorem gone_iff_of_keeps {field : Battlefield}
    (keeps : fight.field.Keeps (fun _ => ()) field) {part : Role}
    (alive : fight.field.roster.get? (fight.exchange.unitOf part) ≠ none) {ending : Ending}
    (bloodless : ∀ part : Role, ending ≠ part.death) :
    field.roster.get? (fight.exchange.unitOf part) = none ↔ ending = part.death := by
  rw [keeps.get?_eq_none_iff]
  constructor
  · exact fun dead => absurd dead alive
  · exact fun died => absurd died (bloodless part)

namespace Swung

variable {role : Role} {profile : StrikeProfile} {striker striker' target : Combatant}
  {record : SwingRecord}

theorem intact (swung : Swung observer catalog role profile striker target record fight after)
    (leaves : observer.LeavesField) (whole : fight.Intact before spared)
    (unspawned : fight.exchange.spawned = none)
    (opposed : before.Opposed fight.exchange.attacker fight.exchange.defender)
    (viable : catalog.Viable) (digests : fight.Digests spared role profile target)
    (alive : fight.field.roster.get? (fight.exchange.opponentOf role) = some target) :
    after.Intact before spared := by
  have bounded : min record.damage target.hitpoints ≤ target.hitpoints := Nat.min_le_right _ _
  cases swung with
  | missed => exact whole
  | endured hit survived harmless =>
      exact whole.struck opposed.distinct alive bounded digests survived
  | petrified hit survived petrifies =>
      have stopped : Intact before spared
          { fight with
            field := fight.struck role profile (min record.damage target.hitpoints)
            exchange := { fight.exchange with attackerSwings := 0, defenderSwings := 0 } } :=
        (whole.struck opposed.distinct alive bounded digests survived).of_eq rfl rfl rfl rfl
      exact stopped.finish leaves .petrified
  | killed hit lethal =>
      -- The target has no hitpoints left until it is removed, so this fight is not intact.
      let dealt := fight.deal role profile (min record.damage target.hitpoints)
      have contest : before.Contest dealt.exchange.attacker dealt.exchange.defender
          dealt.exchange.spawned dealt.field := contest_deal whole.contest role profile _
      have within := Nat.le_trans bounded (whole.sound _ target alive).1
      have sound : ∀ id, id ≠ dealt.exchange.opponentOf role →
          dealt.field.SoundAt (spared id) id := by
        intro id different
        apply soundAt_deal (whole.sound id) opposed.distinct within digests
        exact fun same => absurd same different
      exact intact_resolveDeath leaves contest sound unspawned opposed viable striker target
        profile.contagion

/-- A hit that neither kills nor petrifies heals a striker that drains, by half of its damage. -/
theorem drained (swung : Swung observer catalog role profile striker target record fight after)
    (apart : fight.exchange.attacker ≠ fight.exchange.defender)
    (alive : fight.field.roster.get? (fight.exchange.unitOf role) = some striker')
    (hit : record.hit = true) (harms : 0 < record.damage)
    (survived : record.damage < target.hitpoints) (drains : profile.drains = true)
    (harmless : profile.petrifies = false) :
    after.field.roster.get? (fight.exchange.unitOf role) =
      some (striker'.heal (record.damage / 2)) := by
  have applied : min record.damage target.hitpoints = record.damage :=
    Nat.min_eq_left (Nat.le_of_lt survived)
  cases swung with
  | missed miss =>
      rw [hit] at miss
      cases miss
  | endured =>
      change (fight.struck role profile _).roster.get? _ = _
      rw [get?_struck_striker (Exchange.unitOf_ne_opponentOf apart role), alive, applied,
        Option.map_some, if_pos ⟨drains, harms⟩]
  | petrified _ _ petrifies =>
      rw [harmless] at petrifies
      cases petrifies
  | killed _ lethal => omega

/-- A swing that ends an exchange has removed the part with whose death it ends, and no other. -/
theorem gone_iff (swung : Swung observer catalog role profile striker target record fight after)
    (leaves : observer.LeavesField) (going : fight.exchange.ending = none)
    (distinct : fight.exchange.attacker ≠ fight.exchange.defender)
    (alive : ∀ part, fight.field.roster.get? (fight.exchange.unitOf part) ≠ none)
    {ending : Ending} (ended : after.exchange.ending = some ending) (part : Role) :
    after.field.roster.get? (fight.exchange.unitOf part) = none ↔ ending = part.death := by
  have stays := swung.keeps_of_survived (fun _ => ()) leaves
  cases swung with
  | missed =>
      rw [going] at ended
      cases ended
  | endured =>
      rw [going] at ended
      cases ended
  | petrified hit survived petrifies =>
      have keeps := stays (fun _ => survived) (fun _ _ => rfl) (fun _ _ => rfl) (fun _ _ => rfl)
        fun _ => rfl
      rw [exchange_finish] at ended
      · cases ended
        apply gone_iff_of_keeps keeps (alive part)
        intro part died
        cases part <;> cases died
      · exact going
  | killed hit lethal =>
      let dealt := fight.deal role profile (min record.damage target.hitpoints)
      have keeps : fight.field.Keeps (fun _ => ()) dealt.field :=
        keeps_deal _ (fun _ _ => rfl) (fun _ _ => rfl) role profile _ fight
      have present : dealt.field.roster.get? (fight.exchange.unitOf part) ≠ none :=
        fun dead => alive part ((keeps.get?_eq_none_iff _).mp dead)
      rcases Option.ne_none_iff_exists'.mp present with ⟨unit, found⟩
      have units := units_resolveDeath (fun _ => ()) leaves (fun _ _ => rfl) catalog role striker
        target profile.contagion dealt (Roster.lt_size_of_get? found)
      have died := ending_resolveDeath observer catalog role striker target profile.contagion dealt
        going distinct
      cases died.symm.trans ended
      -- A unit that rises gets a number of its own, so the victim's number stays without a unit.
      rw [← Option.map_eq_none_iff, units]
      rcases Role.eq_or_eq_other role part with rfl | rfl
      · have different := Exchange.unitOf_ne_opponentOf distinct part
        rw [exchange_deal, if_neg (Ne.symm different), Option.map_eq_none_iff]
        constructor
        · exact fun dead => absurd dead present
        · intro same
          cases part <;> cases same
      · rw [exchange_deal, if_pos (fight.exchange.unitOf_other role).symm]
        exact ⟨fun _ => rfl, fun _ => rfl⟩

end Swung

/-! ## Step by step -/

/-- What holds of an exchange between two units in each of its states: the field is in order, the
next swing can be made unless the exchange has ended, and if it has, its ending tells who is
gone. -/
structure Stands (before : Battlefield) (attacker defender : UnitId) (fight : Fight ρ σ) :
    Prop where
  attackerName : fight.exchange.attacker = attacker
  defenderName : fight.exchange.defender = defender
  intact : fight.Intact before (before.Spares attacker defender)
  going : fight.exchange.ending = none → fight.Ready ∧ fight.exchange.spawned = none
  gone : ∀ ending, fight.exchange.ending = some ending → ∀ part,
    (fight.field.roster.get? (fight.exchange.unitOf part) = none ↔ ending = part.death)

variable {attacker defender : UnitId}

/-- The fight after a step for each of the given records. -/
def steps [RollSource ρ] (observer : Observer σ) (catalog : Catalog)
    (given : List (Option SwingRecord)) (fight : Fight ρ σ) : Fight ρ σ :=
  given.foldl (fun fight record => (fight.step observer catalog record).2) fight

theorem step_of_ended [RollSource ρ] {ending : Ending}
    (ended : fight.exchange.ending = some ending) (given : Option SwingRecord) :
    fight.step observer catalog given = (.ok none, fight) := by
  have finished : fight.exchange.isFinished = true := by
    rw [Exchange.isFinished, ended]
    rfl
  have idle : fight.exchange.nextStriker = (none, fight.exchange) := by
    rw [Exchange.nextStriker, if_pos finished]
  unfold step
  simp only [idle]
  rw [finish, if_pos finished]

theorem Ready.alive (ready : fight.Ready) (part : Role) :
    fight.field.roster.get? (fight.exchange.unitOf part) ≠ none := by
  rcases ready.answers with ⟨pairing, paired, -⟩
  rcases Battlefield.units_of_pairing paired with ⟨attackerAlive, defenderAlive⟩
  cases part with
  | attacker => exact Option.ne_none_iff_exists'.mpr ⟨_, attackerAlive⟩
  | defender => exact Option.ne_none_iff_exists'.mpr ⟨_, defenderAlive⟩

namespace Stands

/-- What a part can drain, its word can hold, if this was so at the start. -/
theorem digests (stands : fight.Stands before attacker defender) {pairing : Pairing}
    (paired : fight.field.pairing fight.exchange.attacker fight.exchange.defender
      fight.exchange.weapon = .ok pairing) (role : Role) :
    fight.Digests (before.Spares attacker defender) role
      ((pairing.matchup fight.field).profileOf role) (pairing.opponentOf role) := by
  intro spares drains striker alive
  have wields := Battlefield.wields_of_drains paired role drains
  rcases Battlefield.units_of_pairing paired with ⟨attackerAlive, defenderAlive⟩
  have contest := stands.intact.contest
  rw [stands.attackerName, stands.defenderName] at contest
  rw [stands.attackerName] at attackerAlive
  rw [stands.defenderName] at defenderAlive
  cases role with
  | attacker =>
      rw [Exchange.unitOf, stands.attackerName] at spares alive
      cases attackerAlive.symm.trans alive
      exact contest.drainFits (Or.inl rfl) (Or.inr rfl) (spares.1 rfl) _ _ alive defenderAlive
        wields
  | defender =>
      rw [Exchange.unitOf, stands.defenderName] at spares alive
      cases defenderAlive.symm.trans alive
      exact contest.drainFits (Or.inr rfl) (Or.inl rfl) (spares.2 rfl) _ _ alive attackerAlive
        wields

theorem finish_exhausted (stands : fight.Stands before attacker defender)
    (leaves : observer.LeavesField) (ready : fight.Ready) {exchange : Exchange}
    (turned : fight.exchange.TurnsTo exchange) :
    (finish observer .exhausted { fight with exchange }).Stands before attacker defender := by
  let ended := finish observer .exhausted { fight with exchange }
  have frame : ended.exchange = { exchange with ending := some .exhausted } := by
    apply exchange_finish
    change exchange.ending = none
    rw [turned]
    exact ready.going
  have attackerName : ended.exchange.attacker = fight.exchange.attacker := by rw [frame, turned]
  have defenderName : ended.exchange.defender = fight.exchange.defender := by rw [frame, turned]
  refine ⟨attackerName.trans stands.attackerName, defenderName.trans stands.defenderName,
    ?_, ?_, ?_⟩
  · apply Intact.finish _ leaves
    refine stands.intact.of_eq ?_ ?_ ?_ rfl
    · rw [turned]
    · rw [turned]
    · rw [turned]
  · intro unended
    rw [frame] at unended
    cases unended
  · intro ending exhausted part
    rw [frame] at exhausted
    cases exhausted
    rw [Exchange.unitOf_congr attackerName defenderName]
    apply gone_iff_of_keeps _ (ready.alive part)
    · intro part died
      cases part <;> cases died
    · exact keeps_finish _ leaves (fun _ _ => rfl) .exhausted { fight with exchange }

variable [RollSource ρ]

theorem swung (stands : fight.Stands before attacker defender)
    (leaves : observer.LeavesField) (ready : fight.Ready)
    (unspawned : fight.exchange.spawned = none) (opposed : before.Opposed attacker defender)
    (viable : catalog.Viable) {mark : Bool} {rest : List Bool} {role : Role}
    {exchange : Exchange} {pairing : Pairing} {record : SwingRecord} {given : Option SwingRecord}
    (due : fight.Due mark rest role exchange pairing)
    (swung : Swung observer catalog role ((pairing.matchup fight.field).profileOf role)
      (pairing.unitOf role) (pairing.opponentOf role) record
      (fight.bookedDue role exchange pairing given) after) :
    after.Stands before attacker defender := by
  rcases due.bookedDue_same given with ⟨attackerName, defenderName, spawned, unchanged⟩
  have going := unchanged.trans ready.going
  have names := Exchange.unitOf_congr attackerName defenderName
  have alive := due.bookedDue_target given
  have frame := swung.exchange_eq going
  have opposedNow : before.Opposed
      (fight.bookedDue role exchange pairing given).exchange.attacker
      (fight.bookedDue role exchange pairing given).exchange.defender := by
    rw [attackerName, defenderName, stands.attackerName, stands.defenderName]
    exact opposed
  have digests : (fight.bookedDue role exchange pairing given).Digests
      (before.Spares attacker defender) role ((pairing.matchup fight.field).profileOf role)
      (pairing.opponentOf role) := by
    rw [Digests, names]
    exact stands.digests due.paired role
  refine ⟨?_, ?_, ?_, ?_, ?_⟩
  · rw [frame]
    exact attackerName.trans stands.attackerName
  · rw [frame]
    exact defenderName.trans stands.defenderName
  · apply swung.intact leaves _ (spawned.trans unspawned) opposedNow viable digests alive
    exact stands.intact.of_eq attackerName defenderName spawned rfl
  · intro unended
    rcases swung.ready_or_fells leaves going alive with ⟨same, keeps⟩ | ⟨ending, ended, -⟩
    · refine ⟨(due.ready_of_keeps ready.going same keeps).1, ?_⟩
      rw [same]
      exact spawned.trans unspawned
    · rw [unended] at ended
      cases ended
  · intro ending ended part
    have name : after.exchange.unitOf part =
        (fight.bookedDue role exchange pairing given).exchange.unitOf part := by
      rw [frame]
      cases part <;> rfl
    rw [name]
    apply swung.gone_iff leaves going _ _ ended
    · exact opposedNow.distinct
    · intro part
      rw [names]
      exact ready.alive part

/-- Every step succeeds and leaves the exchange in order, whatever record is given to it. -/
theorem step (stands : fight.Stands before attacker defender) (leaves : observer.LeavesField)
    (opposed : before.Opposed attacker defender) (viable : catalog.Viable)
    (given : Option SwingRecord) :
    ∃ made after, fight.step observer catalog given = (.ok made, after) ∧
      after.Stands before attacker defender := by
  cases ending : fight.exchange.ending with
  | some ending' => exact ⟨none, fight, step_of_ended ending given, stands⟩
  | none =>
      rcases stands.going ending with ⟨ready, unspawned⟩
      cases upcoming : fight.exchange.upcoming with
      | nil =>
          rcases ready.step_of_usedUp observer catalog upcoming given with
            ⟨exchange, turned, stepped⟩
          exact ⟨none, _, stepped, stands.finish_exhausted leaves ready turned⟩
      | cons mark rest =>
          rcases ready.step_of_upcoming observer catalog upcoming given with
            ⟨role, exchange, pairing, after, due, stepped, swung⟩
          exact ⟨_, after, stepped,
            stands.swung leaves ready unspawned opposed viable due swung⟩

theorem steps (leaves : observer.LeavesField) (opposed : before.Opposed attacker defender)
    (viable : catalog.Viable) (given : List (Option SwingRecord)) :
    ∀ {fight : Fight ρ σ}, fight.Stands before attacker defender →
      (fight.steps observer catalog given).Stands before attacker defender := by
  -- `Stands` carries the induction; whether the exchange has ended meanwhile is left to each step.
  induction given with
  | nil => exact fun stands => stands
  | cons record rest ih =>
      intro fight stands
      rcases stands.step leaves opposed viable record with ⟨made, after, stepped, next⟩
      change (Fight.steps observer catalog rest (fight.step observer catalog record).2).Stands _ _ _
      rw [stepped]
      exact ih next

end Stands

end Fight

namespace Scene

variable {ρ σ : Type} {observer : Observer σ} {scene : Scene ρ σ} {attacker defender : UnitId}
  {weapon : Nat} {fight : Fight ρ σ}

/-- An exchange that has begun on a field in order is in order. -/
theorem stands_of_begin (leaves : observer.LeavesField)
    (consistent : scene.field.roster.Consistent)
    (healthy : ∀ id unit, scene.field.roster.get? id = some unit → unit.Healthy)
    (begun : scene.begin observer attacker defender weapon = .ok fight) :
    fight.Stands scene.field attacker defender := by
  rcases opened_of_begin leaves begun with ⟨pairing, paired, -, field, -, opened⟩
  rcases ready_of_begin leaves begun with
    ⟨-, -, ready, -, attackerName, defenderName, -, -⟩
  have unspawned : fight.exchange.spawned = none := by
    rw [opened]
    rfl
  refine ⟨attackerName, defenderName, ⟨?_, ?_⟩, fun _ => ⟨ready, unspawned⟩, ?_⟩
  · rw [attackerName, defenderName, unspawned, field]
    exact Battlefield.contest_rouse consistent attacker defender
  · intro id
    rw [field]
    have sound : scene.field.SoundAt (scene.field.Spares attacker defender id) id :=
      fun unit alive => (healthy id unit alive).sound _
    exact sound.rouse attacker defender
  · intro ending ended
    rw [ready.going] at ended
    cases ended

/-- An exchange keeps the field in order, whatever rolls it draws and whatever records are given to
its steps.

After any number of steps the roster is consistent, and no live unit has more hitpoints than its
maximum.  It has a hitpoint at least, unless it is a combatant whose drains may outgrow the word.
Nothing has changed but the two combatants and the unit that rose, if there is one; the combatants
have changed in nothing but hitpoints, experience and status.  If the exchange has ended, its ending
tells who is gone, and the next step succeeds in any case. -/
theorem steps_keep_order [RollSource ρ] (leaves : observer.LeavesField) {catalog : Catalog}
    (viable : catalog.Viable) (consistent : scene.field.roster.Consistent)
    (room : scene.field.roster.slots.size < UInt32.size)
    (healthy : ∀ id unit, scene.field.roster.get? id = some unit → unit.Healthy)
    (distinct : attacker ≠ defender)
    (begun : scene.begin observer attacker defender weapon = .ok fight)
    (given : List (Option SwingRecord)) :
    let now := fight.steps observer catalog given
    scene.field.Contest attacker defender now.exchange.spawned now.field ∧
      (∀ id unit, now.field.roster.get? id = some unit →
        unit.hitpoints ≤ unit.maxHitpoints ∧
          ((id = attacker → scene.field.DrainFits attacker defender) ∧
              (id = defender → scene.field.DrainFits defender attacker) →
            1 ≤ unit.hitpoints)) ∧
      (∀ ending, now.exchange.ending = some ending →
        (now.field.roster.get? attacker = none ↔ ending = .attackerDied) ∧
        (now.field.roster.get? defender = none ↔ ending = .defenderDied)) ∧
      ∀ record, ∃ made, (now.step observer catalog record).1 = .ok made := by
  intro now
  rcases pairing_of_begin begun with ⟨pairing, paired, -⟩
  rcases Battlefield.units_of_pairing paired with ⟨attackerAlive, defenderAlive⟩
  have opposed : scene.field.Opposed attacker defender :=
    ⟨room, distinct, Roster.lt_size_of_get? attackerAlive, Roster.lt_size_of_get? defenderAlive⟩
  have stands : now.Stands scene.field attacker defender :=
    (stands_of_begin leaves consistent healthy begun).steps leaves opposed viable given
  refine ⟨?_, stands.intact.sound, ?_, ?_⟩
  · have contest := stands.intact.contest
    rw [stands.attackerName, stands.defenderName] at contest
    exact contest
  · intro ending ended
    have gone := stands.gone ending ended
    refine ⟨?_, ?_⟩
    · rw [← stands.attackerName]
      exact gone .attacker
    · rw [← stands.defenderName]
      exact gone .defender
  · intro record
    rcases stands.step leaves opposed viable record with ⟨made, after, stepped, -⟩
    exact ⟨made, congrArg Prod.fst stepped⟩

/-- The raider and the guard leave the field in order, although the first record claims a blow of a
thousand that is survived, and the second a miss that kills.  The raider drains, but not too
much. -/
theorem steps_keep_order_skirmish :
    ∃ fight : Fight ScriptedDice EventLog,
      Scene.begin .recorder ⟨0⟩ ⟨1⟩ 0
          ⟨.skirmish, ScriptedDice.ofArray #[10, 60, 35], {}⟩ = .ok fight ∧
        let now := fight.steps .recorder (Catalog.add {} .guard)
          [some ⟨true, 1000, 60, false⟩, some ⟨false, 9, 0, true⟩, none]
        Battlefield.skirmish.Contest ⟨0⟩ ⟨1⟩ now.exchange.spawned now.field ∧
          ∀ id unit, now.field.roster.get? id = some unit → unit.Healthy := by
  rcases begin_skirmish Observer.recorder_leavesField (ScriptedDice.ofArray #[10, 60, 35]) {} with
    ⟨fight, begun⟩
  have viable : (Catalog.add {} .guard).Viable := by
    intro unitType template known
    have listed := List.mem_of_find?_eq_some known
    cases List.mem_singleton.mp listed
    decide
  have healthy : ∀ id unit, Battlefield.skirmish.roster.get? id = some unit → unit.Healthy := by
    intro id unit alive
    match id with
    | ⟨0⟩ =>
        cases alive
        decide
    | ⟨1⟩ =>
        cases alive
        decide
    | ⟨_ + 2⟩ => cases alive
  have raider : Battlefield.skirmish.DrainFits ⟨0⟩ ⟨1⟩ := by
    rintro unit target ⟨⟩ ⟨⟩ _
    decide
  have guard : Battlefield.skirmish.DrainFits ⟨1⟩ ⟨0⟩ := by
    rintro unit target ⟨⟩ ⟨⟩ _
    decide
  rcases steps_keep_order Observer.recorder_leavesField viable Battlefield.consistent_skirmish
    (by decide) healthy (by decide) begun
    [some ⟨true, 1000, 60, false⟩, some ⟨false, 9, 0, true⟩, none] with ⟨contest, sound, -⟩
  refine ⟨fight, begun, contest, fun id unit alive => ?_⟩
  rcases sound id unit alive with ⟨within, lives⟩
  exact ⟨lives ⟨fun _ => raider, fun _ => guard⟩, within⟩

/-- The leech bites the wader, and a sum that outgrows the word leaves it on the field without a
hitpoint. -/
theorem leech_stands_empty :
    ∃ (fight : Fight ScriptedDice EventLog) (record : SwingRecord)
      (after : Fight ScriptedDice EventLog) (leech : Combatant),
      Battlefield.swamp.roster.Consistent ∧
        (∀ id unit, Battlefield.swamp.roster.get? id = some unit → unit.Healthy) ∧
        Scene.begin .recorder ⟨0⟩ ⟨1⟩ 0 ⟨.swamp, ScriptedDice.ofArray #[10], {}⟩ = .ok fight ∧
        fight.step .recorder {} none = (.ok (some record), after) ∧
        after.field.roster.get? ⟨0⟩ = some leech ∧ leech.hitpoints = 0 := by
  let scene : Scene ScriptedDice EventLog := ⟨.swamp, ScriptedDice.ofArray #[10], {}⟩
  have paired : scene.field.pairing ⟨0⟩ ⟨1⟩ 0 =
      .ok (Battlefield.swamp.pair .leech .wader 0 .leechBite) :=
    Battlefield.pairing_eq_ok_iff.mpr ⟨.leech, .wader, .leechBite, rfl, rfl, rfl, rfl⟩
  have healthy : ∀ id unit, Battlefield.swamp.roster.get? id = some unit → unit.Healthy := by
    intro id unit alive
    match id with
    | ⟨0⟩ =>
        cases alive
        decide
    | ⟨1⟩ =>
        cases alive
        decide
    | ⟨_ + 2⟩ => cases alive
  rcases begin_of_pairing Observer.recorder_leavesField paired (by decide) with
    ⟨fight, begun, field, rolls, opened⟩
  rcases ready_of_begin Observer.recorder_leavesField begun with ⟨-, -, ready, -⟩
  have upcoming : fight.exchange.upcoming = [true] := by
    rw [opened, Pairing.upcoming_opening]
    decide +kernel
  rcases ready.step_of_upcoming .recorder {} upcoming none with
    ⟨role, exchange, pairing, after, due, stepped, swung⟩
  cases Role.mark_injective (show role.mark = Role.attacker.mark from due.marked)
  have pair : pairing =
      fight.field.pair Combatant.leech.roused Combatant.wader.roused 0 .leechBite := by
    have found := due.paired
    rw [field, opened] at found
    rw [field]
    cases found
    rfl
  have recorded : fight.dueRecord .attacker pairing none = ⟨true, 2, 60, false⟩ := by
    rw [pair, Fight.dueRecord, Fight.nextRecord, field, rolls]
    decide +kernel
  have target : pairing.opponentOf .attacker = Combatant.wader.roused := by
    rw [pair]
    rfl
  have profile : ((pairing.matchup fight.field).profileOf .attacker).drains = true ∧
      ((pairing.matchup fight.field).profileOf .attacker).petrifies = false := by
    rw [pair]
    exact ⟨rfl, rfl⟩
  rw [recorded, target] at swung
  rw [recorded] at stepped
  rcases due.bookedDue_same none with ⟨attackerName, defenderName, -, -⟩
  rw [opened] at attackerName defenderName
  have apart : (fight.bookedDue .attacker exchange pairing none).exchange.attacker ≠
      (fight.bookedDue .attacker exchange pairing none).exchange.defender := by
    rw [attackerName, defenderName]
    exact (by decide : (⟨0⟩ : UnitId) ≠ ⟨1⟩)
  have alive : (fight.bookedDue .attacker exchange pairing none).field.roster.get?
      ((fight.bookedDue .attacker exchange pairing none).exchange.unitOf .attacker) =
        some Combatant.leech.roused := by
    rw [Exchange.unitOf, attackerName]
    change fight.field.roster.get? ⟨0⟩ = _
    rw [field]
    rfl
  have drained := swung.drained apart alive rfl (by decide) (by decide) profile.1 profile.2
  rw [Exchange.unitOf, attackerName] at drained
  exact ⟨fight, _, after, _, Battlefield.consistent_swamp, healthy, begun, stepped, drained,
    by decide⟩

end Scene
end Hexfield
