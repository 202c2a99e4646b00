import Hexfield.Exchange
import Hexfield.Proofs.Battlefield.Traits

namespace Hexfield
namespace Fight

/-!
What the parts of a swing do to a fight, as long as the observer leaves the field alone.

Each operation of a fight gets one statement for what it does to the rolls, to the exchange and to
the units.  The later accounts of whole exchanges are assembled from these and do not open the
operations again.  Units are spoken of through their traits, so that a statement covers hitpoints,
weapons and conditions at once.
-/

variable {ρ σ β : Type} {observer : Observer σ} (trait : Combatant → β)

/-! ## Announcements and endings -/

@[simp] theorem rolls_announce (announcement : Announcement) (fight : Fight ρ σ) :
    (fight.announce observer announcement).rolls = fight.rolls :=
  rfl

@[simp] theorem exchange_announce (announcement : Announcement) (fight : Fight ρ σ) :
    (fight.announce observer announcement).exchange = fight.exchange :=
  rfl

theorem field_announce (leaves : observer.LeavesField) (announcement : Announcement)
    (fight : Fight ρ σ) : (fight.announce observer announcement).field = fight.field :=
  leaves _ _ _

@[simp] theorem rolls_shareExperience (fight : Fight ρ σ) :
    fight.shareExperience.rolls = fight.rolls := by
  unfold shareExperience
  split <;> rfl

@[simp] theorem exchange_shareExperience (fight : Fight ρ σ) :
    fight.shareExperience.exchange = fight.exchange := by
  unfold shareExperience
  split <;> rfl

theorem keeps_shareExperience (ungained : ∀ unit n, trait (unit.gainExperience n) = trait unit)
    (fight : Fight ρ σ) : fight.field.Keeps trait fight.shareExperience.field := by
  unfold shareExperience
  split
  · exact (Battlefield.keeps_update trait (fun unit => ungained unit _) _ _).trans
      (Battlefield.keeps_update trait (fun unit => ungained unit _) _ _)
  · exact .refl trait _

theorem memory_shareExperience (fight : Fight ρ σ) :
    fight.shareExperience.memory = fight.memory := by
  unfold shareExperience
  split <;> rfl

/-- A fight that has ended in some way, with the experience it gives, before this is announced. -/
def settled (ending : Ending) (fight : Fight ρ σ) : Fight ρ σ :=
  let ended := { fight with exchange := { fight.exchange with ending := some ending } }
  match ending with
  | .exhausted | .petrified => ended.shareExperience
  | _ => ended

/-- The last that an observer is told. -/
def dismiss (observer : Observer σ) (ending : Ending) (fight : Fight ρ σ) : Fight ρ σ :=
  let told := fight.announce observer
    (.attackEnd fight.exchange.attacker fight.exchange.defender ending)
  { told with memory := observer.invalidate fight.exchange.hexes told.memory }

@[simp] theorem exchange_settled (ending : Ending) (fight : Fight ρ σ) :
    (fight.settled ending).exchange = { fight.exchange with ending := some ending } := by
  unfold settled
  cases ending <;> simp

theorem finish_eq (ending : Ending) (fight : Fight ρ σ) :
    fight.finish observer ending =
      if fight.exchange.isFinished then fight
      else (fight.settled ending).dismiss observer ending := by
  unfold finish
  split
  · rfl
  · cases ending <;> simp only [dismiss, exchange_settled] <;> rfl

theorem finish_of_going (ending : Ending) {fight : Fight ρ σ}
    (going : fight.exchange.ending = none) :
    fight.finish observer ending = (fight.settled ending).dismiss observer ending := by
  have unfinished : ¬ fight.exchange.isFinished = true := by simp [Exchange.isFinished, going]
  rw [finish_eq, if_neg unfinished]

theorem memory_settled (ending : Ending) (fight : Fight ρ σ) :
    (fight.settled ending).memory = fight.memory := by
  unfold settled
  cases ending with
  | exhausted => exact memory_shareExperience _
  | petrified => exact memory_shareExperience _
  | attackerDied => rfl
  | defenderDied => rfl
  | interrupted => rfl

@[simp] theorem rolls_finish (ending : Ending) (fight : Fight ρ σ) :
    (fight.finish observer ending).rolls = fight.rolls := by
  unfold finish
  split
  · rfl
  · cases ending <;> simp

theorem exchange_finish (ending : Ending) {fight : Fight ρ σ}
    (going : fight.exchange.ending = none) :
    (fight.finish observer ending).exchange =
      { fight.exchange with ending := some ending } := by
  rw [finish_of_going ending going]
  exact exchange_settled ending fight

theorem keeps_settled (ungained : ∀ unit n, trait (unit.gainExperience n) = trait unit)
    (ending : Ending) (fight : Fight ρ σ) :
    fight.field.Keeps trait (fight.settled ending).field := by
  have shared := keeps_shareExperience trait ungained
    { fight with exchange := { fight.exchange with ending := some ending } }
  unfold settled
  cases ending with
  | exhausted => exact shared
  | petrified => exact shared
  | attackerDied => exact .refl trait _
  | defenderDied => exact .refl trait _
  | interrupted => exact .refl trait _

theorem field_dismiss (leaves : observer.LeavesField) (ending : Ending) (fight : Fight ρ σ) :
    (fight.dismiss observer ending).field = fight.field :=
  leaves _ _ _

theorem keeps_finish (leaves : observer.LeavesField)
    (ungained : ∀ unit n, trait (unit.gainExperience n) = trait unit) (ending : Ending)
    (fight : Fight ρ σ) : fight.field.Keeps trait (fight.finish observer ending).field := by
  rw [finish_eq]
  split
  · exact .refl trait _
  · rw [field_dismiss leaves]
    exact keeps_settled trait ungained ending fight

/-! ## Deaths -/

/-- Contagion adds a new unit to the field and announces it, or does nothing. -/
theorem raise_cases (observer : Observer σ) (catalog : Catalog) (unitType : String) (side : Side)
    (hex : Hex) (fight : Fight ρ σ) :
    fight.raise observer catalog unitType side hex = fight ∨
      ∃ unit spawned field, catalog.instantiate unitType side hex = some unit ∧
        fight.field.addUnit unit = .ok (spawned, field) ∧
        fight.raise observer catalog unitType side hex =
          announce observer (.contagionSpawn spawned unitType side hex)
            { fight with field, exchange := { fight.exchange with spawned := some spawned } } := by
  unfold raise
  cases raised : catalog.instantiate unitType side hex with
  | none => exact Or.inl rfl
  | some unit =>
      simp only
      cases added : fight.field.addUnit unit with
      | error fault => exact Or.inl rfl
      | ok placed => exact Or.inr ⟨unit, placed.1, placed.2, rfl, added, rfl⟩

@[simp] theorem rolls_raise (catalog : Catalog) (unitType : String) (side : Side) (hex : Hex)
    (fight : Fight ρ σ) :
    (fight.raise observer catalog unitType side hex).rolls = fight.rolls := by
  rcases raise_cases observer catalog unitType side hex fight with idle | ⟨_, _, _, -, -, raised⟩
  · rw [idle]
  · rw [raised]
    rfl

/-- Contagion adds nothing to an exchange but the unit that rose. -/
theorem exchange_raise (catalog : Catalog) (unitType : String) (side : Side) (hex : Hex)
    (fight : Fight ρ σ) :
    (fight.raise observer catalog unitType side hex).exchange =
      { fight.exchange with
        spawned := (fight.raise observer catalog unitType side hex).exchange.spawned } := by
  rcases raise_cases observer catalog unitType side hex fight with idle | ⟨_, _, _, -, -, raised⟩
  · rw [idle]
  · rw [raised]
    rfl

/-- The unit that rises does not touch any unit that was ever placed before. -/
theorem get?_raise (leaves : observer.LeavesField) (catalog : Catalog) (unitType : String)
    (side : Side) (hex : Hex) (fight : Fight ρ σ) {id : UnitId}
    (placed : id.val < fight.field.roster.slots.size) :
    (fight.raise observer catalog unitType side hex).field.roster.get? id =
      fight.field.roster.get? id := by
  rcases raise_cases observer catalog unitType side hex fight with
    idle | ⟨unit, spawned, field, -, added, raised⟩
  · rw [idle]
  · rw [raised, field_announce leaves]
    rcases Battlefield.addUnit_eq_ok added with ⟨roster, inserted, rfl⟩
    exact ((Roster.insert_eq_ok inserted).2 id).trans (if_neg (Nat.ne_of_lt placed))

/-- The fight after a death has been announced and the victim is gone, before anyone rises. -/
def mourned (observer : Observer σ) (role : Role) (victim : Combatant) (fight : Fight ρ σ) :
    Fight ρ σ :=
  let reward := fight.field.rules.experienceForKill victim.level
  let rewarded :=
    { fight with
      field := fight.field.update (fight.exchange.unitOf role) (·.gainExperience reward) }
  let announced := rewarded.announce observer
    (.death (fight.exchange.opponentOf role) (fight.exchange.unitOf role) victim.hex)
  { announced with field := announced.field.erase (fight.exchange.opponentOf role) }

/-- The victim of a contagious death rises, if it can. -/
def haunted (observer : Observer σ) (catalog : Catalog) (contagion : Option String) (side : Side)
    (hex : Hex) (fight : Fight ρ σ) : Fight ρ σ :=
  match contagion with
  | some unitType => fight.raise observer catalog unitType side hex
  | none => fight

theorem resolveDeath_eq (role : Role) (killer victim : Combatant) (contagion : Option String)
    (fight : Fight ρ σ) :
    fight.resolveDeath observer catalog role killer victim contagion =
      ((fight.mourned observer role victim).haunted observer catalog contagion killer.side
        victim.hex).finish observer
          (if fight.exchange.opponentOf role = fight.exchange.defender then .defenderDied
            else .attackerDied) :=
  rfl

theorem exchange_haunted (contagion : Option String) (side : Side) (hex : Hex)
    (fight : Fight ρ σ) :
    (fight.haunted observer catalog contagion side hex).exchange =
      { fight.exchange with
        spawned := (fight.haunted observer catalog contagion side hex).exchange.spawned } := by
  cases contagion with
  | none => rfl
  | some unitType => exact exchange_raise catalog unitType side hex fight

@[simp] theorem rolls_resolveDeath (catalog : Catalog) (role : Role)
    (killer victim : Combatant) (contagion : Option String) (fight : Fight ρ σ) :
    (fight.resolveDeath observer catalog role killer victim contagion).rolls = fight.rolls := by
  simp only [resolveDeath, rolls_finish]
  cases contagion <;> simp

/-- A death ends an exchange, and is named for the part that died. -/
theorem exchange_resolveDeath (catalog : Catalog) (role : Role) (killer victim : Combatant)
    (contagion : Option String) {fight : Fight ρ σ} (going : fight.exchange.ending = none) :
    (fight.resolveDeath observer catalog role killer victim contagion).exchange =
      { fight.exchange with
        spawned :=
          (fight.resolveDeath observer catalog role killer victim contagion).exchange.spawned
        ending :=
          some (if fight.exchange.opponentOf role = fight.exchange.defender then .defenderDied
            else .attackerDied) } := by
  cases contagion with
  | none =>
      simp only [resolveDeath]
      rw [exchange_finish]
      · rfl
      · exact going
  | some unitType =>
      simp only [resolveDeath]
      rw [exchange_finish]
      · rw [exchange_raise]
        rfl
      · rw [exchange_raise]
        exact going

/-- Where the combatants are two, a death ends the exchange with the death of the part that was
hit. -/
theorem ending_resolveDeath (observer : Observer σ) (catalog : Catalog) (role : Role)
    (killer victim : Combatant) (contagion : Option String) (fight : Fight ρ σ)
    (going : fight.exchange.ending = none)
    (distinct : fight.exchange.attacker ≠ fight.exchange.defender) :
    (fight.resolveDeath observer catalog role killer victim contagion).exchange.ending =
      some role.other.death := by
  rw [exchange_resolveDeath _ _ _ _ _ going]
  cases role with
  | attacker => exact congrArg some (if_pos rfl)
  | defender => exact congrArg some (if_neg distinct)

/-- Who rises after a death rises before the end is announced. -/
theorem spawned_resolveDeath (role : Role) (killer victim : Combatant) (contagion : Option String)
    {fight : Fight ρ σ} (going : fight.exchange.ending = none) :
    (fight.resolveDeath observer catalog role killer victim contagion).exchange.spawned =
      ((fight.mourned observer role victim).haunted observer catalog contagion killer.side
        victim.hex).exchange.spawned := by
  rw [resolveDeath_eq, exchange_finish]
  rw [exchange_haunted]
  exact going

/-- A death has its effect on the field before the end is announced. -/
theorem field_resolveDeath (leaves : observer.LeavesField) (role : Role)
    (killer victim : Combatant) (contagion : Option String) {fight : Fight ρ σ}
    (going : fight.exchange.ending = none) :
    (fight.resolveDeath observer catalog role killer victim contagion).field =
      ((fight.mourned observer role victim).haunted observer catalog contagion killer.side
        victim.hex).field := by
  rw [resolveDeath_eq, finish_of_going, field_dismiss leaves]
  · split <;> rfl
  · rw [exchange_haunted]
    exact going

theorem unitOf_resolveDeath (catalog : Catalog) (role : Role) (killer victim : Combatant)
    (contagion : Option String) {fight : Fight ρ σ} (going : fight.exchange.ending = none)
    (part : Role) :
    (fight.resolveDeath observer catalog role killer victim contagion).exchange.unitOf part =
      fight.exchange.unitOf part := by
  rw [exchange_resolveDeath _ _ _ _ _ going]
  cases part <;> rfl

theorem size_slots_mourned (leaves : observer.LeavesField) (role : Role) (victim : Combatant)
    (fight : Fight ρ σ) :
    (fight.mourned observer role victim).field.roster.slots.size =
      fight.field.roster.slots.size := by
  simp only [mourned, field_announce leaves, Battlefield.erase, Battlefield.update,
    Roster.size_slots_erase, Roster.size_slots_update]

/-- A victim that is mourned is gone, and every other unit has kept what experience does not
change. -/
theorem units_mourned (leaves : observer.LeavesField)
    (ungained : ∀ unit n, trait (unit.gainExperience n) = trait unit) (role : Role)
    (victim : Combatant) (fight : Fight ρ σ) (id : UnitId) :
    ((fight.mourned observer role victim).field.roster.get? id).map trait =
      if fight.exchange.opponentOf role = id then none
      else (fight.field.roster.get? id).map trait := by
  simp only [mourned, field_announce leaves]
  change ((Roster.erase _ _).get? id).map trait = _
  rw [Roster.get?_erase]
  split
  · rfl
  · exact (Battlefield.keeps_update trait (fun unit => ungained unit _) fight.field
      (fight.exchange.unitOf role)).units id

theorem get?_mourned_eq_none_iff (leaves : observer.LeavesField) (role : Role)
    (victim : Combatant) (fight : Fight ρ σ) (id : UnitId) :
    (fight.mourned observer role victim).field.roster.get? id = none ↔
      fight.field.roster.get? id = none ∨ fight.exchange.opponentOf role = id := by
  rw [← Option.map_eq_none_iff (f := fun _ => ()),
    units_mourned (fun _ => ()) leaves (fun _ _ => rfl)]
  split <;> simp_all

theorem board_mourned (leaves : observer.LeavesField) (role : Role) (victim : Combatant)
    (fight : Fight ρ σ) :
    (fight.mourned observer role victim).field.board = fight.field.board := by
  simp only [mourned, field_announce leaves]
  rfl

/-- After a death the victim is gone, and every other unit that was placed before has kept what
experience does not change. -/
theorem units_resolveDeath (leaves : observer.LeavesField)
    (ungained : ∀ unit n, trait (unit.gainExperience n) = trait unit) (catalog : Catalog)
    (role : Role) (killer victim : Combatant) (contagion : Option String) (fight : Fight ρ σ)
    {id : UnitId} (placed : id.val < fight.field.roster.slots.size) :
    ((fight.resolveDeath observer catalog role killer victim contagion).field.roster.get? id).map
        trait =
      if fight.exchange.opponentOf role = id then none
      else (fight.field.roster.get? id).map trait := by
  have stillPlaced :
      id.val < (fight.mourned observer role victim).field.roster.slots.size := by
    rw [size_slots_mourned leaves]
    exact placed
  rw [resolveDeath_eq, (keeps_finish trait leaves ungained _ _).units id,
    ← units_mourned trait leaves ungained role victim fight id]
  cases contagion with
  | none => rfl
  | some unitType => rw [haunted, get?_raise leaves _ _ _ _ _ stillPlaced]

/-! ## Blows -/

@[simp] theorem rolls_deal (role : Role) (profile : StrikeProfile) (damage : Nat)
    (fight : Fight ρ σ) : (fight.deal role profile damage).rolls = fight.rolls :=
  rfl

@[simp] theorem exchange_deal (role : Role) (profile : StrikeProfile) (damage : Nat)
    (fight : Fight ρ σ) : (fight.deal role profile damage).exchange = fight.exchange :=
  rfl

@[simp] theorem size_slots_deal (role : Role) (profile : StrikeProfile) (damage : Nat)
    (fight : Fight ρ σ) :
    (fight.deal role profile damage).field.roster.slots.size =
      fight.field.roster.slots.size := by
  simp only [deal]
  split <;> simp [Battlefield.update]

theorem keeps_deal (unhurt : ∀ unit n, trait (unit.takeDamage n) = trait unit)
    (unhealed : ∀ unit n, trait (unit.heal n) = trait unit) (role : Role)
    (profile : StrikeProfile) (damage : Nat) (fight : Fight ρ σ) :
    fight.field.Keeps trait (fight.deal role profile damage).field := by
  have hurt := Battlefield.keeps_update trait (fun unit => unhurt unit damage) fight.field
    (fight.exchange.opponentOf role)
  simp only [deal]
  split
  · exact hurt.trans (Battlefield.keeps_update trait (fun unit => unhealed unit _) _ _)
  · exact hurt

theorem get?_deal_target {role : Role} {fight : Fight ρ σ}
    (distinct : fight.exchange.unitOf role ≠ fight.exchange.opponentOf role)
    (profile : StrikeProfile) (damage : Nat) :
    (fight.deal role profile damage).field.roster.get? (fight.exchange.opponentOf role) =
      (fight.field.roster.get? (fight.exchange.opponentOf role)).map
        (·.takeDamage damage) := by
  simp only [deal, Battlefield.update]
  split
  · rw [Roster.get?_update_of_ne _ distinct, Roster.get?_update_self]
  · exact Roster.get?_update_self ..

theorem get?_deal_striker {role : Role} {fight : Fight ρ σ}
    (distinct : fight.exchange.unitOf role ≠ fight.exchange.opponentOf role)
    (profile : StrikeProfile) (damage : Nat) :
    (fight.deal role profile damage).field.roster.get? (fight.exchange.unitOf role) =
      (fight.field.roster.get? (fight.exchange.unitOf role)).map fun striker =>
        if profile.drains = true ∧ 0 < damage then striker.heal (damage / 2) else striker := by
  simp only [deal, Battlefield.update]
  split
  · rw [Roster.get?_update_self, Roster.get?_update_of_ne _ (Ne.symm distinct)]
  · rw [Roster.get?_update_of_ne _ (Ne.symm distinct), Option.map_id']

/-- The field after a hit that its target survives. -/
def struck (role : Role) (profile : StrikeProfile) (damage : Nat) (fight : Fight ρ σ) :
    Battlefield :=
  (fight.deal role profile damage).field.update (fight.exchange.opponentOf role) profile.afflict

theorem size_slots_struck (role : Role) (profile : StrikeProfile) (damage : Nat)
    (fight : Fight ρ σ) :
    (fight.struck role profile damage).roster.slots.size = fight.field.roster.slots.size :=
  (Roster.size_slots_update _ _ _).trans (size_slots_deal role profile damage fight)

theorem get?_struck_striker {role : Role} {fight : Fight ρ σ}
    (distinct : fight.exchange.unitOf role ≠ fight.exchange.opponentOf role)
    (profile : StrikeProfile) (damage : Nat) :
    (fight.struck role profile damage).roster.get? (fight.exchange.unitOf role) =
      (fight.field.roster.get? (fight.exchange.unitOf role)).map fun striker =>
        if profile.drains = true ∧ 0 < damage then striker.heal (damage / 2) else striker :=
  (Roster.get?_update_of_ne _ (Ne.symm distinct) profile.afflict).trans
    (get?_deal_striker distinct profile damage)

theorem keeps_struck {profile : StrikeProfile}
    (unhurt : ∀ unit n, trait (unit.takeDamage n) = trait unit)
    (unhealed : ∀ unit n, trait (unit.heal n) = trait unit)
    (unafflicted : ∀ unit, trait (profile.afflict unit) = trait unit) (role : Role)
    (damage : Nat) (fight : Fight ρ σ) :
    fight.field.Keeps trait (fight.struck role profile damage) :=
  (keeps_deal trait unhurt unhealed role profile damage fight).trans
    (Battlefield.keeps_update trait unafflicted _ _)

/-- What a swing in the books can come to: a miss, a hit that leaves the exchange going, a target
that turns to stone, or a death. -/
inductive Swung (observer : Observer σ) (catalog : Catalog) (role : Role)
    (profile : StrikeProfile) (striker target : Combatant) (record : SwingRecord)
    (fight : Fight ρ σ) : Fight ρ σ → Prop
  | missed (miss : record.hit = false) :
      Swung observer catalog role profile striker target record fight fight
  | endured (hit : record.hit = true)
      (survived : target.hitpoints - min record.damage target.hitpoints ≠ 0)
      (harmless : profile.petrifies = false) :
      Swung observer catalog role profile striker target record fight
        { fight with field := fight.struck role profile (min record.damage target.hitpoints) }
  | petrified (hit : record.hit = true)
      (survived : target.hitpoints - min record.damage target.hitpoints ≠ 0)
      (petrifies : profile.petrifies = true) :
      Swung observer catalog role profile striker target record fight
        (finish observer .petrified
          { fight with
            field := fight.struck role profile (min record.damage target.hitpoints)
            exchange := { fight.exchange with attackerSwings := 0, defenderSwings := 0 } })
  | killed (hit : record.hit = true)
      (lethal : target.hitpoints - min record.damage target.hitpoints = 0) :
      Swung observer catalog role profile striker target record fight
        ((fight.deal role profile (min record.damage target.hitpoints)).resolveDeath observer
          catalog role striker target profile.contagion)

namespace Swung

variable {catalog : Catalog} {role : Role} {profile : StrikeProfile} {striker target : Combatant}
  {record : SwingRecord} {fight after : Fight ρ σ}

theorem after_eq (swung : Swung observer catalog role profile striker target record fight after) :
    after =
      if record.hit then fight.applyHit observer catalog role profile striker target record
      else fight := by
  cases swung with
  | missed miss => simp [miss]
  | endured hit survived harmless =>
      simp only [hit, if_true, applyHit, survived, if_false, harmless, Bool.false_eq_true]
      rfl
  | petrified hit survived petrifies =>
      simp only [hit, if_true, applyHit, survived, if_false, petrifies]
      rfl
  | killed hit lethal => simp [hit, applyHit, lethal]

theorem rolls_eq (swung : Swung observer catalog role profile striker target record fight after) :
    after.rolls = fight.rolls := by
  cases swung with
  | missed => rfl
  | endured => rfl
  | petrified => simp
  | killed => simp

/-- Whatever a swing comes to, it changes no more of the exchange than what is left to swing, how it
has ended and who has risen. -/
theorem exchange_eq
    (swung : Swung observer catalog role profile striker target record fight after)
    (going : fight.exchange.ending = none) :
    after.exchange =
      { fight.exchange with
        attackerSwings := after.exchange.attackerSwings
        defenderSwings := after.exchange.defenderSwings
        spawned := after.exchange.spawned
        ending := after.exchange.ending } := by
  cases swung with
  | missed => rfl
  | endured => rfl
  | petrified =>
      rw [exchange_finish]
      exact going
  | killed =>
      rw [exchange_resolveDeath]
      · rfl
      · exact going

/-- A swing that is not lethal keeps whatever no wound and no condition touches. -/
theorem keeps_of_survived (leaves : observer.LeavesField)
    (swung : Swung observer catalog role profile striker target record fight after)
    (survives : record.hit = true → target.hitpoints - min record.damage target.hitpoints ≠ 0)
    (unhurt : ∀ unit n, trait (unit.takeDamage n) = trait unit)
    (unhealed : ∀ unit n, trait (unit.heal n) = trait unit)
    (ungained : ∀ unit n, trait (unit.gainExperience n) = trait unit)
    (unafflicted : ∀ unit, trait (profile.afflict unit) = trait unit) :
    fight.field.Keeps trait after.field := by
  have struck := keeps_struck trait unhurt unhealed unafflicted role
    (min record.damage target.hitpoints) fight
  cases swung with
  | missed => exact .refl _ _
  | endured => exact struck
  | petrified =>
      let stopped : Fight ρ σ :=
        { fight with
          field := fight.struck role profile (min record.damage target.hitpoints)
          exchange := { fight.exchange with attackerSwings := 0, defenderSwings := 0 } }
      exact struck.trans (keeps_finish trait leaves ungained .petrified stopped)
  | killed hit lethal => exact absurd lethal (survives hit)

end Swung

variable [RollSource ρ]

/-- The record of the next swing: the outcome of the next roll, settled with the given record. -/
def nextRecord (profile : StrikeProfile) (target : Combatant) (given : Option SwingRecord)
    (fight : Fight ρ σ) : SwingRecord :=
  (profile.outcome (RollSource.roll fight.rolls).1 target.hitpoints).reconciled given
    target.hitpoints

/-- The fight with its next swing in the books, before anything is done to the field. -/
def booked (role : Role) (profile : StrikeProfile) (target : Combatant)
    (given : Option SwingRecord) (fight : Fight ρ σ) : Fight ρ σ :=
  { fight with
    rolls := (RollSource.roll fight.rolls).2
    exchange :=
      { fight.exchange.spend role with
        swings :=
          (fight.exchange.spend role).swings.push
            { striker := role, record := fight.nextRecord profile target given }
        desyncs :=
          low32 ((fight.exchange.spend role).desyncs +
            ((profile.outcome (RollSource.roll fight.rolls).1 target.hitpoints).disputed
              given).toNat) } }

theorem swing_eq (catalog : Catalog) (role : Role) (profile : StrikeProfile)
    (striker target : Combatant) (given : Option SwingRecord) (fight : Fight ρ σ) :
    fight.swing observer catalog role profile striker target given =
      (fight.nextRecord profile target given,
        if (fight.nextRecord profile target given).hit then
          (fight.booked role profile target given).applyHit observer catalog role profile striker
            target (fight.nextRecord profile target given)
        else
          fight.booked role profile target given) := by
  rcases drawn : RollSource.roll fight.rolls with ⟨roll, rolls⟩
  simp only [swing, nextRecord, booked, drawn]
  split <;> rfl

/-- A swing goes into the books and then comes to one of four things. -/
theorem swung_swing (observer : Observer σ) (catalog : Catalog) (role : Role)
    (profile : StrikeProfile) (striker target : Combatant) (given : Option SwingRecord)
    (fight : Fight ρ σ) :
    (fight.swing observer catalog role profile striker target given).1 =
        fight.nextRecord profile target given ∧
      Swung observer catalog role profile striker target (fight.nextRecord profile target given)
        (fight.booked role profile target given)
        (fight.swing observer catalog role profile striker target given).2 := by
  rw [swing_eq]
  refine ⟨rfl, ?_⟩
  simp only
  by_cases hit : (fight.nextRecord profile target given).hit = true
  · rw [if_pos hit]
    unfold applyHit
    simp only
    split
    · rename_i lethal
      exact .killed hit lethal
    · rename_i survived
      split
      · rename_i petrifies
        exact .petrified hit survived petrifies
      · rename_i harmless
        exact .endured hit survived (Bool.eq_false_iff.mpr harmless)
  · rw [if_neg hit]
    exact .missed (Bool.eq_false_iff.mpr hit)

end Fight
end Hexfield
