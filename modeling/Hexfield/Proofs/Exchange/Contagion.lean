import Hexfield.Proofs.Exchange.Rewards
import Hexfield.Proofs.Exchange.Truth

namespace Hexfield

/-!
Deaths in an exchange, and who rises from them.

A victim leaves the field before anyone can rise.  On a consistent roster its hex is then free, and
it is on the board as before; so a unit that contagion raises, and that the catalog knows, always
finds its place.  Whether one is raised is read off the pairing as it was before the blow, and
nothing but the hitpoints and conditions of its units has changed since the exchange began.
-/

theorem Catalog.hex_of_instantiate {catalog : Catalog} {unitType : String} {side : Side}
    {hex : Hex} {unit : Combatant}
    (raised : catalog.instantiate unitType side hex = some unit) : unit.hex = hex := by
  rcases Option.map_eq_some_iff.mp raised with ⟨template, -, rfl⟩
  rfl

/-- The weapon raises its victims as units of a type: the type that its contagion names, or else
the wielder's own.  Of several contagions the first counts. -/
def Weapon.RaisesAs (weapon : Weapon) (wielderType unitType : String) : Prop :=
  ∃ earlier named later, weapon.specials = earlier ++ .contagion named :: later ∧
    (∀ special ∈ earlier, ∀ other, special ≠ .contagion other) ∧
    unitType = named.getD wielderType

theorem Weapon.spawnType?_eq_some_iff {weapon : Weapon} {wielderType unitType : String} :
    weapon.spawnType? wielderType = some unitType ↔ weapon.RaisesAs wielderType unitType := by
  rw [spawnType?, List.findSome?_eq_some_iff]
  constructor
  · rintro ⟨earlier, special, later, specials, named, others⟩
    cases special <;> cases named
    refine ⟨earlier, _, later, specials, ?_, rfl⟩
    rintro special member other rfl
    cases others _ member
  · rintro ⟨earlier, named, later, specials, others, rfl⟩
    refine ⟨earlier, .contagion named, later, specials, rfl, fun special member => ?_⟩
    cases special <;> first | rfl | exact absurd rfl (others _ member _)

/-- The weapon with which a part strikes; none, if the part cannot strike. -/
def Pairing.weaponOf (pairing : Pairing) : Role → Option Weapon
  | .attacker => some pairing.weapon
  | .defender => pairing.counter.map Prod.snd

namespace Battlefield

/-- Every live unit stands on the board. -/
def OnBoard (field : Battlefield) : Prop :=
  ∀ id unit, field.roster.get? id = some unit → field.board.inBounds unit.hex = true

theorem Keeps.onBoard {before after : Battlefield} (keeps : before.Keeps Combatant.hex after)
    (onBoard : before.OnBoard) : after.OnBoard := by
  intro id unit alive
  have same := keeps.units id
  rw [alive] at same
  rcases Option.map_eq_some_iff.mp same.symm with ⟨unit', alive', here⟩
  rw [keeps.board, ← here]
  exact onBoard id unit' alive'

/-- A victim of a weapon rises as a unit: the victim has lived, its hex is not a village that keeps
it from rising, and the unit is a fresh one of the type that the weapon raises, on the striker's
side and on the victim's hex. -/
structure Rises (field : Battlefield) (catalog : Catalog) (striker victim : Combatant)
    (weapon : Weapon) (unit : Combatant) : Prop where
  living : victim.living = true
  ground : field.rules.villageBlocksContagion = true → field.board.isVillage victim.hex = false
  raised : ∃ unitType template, weapon.RaisesAs striker.unitType unitType ∧
    catalog.find? unitType = some template ∧
    unit =
      { template with
        side := striker.side
        hex := victim.hex
        hitpoints := template.maxHitpoints
        experience := 0
        status := {}
        canRecruit := false }

theorem addUnit_of_free {field : Battlefield} {unit : Combatant}
    (inside : field.board.inBounds unit.hex = true)
    (free : field.roster.idAt? unit.hex = none) :
    ∃ id roster, field.roster.insert unit = .ok (id, roster) ∧
      field.addUnit unit = .ok (id, { field with roster }) := by
  rcases Roster.exists_insert_of_free free with ⟨roster, placed⟩
  refine ⟨_, roster, placed, ?_⟩
  unfold addUnit
  rw [if_pos inside, placed]
  rfl

theorem contagionAgainst_eq_some_iff {field : Battlefield} {striker target : Combatant}
    {weapon : Weapon} {unitType : String} :
    field.contagionAgainst striker target weapon = some unitType ↔
      target.living = true ∧
        (field.rules.villageBlocksContagion = true → field.board.isVillage target.hex = false) ∧
        weapon.RaisesAs striker.unitType unitType := by
  rw [← Weapon.spawnType?_eq_some_iff]
  unfold contagionAgainst
  cases target.living <;> cases field.rules.villageBlocksContagion <;>
    cases field.board.isVillage target.hex <;> simp

/-- The numbers of a blow tell as what its victim would rise. -/
theorem exists_instantiate_iff {field : Battlefield} {catalog : Catalog}
    {striker victim unit : Combatant} {weapon : Weapon} :
    (∃ unitType, field.contagionAgainst striker victim weapon = some unitType ∧
        catalog.instantiate unitType striker.side victim.hex = some unit) ↔
      field.Rises catalog striker victim weapon unit := by
  constructor
  · rintro ⟨unitType, contagion, instantiated⟩
    rcases contagionAgainst_eq_some_iff.mp contagion with ⟨living, ground, raises⟩
    rcases Option.map_eq_some_iff.mp instantiated with ⟨template, known, rfl⟩
    exact ⟨living, ground, unitType, template, raises, known, rfl⟩
  · rintro ⟨living, ground, unitType, template, raises, known, rfl⟩
    exact ⟨unitType, contagionAgainst_eq_some_iff.mpr ⟨living, ground, raises⟩,
      Option.map_eq_some_iff.mpr ⟨template, known, rfl⟩⟩

end Battlefield

/-- A part of a pairing raises the other part as a unit, if it kills it. -/
def Pairing.Raises (pairing : Pairing) (field : Battlefield) (catalog : Catalog) (role : Role)
    (unit : Combatant) : Prop :=
  ∃ weapon, pairing.weaponOf role = some weapon ∧
    field.Rises catalog (pairing.unitOf role) (pairing.opponentOf role) weapon unit

theorem Pairing.raises_iff {pairing : Pairing} {field : Battlefield} {catalog : Catalog}
    {role : Role} {unit : Combatant} :
    pairing.Raises field catalog role unit ↔
      ∃ unitType, ((pairing.matchup field).profileOf role).contagion = some unitType ∧
        catalog.instantiate unitType (pairing.unitOf role).side (pairing.opponentOf role).hex =
          some unit := by
  cases role with
  | attacker =>
      have armed : pairing.weaponOf .attacker = some pairing.weapon := rfl
      simp only [Raises, armed, Option.some.injEq, exists_eq_left',
        ← Battlefield.exists_instantiate_iff]
      rfl
  | defender =>
      simp only [Raises, weaponOf, Matchup.profileOf, matchup, defenderProfile]
      cases pairing.counter with
      | none => simp
      | some counter =>
          simp only [Option.map_some, Option.some.injEq, exists_eq_left',
            ← Battlefield.exists_instantiate_iff]
          rfl

/-- A swing kills a target: it hits, and its damage takes all hitpoints. -/
def SwingRecord.Kills (record : SwingRecord) (target : Combatant) : Prop :=
  record.hit = true ∧ target.hitpoints ≤ record.damage

theorem SwingRecord.kills_iff {record : SwingRecord} {target : Combatant} :
    record.Kills target ↔
      record.hit = true ∧ target.hitpoints - min record.damage target.hitpoints = 0 := by
  rw [Kills, Nat.sub_eq_zero_iff_le, Nat.le_min, and_iff_left (Nat.le_refl _)]

namespace Fight

variable {ρ σ : Type} {observer : Observer σ} {catalog : Catalog} {fight after : Fight ρ σ}

/-- What a death leaves behind, where `Raises` says as which units the victim may rise: the victim
is gone, the exchange is over, and there is a new unit exactly if the victim rises. -/
structure Buries (role : Role) (hex : Hex) (Raises : Combatant → Prop)
    (before after : Fight ρ σ) : Prop where
  gone : after.field.roster.get? (before.exchange.opponentOf role) = none
  ended : after.exchange.ending = some role.other.death
  consistent : after.field.roster.Consistent
  /-- The unit has a number that was never used before. -/
  risen : ∀ unit, Raises unit → ∃ id, after.exchange.report.spawned = some id ∧
    before.field.roster.slots.size ≤ id.val ∧ after.field.roster.get? id = some unit ∧
    after.field.roster.idAt? hex = some id
  unraised : (∀ unit, ¬ Raises unit) →
    after.exchange.report.spawned = none ∧ after.field.roster.idAt? hex = none
  others : ∀ id, after.exchange.report.spawned ≠ some id →
    (after.field.roster.get? id = none ↔
      before.field.roster.get? id = none ∨ before.exchange.opponentOf role = id)

/-! ## A death -/

/-- Where a hex of the board is free, the victim of a contagion that the catalog knows rises, and
otherwise nothing happens. -/
theorem haunted_of_free (leaves : observer.LeavesField) (catalog : Catalog)
    (contagion : Option String) (side : Side) {hex : Hex}
    (inside : fight.field.board.inBounds hex = true)
    (free : fight.field.roster.idAt? hex = none) :
    let haunted := fight.haunted observer catalog contagion side hex
    (∃ unitType unit id roster,
        contagion = some unitType ∧ catalog.instantiate unitType side hex = some unit ∧
          fight.field.roster.insert unit = .ok (id, roster) ∧
          haunted.field.roster = roster ∧ haunted.exchange.spawned = some id) ∨
      (∀ unitType, contagion = some unitType → catalog.instantiate unitType side hex = none) ∧
        haunted = fight := by
  cases contagion with
  | none => exact Or.inr ⟨nofun, rfl⟩
  | some unitType =>
      cases raised : catalog.instantiate unitType side hex with
      | none =>
          refine Or.inr ⟨?_, ?_⟩
          · rintro _ ⟨⟩
            exact raised
          · simp only [haunted, raise, raised]
      | some unit =>
          have here := Catalog.hex_of_instantiate raised
          rcases Battlefield.addUnit_of_free (here.symm ▸ inside) (here.symm ▸ free) with
            ⟨id, roster, placed, added⟩
          refine Or.inl ⟨unitType, unit, id, roster, rfl, raised, placed, ?_⟩
          simp [haunted, raise, raised, added, field_announce leaves]

theorem idAt?_mourned (leaves : observer.LeavesField) (consistent : fight.field.roster.Consistent)
    {role : Role} {victim : Combatant}
    (alive : (fight.field.roster.get? (fight.exchange.opponentOf role)).map Combatant.hex =
      some victim.hex) :
    (fight.mourned observer role victim).field.roster.Consistent ∧
      (fight.mourned observer role victim).field.roster.idAt? victim.hex = none := by
  simp only [mourned, field_announce leaves]
  have rewarded : fight.field.Keeps Combatant.hex (fight.field.update (fight.exchange.unitOf role)
      (·.gainExperience (fight.field.rules.experienceForKill victim.level))) :=
    Battlefield.keeps_update Combatant.hex
      (fun unit => (rfl : (unit.gainExperience _).hex = unit.hex)) _ _
  rw [← rewarded.units] at alive
  rcases Option.map_eq_some_iff.mp alive with ⟨unit, present, same⟩
  have still := rewarded.consistent consistent
  exact ⟨still.erase _, same ▸ still.idAt?_erase_self present⟩

/-- A death on a consistent roster leaves no one behind but the unit that rises. -/
theorem buries_resolveDeath (leaves : observer.LeavesField) (catalog : Catalog)
    (fight : Fight ρ σ) (going : fight.exchange.ending = none)
    (unspawned : fight.exchange.spawned = none)
    (distinct : fight.exchange.attacker ≠ fight.exchange.defender)
    (room : fight.field.roster.slots.size < UInt32.size)
    (consistent : fight.field.roster.Consistent) {role : Role} {victim : Combatant}
    (alive : (fight.field.roster.get? (fight.exchange.opponentOf role)).map Combatant.hex =
      some victim.hex)
    (inside : fight.field.board.inBounds victim.hex = true) (killer : Combatant)
    (contagion : Option String) :
    fight.Buries role victim.hex
      (fun unit => ∃ unitType, contagion = some unitType ∧
        catalog.instantiate unitType killer.side victim.hex = some unit)
      (fight.resolveDeath observer catalog role killer victim contagion) := by
  let mourned := fight.mourned observer role victim
  let after := fight.resolveDeath observer catalog role killer victim contagion
  have field : after.field =
      (mourned.haunted observer catalog contagion killer.side victim.hex).field :=
    field_resolveDeath leaves role killer victim contagion going
  have spawned : after.exchange.report.spawned =
      (mourned.haunted observer catalog contagion killer.side victim.hex).exchange.spawned :=
    spawned_resolveDeath role killer victim contagion going
  have ended := ending_resolveDeath observer catalog role killer victim contagion fight going
    distinct
  have size : mourned.field.roster.slots.size = fight.field.roster.slots.size :=
    size_slots_mourned leaves role victim fight
  have board : mourned.field.board = fight.field.board := board_mourned leaves role victim fight
  have stayed := get?_mourned_eq_none_iff leaves role victim fight
  rcases Option.map_eq_some_iff.mp alive with ⟨target, present, -⟩
  rcases idAt?_mourned leaves consistent alive with ⟨quiet, free⟩
  rcases haunted_of_free leaves catalog contagion killer.side (board ▸ inside) free with
    ⟨unitType, unit, id, roster, rfl, known, placed, rose, number⟩ | ⟨unknown, idle⟩
  · rw [← size] at room
    rcases Roster.insert_eq_ok_of_room room placed with ⟨fresh, units⟩
    rw [size] at fresh
    have here := Catalog.hex_of_instantiate known
    have found : after.field.roster.get? id = some unit := by
      rw [field, rose, units, if_pos rfl]
    have order : after.field.roster.Consistent := by
      rw [field, rose]
      exact quiet.insert room placed
    have others : ∀ other, after.exchange.report.spawned ≠ some other →
        (after.field.roster.get? other = none ↔
          fight.field.roster.get? other = none ∨ fight.exchange.opponentOf role = other) := by
      intro other different
      rw [spawned, number] at different
      rw [field, rose, units, if_neg fun same => different (congrArg some same)]
      exact stayed other
    have old : after.exchange.report.spawned ≠ some (fight.exchange.opponentOf role) := by
      rw [spawned, number]
      intro same
      have slot := Roster.lt_size_of_get? present
      rw [← Option.some.inj same, fresh] at slot
      exact absurd slot (Nat.lt_irrefl _)
    refine ⟨(others _ old).mpr (Or.inr rfl), ended, order, ?_, ?_, others⟩
    · rintro unit' ⟨unitType', ⟨⟩, known'⟩
      cases known.symm.trans known'
      exact ⟨id, spawned.trans number, Nat.le_of_eq fresh.symm, found, here ▸ order.idAt? found⟩
    · intro nobody
      exact absurd ⟨unitType, rfl, known⟩ (nobody unit)
  · have unraised : after.exchange.report.spawned = none := by
      rw [spawned, idle]
      exact unspawned
    rw [idle] at field
    refine ⟨?_, ended, ?_, ?_, fun _ => ⟨unraised, ?_⟩, fun other _ => ?_⟩
    · rw [field]
      exact (stayed _).mpr (Or.inr rfl)
    · rw [field]
      exact quiet
    · rintro unit ⟨unitType, rfl, known⟩
      cases (unknown unitType rfl).symm.trans known
    · rw [field]
      exact free
    · rw [field]
      exact stayed other

/-! ## A swing -/

/-- A death may be counted from any fight between the same units on which the same units live. -/
theorem Buries.of_keeps {first second : Fight ρ σ} {role : Role} {hex : Hex}
    {Raises : Combatant → Prop} (buries : second.Buries role hex Raises after)
    (keeps : first.field.Keeps (fun _ => ()) second.field)
    (size : second.field.roster.slots.size = first.field.roster.slots.size)
    (opponent : second.exchange.opponentOf role = first.exchange.opponentOf role) :
    first.Buries role hex Raises after := by
  refine ⟨?_, buries.ended, buries.consistent, ?_, buries.unraised, fun id different => ?_⟩
  · rw [← opponent]
    exact buries.gone
  · rw [← size]
    exact buries.risen
  · rw [buries.others id different, keeps.get?_eq_none_iff, opponent]

/-- A swing that kills leaves behind what a death leaves behind. -/
theorem Swung.buries {role : Role} {profile : StrikeProfile} {striker target : Combatant}
    {record : SwingRecord} (leaves : observer.LeavesField)
    (swung : Swung observer catalog role profile striker target record fight after)
    (going : fight.exchange.ending = none) (unspawned : fight.exchange.spawned = none)
    (distinct : fight.exchange.attacker ≠ fight.exchange.defender)
    (room : fight.field.roster.slots.size < UInt32.size)
    (consistent : fight.field.roster.Consistent)
    (alive : fight.field.roster.get? (fight.exchange.opponentOf role) = some target)
    (inside : fight.field.board.inBounds target.hex = true) (kills : record.Kills target) :
    fight.Buries role target.hex
      (fun unit => ∃ unitType, profile.contagion = some unitType ∧
        catalog.instantiate unitType striker.side target.hex = some unit) after := by
  rcases SwingRecord.kills_iff.mp kills with ⟨hit, lethal⟩
  cases swung with
  | missed miss => cases hit.symm.trans miss
  | endured _ survived _ => exact absurd lethal survived
  | petrified _ survived _ => exact absurd lethal survived
  | killed _ _ =>
      let dealt := fight.deal role profile (min record.damage target.hitpoints)
      have keeps : fight.field.Keeps Combatant.hex dealt.field :=
        keeps_deal Combatant.hex (fun _ _ => rfl) (fun _ _ => rfl) role profile _ fight
      have hurt : (dealt.field.roster.get? (dealt.exchange.opponentOf role)).map Combatant.hex =
          some target.hex := by
        rw [keeps.units]
        exact congrArg (Option.map Combatant.hex) alive
      have size := size_slots_deal role profile (min record.damage target.hitpoints) fight
      have buries := buries_resolveDeath leaves catalog dealt going unspawned distinct
        (size ▸ room) (keeps.consistent consistent) hurt (keeps.board ▸ inside) striker
        profile.contagion
      exact buries.of_keeps (keeps.factor fun _ => ()) size rfl

/-- A swing that does not kill removes no one, and no one rises from it. -/
theorem Swung.bloodless {role : Role} {profile : StrikeProfile} {striker target : Combatant}
    {record : SwingRecord} (leaves : observer.LeavesField)
    (swung : Swung observer catalog role profile striker target record fight after)
    (going : fight.exchange.ending = none) (unspawned : fight.exchange.spawned = none)
    (spares : ¬ record.Kills target) :
    after.exchange.report.spawned = none ∧ fight.field.Keeps (fun _ => ()) after.field := by
  rw [SwingRecord.kills_iff, not_and] at spares
  refine ⟨?_, swung.keeps_of_survived _ leaves spares (fun _ _ => rfl) (fun _ _ => rfl)
    (fun _ _ => rfl) fun _ => rfl⟩
  cases swung with
  | missed => exact unspawned
  | endured => exact unspawned
  | petrified =>
      change (finish observer .petrified _).exchange.spawned = none
      rw [exchange_finish]
      · exact unspawned
      · exact going
  | killed hit lethal => exact absurd lethal (spares hit)

end Fight

/-! ## A step of an exchange -/

namespace Scene

variable {ρ σ : Type} {observer : Observer σ} {scene : Scene ρ σ} {attacker defender : UnitId}
  {weapon : Nat} {fight : Fight ρ σ}

/-- A record that fits the target of the first swing is published as it was given. -/
theorem step_given_of_begin [RollSource ρ] (leaves : observer.LeavesField) (catalog : Catalog)
    (distinct : attacker ≠ defender)
    (begun : scene.begin observer attacker defender weapon = .ok fight) (role : Role)
    (first : (scene.field.matchup attacker defender weapon).toOption.bind
      (fun matchup => matchup.schedule.head?) = some role.mark)
    {given : SwingRecord}
    (fits : ∀ target, fight.field.roster.get? (fight.exchange.opponentOf role) = some target →
      given.Fits target.hitpoints) :
    ∃ after, fight.step observer catalog (some given) = (.ok (some given), after) ∧
      after.exchange.swings = #[{ striker := role, record := given }] := by
  rcases step_of_begin leaves catalog begun role first (some given) with
    ⟨record, after, stepped, swings⟩
  rcases opened_of_begin leaves begun with ⟨pairing, -, -, -, -, opened⟩
  rcases ready_of_begin leaves begun with ⟨-, -, ready, -⟩
  rcases (ready.goesOn_steps observer catalog []).of_step stepped with
    ⟨-, -, mark, rest, upcoming⟩
  have apart : fight.exchange.attacker ≠ fight.exchange.defender := by
    rw [opened]
    exact distinct
  have word : fight.exchange.desyncs < UInt32.size := by
    rw [opened]
    exact (by decide : 0 < UInt32.size)
  rcases ready.publishes word leaves apart catalog upcoming (some given) with
    ⟨role', record', after', stepped', -, publishes⟩
  cases stepped.symm.trans stepped'
  have booked := publishes.booked
  rw [swings, opened] at booked
  have swing := List.singleton_inj.mp (congrArg Array.toList booked)
  have sameRole : role = role' := congrArg AppliedSwing.striker swing
  subst sameRole
  rcases publishes.target with ⟨target, alive, -, asGiven⟩
  cases asGiven _ rfl (fits target alive)
  exact ⟨after, stepped, swings⟩

end Scene

/-! ## A graveyard -/

/-- Claws whose victims rise as units of the wielder's own type. -/
def Weapon.ghoulClaws : Weapon :=
  { name := "claws", damage := 4, strikes := 3, range := .melee, damageType := .blade
    specials := [.contagion none] }

def Combatant.ghoul : Combatant :=
  (ofType "Ghoul" ⟨1⟩ ⟨0, 0⟩ 33).withWeapon .ghoulClaws

/-- A field on which a ghoul stands beside an unarmed peasant. -/
def Battlefield.graveyard : Battlefield :=
  { skirmish with
    roster :=
      { skirmish.roster with slots := #[some .ghoul, some (.ofType "Peasant" ⟨2⟩ ⟨1, 0⟩ 18)] } }

theorem Battlefield.keeps_graveyard : skirmish.Keeps Combatant.hex graveyard := by
  refine ⟨rfl, rfl, rfl, rfl, rfl, fun id => ?_⟩
  match id with
  | ⟨0⟩ => rfl
  | ⟨1⟩ => rfl
  | ⟨_ + 2⟩ => rfl

theorem Battlefield.onBoard_skirmish : skirmish.OnBoard := by
  intro id unit alive
  match id with
  | ⟨0⟩ =>
      cases alive
      decide
  | ⟨1⟩ =>
      cases alive
      decide
  | ⟨_ + 2⟩ => cases alive

end Hexfield
