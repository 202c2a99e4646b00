import Hexfield.Proofs.Battlefield.Bearing
import Hexfield.Proofs.Damage.Exactness
import Hexfield.Proofs.Hex.Distance
import Hexfield.Proofs.Roster.Consistency
import Mathlib.Data.Bool.Basic
import Mathlib.Tactic.GCongr
import Mathlib.Tactic.Positivity

namespace Hexfield

/-!
What sets an attack back.

A blow has five measures: the damage of its weapon, the strength of the striker, the times that it
is doubled, the resistance that it meets, and what the damage is divided by.  Each of them moves the
exact damage one way, and rounding keeps the order of exact damages, also where halves change their
direction.  A setback moves one of the measures against the attacker and none in its favour.  The
one that is not plain to see is resistance: steadfastness doubles it between zero and the cap only,
but what is doubled stays below the cap, and what is not doubled is already there.
-/

/-! ## Measures of a blow -/

namespace Battlefield

/-- By no measure is a blow stronger than another one on another field. -/
structure NoStronger (after : Battlefield) (blow' : Blow) (field : Battlefield) (blow : Blow) :
    Prop where
  base : blow'.weapon.damage ≤ blow.weapon.damage
  strength : after.strength blow'.striker ≤ field.strength blow.striker
  doublings : blow'.doublings ≤ blow.doublings
  resistance : field.resistanceMet blow ≤ after.resistanceMet blow'
  slowing : field.slowing blow.striker ≤ after.slowing blow'.striker

variable {field after : Battlefield} {blow blow' : Blow}

theorem NoStronger.exactDamage_le (weaker : after.NoStronger blow' field blow)
    (divides : 1 ≤ field.rules.slowDivisor) :
    after.exactDamage blow' ≤ field.exactDamage blow := by
  have strength : (0 : ℚ) ≤ after.strength blow'.striker := by
    exact_mod_cast after.strength_nonneg blow'.striker
  have strength' : (0 : ℚ) ≤ field.strength blow.striker := by
    exact_mod_cast field.strength_nonneg blow.striker
  have slowing : 0 < field.slowing blow.striker := slowing_pos divides _
  have base := weaker.base
  have stronger := weaker.strength
  have doublings := weaker.doublings
  have resistance := weaker.resistance
  have slower := weaker.slowing
  unfold exactDamage
  gcongr
  exact one_le_two

theorem NoStronger.dueDamage_le (weaker : after.NoStronger blow' field blow)
    (divides : 1 ≤ field.rules.slowDivisor) : after.dueDamage blow' ≤ field.dueDamage blow :=
  settledDamage_mono (after.exactDamage_nonneg blow') weaker.base (weaker.exactDamage_le divides)

end Battlefield

theorem Rules.one_le_slowDivisor {rules : Rules} (valid : rules.flaw? = none) :
    1 ≤ rules.slowDivisor := by
  unfold Rules.flaw? at valid
  split_ifs at valid
  omega

/-! ## Changes of a unit -/

/-- The weapon without an ability. -/
def Weapon.without (weapon : Weapon) (special : Special) : Weapon :=
  { weapon with specials := weapon.specials.filter fun carried => !carried.sameKind special }

theorem Weapon.hasSpecial_of_without {weapon : Weapon} {lost special : Special}
    (has : (weapon.without lost).hasSpecial special = true) : weapon.hasSpecial special = true := by
  rcases List.any_eq_true.mp has with ⟨carried, kept, same⟩
  exact List.any_eq_true.mpr ⟨carried, (List.mem_filter.mp kept).1, same⟩

namespace Combatant

/-- The unit with one of its weapons changed. -/
def rework (unit : Combatant) (index : ℕ) (change : Weapon → Weapon) : Combatant :=
  { unit with weapons := unit.weapons.modify index change }

theorem getElem?_weapons_rework {unit : Combatant} {index : ℕ} {weapon : Weapon}
    (carried : unit.weapons[index]? = some weapon) (change : Weapon → Weapon) :
    (unit.rework index change).weapons[index]? = some (change weapon) := by
  rw [rework, List.getElem?_modify, carried]
  simp

def slow (unit : Combatant) : Combatant :=
  { unit with status := { unit.status with slowed := true } }

/-- The unit, steadfast on the listed terrains. -/
def steady (unit : Combatant) (terrains : List Terrain) : Combatant :=
  { unit with abilities := { unit.abilities with steadfast := some terrains } }

/-- A unit strikes no harder with a weapon than another one does. -/
structure NoSharper (index : ℕ) (unit' unit : Combatant) : Prop where
  slowed : unit.status.slowed = true → unit'.status.slowed = true
  weapon : ∀ {weapon}, unit.weapons[index]? = some weapon →
    ∃ weapon', unit'.weapons[index]? = some weapon' ∧ weapon'.damage ≤ weapon.damage ∧
      weapon'.damageType = weapon.damageType ∧
      ∀ special, weapon'.hasSpecial special = true → weapon.hasSpecial special = true

/-- A unit withstands damage of a type no less than another one does. -/
structure NoSofter (damageType : DamageType) (unit' unit : Combatant) : Prop where
  resistance : unit.resistances.get damageType ≤ unit'.resistances.get damageType
  steadfast : ∀ terrain, unit.steadfastOn terrain = true → unit'.steadfastOn terrain = true

theorem NoSharper.of_same {index : ℕ} {unit unit' : Combatant}
    (slowed : unit.status.slowed = true → unit'.status.slowed = true)
    (weapons : unit'.weapons = unit.weapons) : NoSharper index unit' unit :=
  ⟨slowed, fun carried => ⟨_, weapons ▸ carried, le_rfl, rfl, fun _ has => has⟩⟩

theorem NoSofter.of_same {damageType : DamageType} {unit unit' : Combatant}
    (resistances : unit'.resistances = unit.resistances)
    (abilities : unit'.abilities = unit.abilities) : NoSofter damageType unit' unit := by
  constructor
  · rw [resistances]
  · intro terrain steadfast
    rwa [steadfastOn, abilities]

end Combatant

namespace Battlefield

variable {field after : Battlefield} {blow blow' : Blow}

theorem Keeps.strength (keeps : field.Keeps Combatant.bearing after) {unit unit' : Combatant}
    (same : unit'.bearing = unit.bearing) : after.strength unit' = field.strength unit := by
  rw [Battlefield.strength, Battlefield.strength, daylightBonus_congr keeps.time same,
    keeps.leadershipBonus same]

theorem slowing_le {unit unit' : Combatant} (divides : 1 ≤ field.rules.slowDivisor)
    (divisor : after.rules.slowDivisor = field.rules.slowDivisor)
    (slowed : unit.status.slowed = true → unit'.status.slowed = true) :
    field.slowing unit ≤ after.slowing unit' := by
  by_cases slow : unit.status.slowed = true
  · rw [slowing, slowing, if_pos slow, if_pos (slowed slow), divisor]
  · rw [slowing, if_neg slow]
    exact slowing_pos (divisor ▸ divides) unit'

/-- An attack is doubled no more often with a weapon of fewer abilities and with the defender's back
no less covered. -/
theorem doublings_le {attacker attacker' defender defender' : Combatant} {weapon weapon' : Weapon}
    (index : ℕ)
    (fewer : ∀ special, weapon'.hasSpecial special = true → weapon.hasSpecial special = true)
    (back : after.canBackstab attacker'.hex defender'.hex = true →
      field.canBackstab attacker.hex defender.hex = true) :
    (after.pair attacker' defender' index weapon').attackerBlow.doublings ≤
      (field.pair attacker defender index weapon).attackerBlow.doublings := by
  apply Nat.add_le_add
  · exact Bool.toNat_le_toNat (Bool.le_iff_imp.mpr (fewer _))
  · apply Bool.toNat_le_toNat
    apply Bool.le_iff_imp.mpr
    intro stabs
    rcases Bool.and_eq_true_iff.mp stabs with ⟨able, exposed⟩
    exact Bool.and_eq_true_iff.mpr ⟨fewer _ able, back exposed⟩

theorem resistanceMet_mono (board : after.board = field.board)
    (cap : after.rules.steadfastCap = field.rules.steadfastCap)
    (hex : blow'.target.hex = blow.target.hex)
    (damageType : blow'.weapon.damageType = blow.weapon.damageType)
    (defends : blow.targetDefends = true → blow'.targetDefends = true)
    (tougher : blow'.target.NoSofter blow.weapon.damageType blow.target) :
    field.resistanceMet blow ≤ after.resistanceMet blow' := by
  have terrain : after.terrainAt blow'.target.hex = field.terrainAt blow.target.hex := by
    rw [terrainAt, terrainAt, board, hex]
  have resistance := tougher.resistance
  have steadfast := tougher.steadfast (field.terrainAt blow.target.hex)
  simp only [resistanceMet, terrain, cap, damageType]
  split
  · rename_i doubled
    rcases doubled with ⟨defended, steady, positive, below⟩
    split
    · omega
    · rename_i plain
      -- A resistance that was doubled and no longer is has passed the cap.
      have reached : field.rules.steadfastCap ≤
          blow'.target.resistances.get blow.weapon.damageType := by
        by_contra under
        exact plain ⟨defends defended, steadfast steady, by omega, by omega⟩
      omega
  · split <;> omega

/-! ## Setbacks -/

/-- What sets an attack back: the field after it, compared with the field and the pairing before.
Leaders, the hour and the hex behind the defender are the only things off the two units that
count. -/
inductive Setback (field : Battlefield) (attacker defender : UnitId) (pairing : Pairing) :
    Battlefield → Prop
  /-- The weapon of the attacker does less damage. -/
  | blunted (damage : ℕ) (less : damage ≤ pairing.weapon.damage) :
      Setback field attacker defender pairing
        (field.update attacker (·.rework pairing.weaponIndex fun weapon => { weapon with damage }))
  /-- It loses an ability, for instance that of charging. -/
  | dulled (lost : Special) :
      Setback field attacker defender pairing
        (field.update attacker (·.rework pairing.weaponIndex (·.without lost)))
  /-- The attacker is slowed. -/
  | slowed : Setback field attacker defender pairing (field.update attacker Combatant.slow)
  /-- The defender resists the weapon better. -/
  | resisted (value : ℤ)
      (more : pairing.defender.resistances.get pairing.weapon.damageType ≤ value) :
      Setback field attacker defender pairing
        (field.update defender (·.withResistance pairing.weapon.damageType value))
  /-- The defender becomes steadfast, and remains so where it already was. -/
  | steadied (terrains : List Terrain)
      (still : ∀ terrain, pairing.defender.steadfastOn terrain = true →
        (pairing.defender.steady terrains).steadfastOn terrain = true) :
      Setback field attacker defender pairing (field.update defender (·.steady terrains))
  /-- The hour or a leader helps the attacker less, for whatever reason. -/
  | dispirited {after : Battlefield} (alignment : Alignment) (level : ℕ)
      (board : after.board = field.board)
      (rules : after.rules =
        { field.rules with leadershipPerLevel := after.rules.leadershipPerLevel })
      (attackerAlive : after.roster.get? attacker = some { pairing.attacker with alignment, level })
      (defenderAlive : after.roster.get? defender = some pairing.defender)
      (back : after.canBackstab pairing.attacker.hex pairing.defender.hex =
        field.canBackstab pairing.attacker.hex pairing.defender.hex)
      (daylight : after.daylightBonus { pairing.attacker with alignment, level } ≤
        field.daylightBonus pairing.attacker)
      (leadership : after.leadershipBonus { pairing.attacker with alignment, level } ≤
        field.leadershipBonus pairing.attacker) :
      Setback field attacker defender pairing after
  /-- No one stands behind the defender any more. -/
  | unflanked {after : Battlefield} (behind : Hex)
      (opposite : pairing.defender.hex.oppositeOf pairing.attacker.hex = some behind)
      (board : after.board = field.board)
      (time : after.time = field.time)
      (rules : after.rules = field.rules)
      (attackerAlive : after.roster.get? attacker = some pairing.attacker)
      (defenderAlive : after.roster.get? defender = some pairing.defender)
      (gone : after.roster.unitAt? behind = none)
      (elsewhere : ∀ hex, hex ≠ behind → after.roster.unitAt? hex = field.roster.unitAt? hex) :
      Setback field attacker defender pairing after

variable {attackerId defenderId : UnitId} {index : ℕ} {pairing : Pairing}

/-- Whichever unit is changed, if it strikes no harder and withstands no less, the attack is no
stronger. -/
theorem noStronger_update (paired : field.pairing attackerId defenderId index = .ok pairing)
    (divides : 1 ≤ field.rules.slowDivisor) {id : UnitId} {change : Combatant → Combatant}
    (bearing : ∀ unit, (change unit).bearing = unit.bearing)
    (hinders : ∀ unit, field.roster.get? id = some unit →
      (change unit).NoSharper index unit ∧
        (change unit).NoSofter pairing.weapon.damageType unit) :
    ∃ pairing', (field.update id change).pairing attackerId defenderId index = .ok pairing' ∧
      (field.update id change).NoStronger pairing'.attackerBlow field pairing.attackerBlow := by
  rcases pairing_eq_ok_iff.mp paired with
    ⟨attacker, defender, weapon, attackerAlive, defenderAlive, carried, rfl⟩
  have keeps := keeps_update Combatant.bearing bearing field id
  -- The changed unit may be either of the two, both of them, or a third one.
  have kept : ∀ {other unit}, field.roster.get? other = some unit →
      ∃ unit', (field.update id change).roster.get? other = some unit' ∧
        unit'.bearing = unit.bearing ∧ unit'.NoSharper index unit ∧
          unit'.NoSofter weapon.damageType unit := by
    intro other unit alive
    by_cases changed : id = other
    · subst changed
      refine ⟨change unit, ?_, bearing unit, hinders unit alive⟩
      rw [update, Roster.get?_update_self, alive]
      rfl
    · refine ⟨unit, ?_, rfl, .of_same (fun slowed => slowed) rfl, .of_same rfl rfl⟩
      rw [update, Roster.get?_update_of_ne _ changed, alive]
  rcases kept attackerAlive with ⟨attacker', attackerAlive', sameAttacker, noSharper, -⟩
  rcases kept defenderAlive with ⟨defender', defenderAlive', sameDefender, -, noSofter⟩
  rcases noSharper.weapon carried with ⟨weapon', carried', less, sameType, fewer⟩
  have attackerHex : attacker'.hex = attacker.hex := congrArg Bearing.hex sameAttacker
  have defenderHex : defender'.hex = defender.hex := congrArg Bearing.hex sameDefender
  refine ⟨(field.update id change).pair attacker' defender' index weapon',
    pairing_eq_ok_iff.mpr ⟨_, _, _, attackerAlive', defenderAlive', carried', rfl⟩, ?_⟩
  refine ⟨less, (keeps.strength sameAttacker).le, doublings_le index fewer ?_,
    resistanceMet_mono rfl rfl defenderHex sameType (fun defends => defends) noSofter,
    slowing_le divides rfl noSharper.slowed⟩
  rw [attackerHex, defenderHex, keeps.canBackstab]
  exact fun back => back

/-- So it is if the attacker's weapon is changed for a worse one. -/
theorem noStronger_rework (paired : field.pairing attackerId defenderId index = .ok pairing)
    (divides : 1 ≤ field.rules.slowDivisor) {change : Weapon → Weapon}
    (less : (change pairing.weapon).damage ≤ pairing.weapon.damage)
    (sameType : (change pairing.weapon).damageType = pairing.weapon.damageType)
    (fewer : ∀ special, (change pairing.weapon).hasSpecial special = true →
      pairing.weapon.hasSpecial special = true) :
    ∃ pairing', (field.update attackerId (·.rework pairing.weaponIndex change)).pairing
        attackerId defenderId index = .ok pairing' ∧
      (field.update attackerId (·.rework pairing.weaponIndex change)).NoStronger
        pairing'.attackerBlow field pairing.attackerBlow := by
  rw [weaponIndex_of_pairing paired]
  apply noStronger_update paired divides
  · intro unit
    rfl
  · intro unit alive
    rcases pairing_eq_ok_iff.mp paired with ⟨attacker, _, weapon, found, -, carried, rfl⟩
    cases found.symm.trans alive
    refine ⟨⟨fun slowed => slowed, ?_⟩, .of_same rfl rfl⟩
    intro other carried'
    cases carried.symm.trans carried'
    exact ⟨change weapon, Combatant.getElem?_weapons_rework carried change, less, sameType, fewer⟩

/-- Every setback leaves an attack that is no stronger. -/
theorem Setback.noStronger (setback : field.Setback attackerId defenderId pairing after)
    (paired : field.pairing attackerId defenderId index = .ok pairing)
    (divides : 1 ≤ field.rules.slowDivisor) :
    ∃ pairing', after.pairing attackerId defenderId index = .ok pairing' ∧
      after.NoStronger pairing'.attackerBlow field pairing.attackerBlow := by
  have units := units_of_pairing paired
  cases setback with
  | blunted damage less =>
      exact noStronger_rework paired divides less rfl fun _ has => has
  | dulled lost =>
      exact noStronger_rework paired divides le_rfl rfl fun _ => Weapon.hasSpecial_of_without
  | slowed =>
      apply noStronger_update paired divides
      · intro unit
        rfl
      · intro unit _
        exact ⟨.of_same (fun _ => rfl) rfl, .of_same rfl rfl⟩
  | resisted value more =>
      apply noStronger_update paired divides
      · intro unit
        rfl
      · intro unit alive
        cases units.2.symm.trans alive
        refine ⟨.of_same (fun slowed => slowed) rfl, ?_, fun _ steadfast => steadfast⟩
        rwa [Combatant.withResistance, Resistances.get_set, if_pos rfl]
  | steadied terrains still =>
      apply noStronger_update paired divides
      · intro unit
        rfl
      · intro unit alive
        cases units.2.symm.trans alive
        exact ⟨.of_same (fun slowed => slowed) rfl, le_rfl, still⟩
  | dispirited alignment level board rules attackerAlive defenderAlive back daylight leadership =>
      rcases pairing_eq_ok_iff.mp paired with ⟨attacker, defender, weapon, -, -, carried, rfl⟩
      refine ⟨after.pair { attacker with alignment, level } defender index weapon,
        pairing_eq_ok_iff.mpr ⟨_, _, _, attackerAlive, defenderAlive, carried, rfl⟩, ?_⟩
      refine ⟨le_rfl, ?_, ?_, ?_, ?_⟩
      · exact max_le_max_left 0 (add_le_add (Int.add_le_add_left daylight 100) leadership)
      · exact doublings_le index (fun _ has => has) back.symm.trans
      · apply resistanceMet_mono board _ rfl rfl (fun defends => defends) (.of_same rfl rfl)
        rw [rules]
      · apply slowing_le divides _ (fun slowed => slowed)
        rw [rules]
  | unflanked behind opposite board time rules attackerAlive defenderAlive gone elsewhere =>
      rcases pairing_eq_ok_iff.mp paired with ⟨attacker, defender, weapon, -, -, carried, rfl⟩
      refine ⟨after.pair attacker defender index weapon,
        pairing_eq_ok_iff.mpr ⟨_, _, _, attackerAlive, defenderAlive, carried, rfl⟩, ?_⟩
      refine ⟨le_rfl, ?_, ?_, ?_, ?_⟩
      · change after.strength attacker ≤ field.strength attacker
        rw [strength, strength, daylightBonus_congr time rfl,
          leadershipBonus_congr (congrArg Rules.leadershipPerLevel rules) rfl]
        intro hex next
        -- Whoever flanks for the attacker stands too far from it to lead it.
        have apart : hex ≠ behind := by
          rintro rfl
          cases (Hex.distance_of_oppositeOf opposite).2.symm.trans
            (Hex.distance_of_mem_neighbors next)
        rw [elsewhere hex apart]
      · apply doublings_le index (fun _ has => has)
        intro back
        cases back.symm.trans (canBackstab_eq_false opposite gone)
      · apply resistanceMet_mono board _ rfl rfl (fun defends => defends) (.of_same rfl rfl)
        rw [rules]
      · apply slowing_le divides _ (fun slowed => slowed)
        rw [rules]

theorem Setback.slowDivisor_eq (setback : field.Setback attackerId defenderId pairing after) :
    after.rules.slowDivisor = field.rules.slowDivisor := by
  cases setback with
  | dispirited _ _ _ rules => rw [rules]
  | unflanked _ _ _ _ rules => rw [rules]
  | _ => rfl

/-- A unit that falls leaves no one behind the defender, where it stood. -/
theorem Setback.of_erase {id : UnitId} {flanker : Combatant}
    (consistent : field.roster.Consistent)
    (paired : field.pairing attackerId defenderId index = .ok pairing)
    (alive : field.roster.get? id = some flanker)
    (opposite : pairing.defender.hex.oppositeOf pairing.attacker.hex = some flanker.hex) :
    field.Setback attackerId defenderId pairing (field.erase id) := by
  have units := units_of_pairing paired
  have attackerApart : id ≠ attackerId := by
    rintro rfl
    cases alive.symm.trans units.1
    cases (Hex.distance_of_oppositeOf opposite).2.symm.trans (Hex.distance_self _)
  have defenderApart : id ≠ defenderId := by
    rintro rfl
    cases alive.symm.trans units.2
    cases (Hex.distance_of_oppositeOf opposite).1.symm.trans (Hex.distance_self _)
  have attackerAlive : (field.erase id).roster.get? attackerId = some pairing.attacker := by
    rw [erase, Roster.get?_erase, if_neg attackerApart]
    exact units.1
  have defenderAlive : (field.erase id).roster.get? defenderId = some pairing.defender := by
    rw [erase, Roster.get?_erase, if_neg defenderApart]
    exact units.2
  have left := consistent.unitAt?_erase alive
  refine .unflanked flanker.hex opposite rfl rfl rfl attackerAlive defenderAlive ?_ ?_
  · exact (left flanker.hex).trans (if_pos rfl)
  · intro hex apart
    exact (left hex).trans (if_neg apart.symm)

/-- After a setback the attacker does no more damage. -/
theorem damage_le_of_setback (paired : field.pairing attackerId defenderId index = .ok pairing)
    (valid : field.rules.flaw? = none)
    (setback : field.Setback attackerId defenderId pairing after)
    (fits : field.dueDamage pairing.attackerBlow < UInt32.size) :
    ∃ matchup matchup', field.matchup attackerId defenderId index = .ok matchup ∧
      after.matchup attackerId defenderId index = .ok matchup' ∧
      matchup'.attacker.damage ≤ matchup.attacker.damage := by
  have divides := Rules.one_le_slowDivisor valid
  rcases setback.noStronger paired divides with ⟨pairing', paired', weaker⟩
  have less := weaker.dueDamage_le divides
  have before : ((pairing.matchup field).attacker.damage : ℤ) = field.dueDamage _ :=
    total_of_fits divides fits
  have later : ((pairing'.matchup after).attacker.damage : ℤ) = after.dueDamage _ :=
    total_of_fits (setback.slowDivisor_eq ▸ divides) (lt_of_le_of_lt less fits)
  refine ⟨_, _, matchup_of_pairing paired, matchup_of_pairing paired', ?_⟩
  omega

/-! ## The pincer opens -/

theorem consistent_pincer : pincer.roster.Consistent := by
  have lancer := Roster.consistent_empty.insert (by decide)
    (rfl : Roster.empty.insert .lancer = .ok (⟨0⟩, _))
  have sentinel := lancer.insert (by decide) (rfl : Roster.insert _ .sentinel = .ok (⟨1⟩, _))
  have skulker := sentinel.insert (by decide) (rfl : Roster.insert _ .skulker = .ok (⟨2⟩, _))
  exact skulker.insert (by decide) (rfl : Roster.insert _ .captain = .ok (⟨3⟩, pincer.roster))

/-- Once the skulker has fallen, the lancer does 16 points where it did 32. -/
theorem damage_le_of_setback_pincer :
    ∃ matchup matchup', pincer.matchup ⟨0⟩ ⟨1⟩ 0 = .ok matchup ∧
      (pincer.erase ⟨2⟩).matchup ⟨0⟩ ⟨1⟩ 0 = .ok matchup' ∧
      matchup'.attacker.damage ≤ matchup.attacker.damage ∧
      matchup.attacker.damage = 32 ∧ matchup'.attacker.damage = 16 := by
  have skulker : pincer.roster.get? ⟨2⟩ = some .skulker := rfl
  have behind : Combatant.sentinel.hex.oppositeOf Combatant.lancer.hex =
      some Combatant.skulker.hex := by decide
  rcases damage_le_of_setback pairing_pincer (by decide)
    (.of_erase consistent_pincer pairing_pincer skulker behind) (by decide +kernel) with
      ⟨matchup, matchup', read, read', less⟩
  have before : (pincer.matchup ⟨0⟩ ⟨1⟩ 0).toOption.map (·.attacker.damage) = some 32 := by
    decide +kernel
  have later : ((pincer.erase ⟨2⟩).matchup ⟨0⟩ ⟨1⟩ 0).toOption.map (·.attacker.damage) =
      some 16 := by
    decide +kernel
  rw [read] at before
  rw [read'] at later
  exact ⟨matchup, matchup', read, read', less, Option.some_inj.mp before,
    Option.some_inj.mp later⟩

end Battlefield
end Hexfield
