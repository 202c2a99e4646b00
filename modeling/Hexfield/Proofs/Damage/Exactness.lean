import Hexfield.Proofs.Damage.Rounding
import Hexfield.Proofs.Matchup.Pairing

namespace Hexfield

/-!
The exact damage of a blow.

Everything that strengthens or weakens a blow is a factor of one fraction, and the damage in a
matchup is this fraction, settled once.  The fraction is stated here from the field, the units and
the weapon alone; that the figure of a blow and the matchup come to the same is what is shown.
-/

namespace Battlefield

/-- The strength of a unit's blows in percent of their full damage: what the hour and a leader make
of it, but not less than nothing. -/
def strength (field : Battlefield) (striker : Combatant) : ℤ :=
  max 0 (100 + field.daylightBonus striker + field.leadershipBonus striker)

/-- The resistance that a blow meets, in percent.  Where the target is steadfast, a resistance
between zero and the cap is doubled, up to the cap. -/
def resistanceMet (field : Battlefield) (blow : Blow) : ℤ :=
  let resistance := blow.target.resistances.get blow.weapon.damageType
  let cap := field.rules.steadfastCap
  if blow.targetDefends ∧ blow.target.steadfastOn (field.terrainAt blow.target.hex) ∧
      0 < resistance ∧ resistance < cap then
    min (2 * resistance) cap
  else
    resistance

/-- What the damage of a unit is divided by: more than one only if it is slowed. -/
def slowing (field : Battlefield) (striker : Combatant) : ℕ :=
  if striker.status.slowed then field.rules.slowDivisor else 1

/-- The damage of a blow before it is rounded. -/
def exactDamage (field : Battlefield) (blow : Blow) : ℚ :=
  blow.weapon.damage * field.strength blow.striker * 2 ^ blow.doublings *
    max 0 (100 - field.resistanceMet blow) / (10000 * field.slowing blow.striker)

variable {field : Battlefield}

theorem resistance_damageFigure (field : Battlefield) (blow : Blow) :
    (field.damageFigure blow).resistance = field.resistanceMet blow := by
  simp only [damageFigure, resistanceTo, resistanceMet, mul_comm]
  split_ifs <;> rfl

theorem strength_nonneg (field : Battlefield) (striker : Combatant) :
    0 ≤ field.strength striker :=
  le_max_left _ _

theorem slowing_pos (divides : 1 ≤ field.rules.slowDivisor) (striker : Combatant) :
    0 < field.slowing striker := by
  unfold slowing
  split
  · exact divides
  · exact Nat.one_pos

theorem exactDamage_nonneg (field : Battlefield) (blow : Blow) : 0 ≤ field.exactDamage blow := by
  have strength : (0 : ℚ) ≤ field.strength blow.striker := by
    exact_mod_cast field.strength_nonneg blow.striker
  unfold exactDamage
  positivity

/-- The factors of a figure are those of the exact damage. -/
theorem exactDamage_eq (divides : 1 ≤ field.rules.slowDivisor) (blow : Blow) :
    field.exactDamage blow =
      (field.damageFigure blow).base *
          ((100 + (field.damageFigure blow).daylight +
              (field.damageFigure blow).leadership).toNat *
            (field.damageFigure blow).multiplier *
            (100 - (field.damageFigure blow).resistance).toNat : ℕ) /
        (10000 * (field.damageFigure blow).slow : ℕ) := by
  have atLeastZero : ∀ n : ℤ, ((n.toNat : ℕ) : ℚ) = (max 0 n : ℤ) := by
    intro n
    rw [← Int.cast_natCast, Int.toNat_eq_max, max_comm]
  have slow : (field.damageFigure blow).slow = field.slowing blow.striker := by
    simp only [damageFigure, slowing, max_eq_left divides]
  rw [slow, resistance_damageFigure, Nat.cast_mul, Nat.cast_mul, atLeastZero, atLeastZero]
  change _ = (blow.weapon.damage : ℚ) *
    ((field.strength blow.striker : ℤ) * (2 ^ blow.doublings : ℕ) * _) / _
  unfold exactDamage
  push_cast
  ring

/-- The damage that a blow comes to: its exact damage, rounded to the nearest integer with halves
toward the weapon's own damage, but at least a point, unless there is none to do. -/
def dueDamage (field : Battlefield) (blow : Blow) : ℤ :=
  settledDamage blow.weapon.damage (field.exactDamage blow)

theorem dueDamage_nonneg (field : Battlefield) (blow : Blow) : 0 ≤ field.dueDamage blow :=
  settledDamage_nonneg _ _

/-- The figure of a blow gives the damage that is due, in a word. -/
theorem total_damageFigure (divides : 1 ≤ field.rules.slowDivisor) (blow : Blow) :
    (field.damageFigure blow).total = low32 (field.dueDamage blow).toNat := by
  have slow : 0 < (field.damageFigure blow).slow := by
    simp only [damageFigure]
    split <;> omega
  rw [DamageFigure.total, roundDamage_of_even (by omega) (by omega), dueDamage,
    exactDamage_eq divides]
  rfl

/-- A damage that fits a word is the one that is due. -/
theorem total_of_fits (divides : 1 ≤ field.rules.slowDivisor) {blow : Blow}
    (fits : field.dueDamage blow < UInt32.size) :
    ((field.damageFigure blow).total : ℤ) = field.dueDamage blow := by
  have nonneg := field.dueDamage_nonneg blow
  rw [total_damageFigure divides, low32_of_lt (by omega), Int.toNat_of_nonneg nonneg]

/-! ## The damage in a matchup -/

/-- Whoever fights, on either side, does the damage that is due for its blow.  A charge doubles the
damage of both sides, a stab in the back that of the attacker, and only the defender is
steadfast. -/
theorem damage_of_matchup {attackerId defenderId : UnitId} {index : ℕ}
    {attacker defender : Combatant} {weapon : Weapon}
    (attackerAlive : field.roster.get? attackerId = some attacker)
    (defenderAlive : field.roster.get? defenderId = some defender)
    (armed : attacker.weapons[index]? = some weapon)
    (divides : 1 ≤ field.rules.slowDivisor) :
    let charge := (weapon.hasSpecial .charge).toNat
    let stab := (weapon.hasSpecial .backstab && field.canBackstab attacker.hex defender.hex).toNat
    let attack : Blow :=
      { striker := attacker, target := defender, weapon, doublings := charge + stab
        targetDefends := true }
    ∃ matchup, field.matchup attackerId defenderId index = .ok matchup ∧
      (field.dueDamage attack < UInt32.size →
        (matchup.attacker.damage : ℤ) = field.dueDamage attack) ∧
      ∀ answer, matchup.defender.weapon = some answer →
        ∃ counter, defender.weapons[answer]? = some counter ∧
          let defense : Blow :=
            { striker := defender, target := attacker, weapon := counter, doublings := charge
              targetDefends := false }
          (field.dueDamage defense < UInt32.size →
            (matchup.defender.damage : ℤ) = field.dueDamage defense) := by
  intro charge stab attack
  have paired : field.pairing attackerId defenderId index =
      .ok (field.pair attacker defender index weapon) :=
    pairing_eq_ok_iff.mpr ⟨attacker, defender, weapon, attackerAlive, defenderAlive, armed, rfl⟩
  refine ⟨_, matchup_of_pairing paired, total_of_fits divides, ?_⟩
  intro answer answers
  simp only [Pairing.matchup, Pairing.defenderProfile] at answers ⊢
  cases chosen : (field.pair attacker defender index weapon).counter with
  | none =>
      rw [chosen] at answers
      cases answers
  | some counter =>
      rw [chosen] at answers
      cases answers
      exact ⟨counter.2, carried_of_counter chosen, total_of_fits divides⟩

end Battlefield

/-! ## A pincer -/

/-- A lance for those who charge, or who strike from behind. -/
def Weapon.lance : Weapon :=
  { name := "lance", damage := 9, strikes := 2, range := .melee, damageType := .pierce
    specials := [.charge, .backstab] }

def Combatant.lancer : Combatant :=
  { (ofType "Lancer" ⟨1⟩ ⟨0, 0⟩ 38).withWeapon .lance with
    alignment := .lawful, resistances := { pierce := -10 } }

def Combatant.sentinel : Combatant :=
  { (ofType "Sentinel" ⟨2⟩ ⟨1, 0⟩ 55).withWeapon .spear with
    resistances := { pierce := 20 }, abilities := { steadfast := some [] }
    status := { slowed := true } }

def Combatant.skulker : Combatant :=
  ofType "Skulker" ⟨1⟩ ⟨2, 0⟩ 20

def Combatant.captain : Combatant :=
  { ofType "Captain" ⟨1⟩ ⟨0, 1⟩ 40 with level := 2, abilities := { leadership := true } }

/-- A morning on which a lancer, led by a captain, stands before a sentinel and a skulker stands
behind it. -/
def Battlefield.pincer : Battlefield :=
  { board := .flat 3 2
    roster :=
      { slots := #[some .lancer, some .sentinel, some .skulker, some .captain]
        index := ((((∅ : Std.ExtTreeMap Hex UnitId).insert ⟨0, 0⟩ ⟨0⟩).insert ⟨1, 0⟩ ⟨1⟩).insert
          ⟨2, 0⟩ ⟨2⟩).insert ⟨0, 1⟩ ⟨3⟩ }
    teams := .twoSides
    time := .morning
    rules := {} }

theorem Battlefield.pairing_pincer :
    pincer.pairing ⟨0⟩ ⟨1⟩ 0 = .ok (pincer.pair .lancer .sentinel 0 .lance) :=
  pairing_eq_ok_iff.mpr ⟨.lancer, .sentinel, .lance, rfl, rfl, rfl, rfl⟩

/-- The lancer's blow of 9, strengthened by half of it, doubled twice and resisted by forty percent,
does 32 points, and the sentinel's of 7, doubled, unresisted by ten percent and halved, does 8. -/
theorem Battlefield.damage_of_matchup_pincer :
    ∃ matchup, pincer.matchup ⟨0⟩ ⟨1⟩ 0 = .ok matchup ∧ matchup.attacker.damage = 32 ∧
      matchup.defender.weapon = some 0 ∧ matchup.defender.damage = 8 := by
  have lancer : pincer.roster.get? ⟨0⟩ = some .lancer := rfl
  have sentinel : pincer.roster.get? ⟨1⟩ = some .sentinel := rfl
  have lance : Combatant.lancer.weapons[0]? = some .lance := rfl
  rcases damage_of_matchup lancer sentinel lance (by decide) with ⟨matchup, read, attack, defense⟩
  have answers : matchup.defender.weapon = some 0 := by
    have computed : (pincer.matchup ⟨0⟩ ⟨1⟩ 0).toOption.map (·.defender.weapon) =
        some (some 0) := by decide +kernel
    rw [read] at computed
    exact Option.some_inj.mp computed
  rcases defense 0 answers with ⟨counter, carried, defense⟩
  cases carried
  refine ⟨matchup, read, ?_, answers, ?_⟩
  · apply Int.ofNat_inj.mp
    rw [attack (by decide +kernel)]
    decide +kernel
  · apply Int.ofNat_inj.mp
    rw [defense (by decide +kernel)]
    decide +kernel

end Hexfield
