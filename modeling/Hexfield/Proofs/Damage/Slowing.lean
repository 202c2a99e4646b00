import Hexfield.Proofs.Damage.Setbacks
import Hexfield.Proofs.Exchange.Steps
import Hexfield.Simulation

namespace Hexfield

/-!
What slow does in a simulated exchange, and what it does in a fight.

A simulated exchange takes its numbers as given, and so it halves the damage of a side that has been
slowed, although this damage has been rounded already.  A fight reads its numbers anew: the exact
damage is divided by the divisor of the rules and rounded once.  The two agree in many cases but not
in all.  Even with a divisor of two, an odd damage that was rounded up is rounded up a second time
where it is halved; with another divisor they agree for the least damages, and for one more.
-/

/-! ## Halving what is rounded -/

/-- A damage is halved upwards, so that a least damage is not lost. -/
theorem roundDamage_half {damage : ℕ} (fits : damage < UInt32.size) :
    roundDamage damage 1 2 = (damage + 1) / 2 := by
  by_cases none : damage = 0
  · rw [none]
    rfl
  · have half : roundedQuotient damage 1 2 = (damage + 1) / 2 := by
      simp [roundedQuotient]
    rw [roundDamage_eq (by omega) Nat.one_pos Nat.two_pos, half, Nat.max_eq_left (by omega),
      low32_of_lt (by omega)]

section Halving

variable {base : ℕ} {q : ℚ}

/-- Half of a fraction is rounded to half of what the fraction is rounded to.  If this is odd, a
half is left over, which counts if the fraction was rounded down, or not at all and its half lies
below the base. -/
theorem nearestToward_half (base : ℤ) (q : ℚ) :
    nearestToward base (q / 2) = nearestToward base q / 2 +
      if nearestToward base q % 2 = 1 ∧
          ((nearestToward base q : ℚ) < q ∨ q = nearestToward base q ∧ q < 2 * base)
        then 1 else 0 := by
  have bounds := nearestToward_bounds base q
  generalize nearestToward base q = whole at bounds ⊢
  rcases Int.even_or_odd' whole with ⟨half, rfl | rfl⟩
  · have even : 2 * half / 2 = half ∧ 2 * half % 2 ≠ 1 := by omega
    push_cast at bounds
    rw [even.1, if_neg (fun odd => even.2 odd.1), add_zero, nearestToward_eq_iff]
    split <;> constructor <;> linarith
  · have odd : (2 * half + 1) / 2 = half ∧ (2 * half + 1) % 2 = 1 := by omega
    push_cast at bounds ⊢
    rw [odd.1]
    split
    · rename_i up
      rw [nearestToward_eq_iff]
      push_cast
      rcases up.2 with more | ⟨same, below⟩
      · split <;> constructor <;> linarith
      · rw [if_pos (by linarith)]
        constructor <;> linarith
    · rename_i down
      have least : ¬ 2 * (half : ℚ) + 1 < q := fun more => down ⟨odd.2, Or.inl more⟩
      rw [add_zero, nearestToward_eq_iff]
      split
      · rename_i below
        have less : q ≠ 2 * half + 1 := fun same => down ⟨odd.2, Or.inr ⟨same, by linarith⟩⟩
        have less := lt_of_le_of_ne (not_lt.mp least) less
        constructor <;> linarith
      · constructor <;> linarith

theorem settledDamage_of_two_le (some : 2 ≤ settledDamage base q) :
    q ≠ 0 ∧ settledDamage base q = nearestToward base q := by
  unfold settledDamage at some ⊢
  split at some
  · omega
  · rename_i exact
    rw [if_neg exact]
    exact ⟨exact, by omega⟩

/-- A least damage stays what it is, whatever it is divided by. -/
theorem settledDamage_div_of_le_one (nonneg : 0 ≤ q) {divisor : ℕ} (divides : 1 ≤ divisor)
    (least : settledDamage base q ≤ 1) :
    settledDamage base (q / divisor) = settledDamage base q := by
  have positive : (1 : ℚ) ≤ divisor := by exact_mod_cast divides
  have less : settledDamage base (q / divisor) ≤ settledDamage base q :=
    settledDamage_mono (by positivity) le_rfl (div_le_self nonneg positive)
  by_cases none : q = 0
  · rw [none, zero_div]
  · have exact : q / divisor ≠ 0 := div_ne_zero none (by positivity)
    have atLeast : 1 ≤ settledDamage base (q / divisor) := by
      unfold settledDamage
      rw [if_neg exact]
      exact le_max_left _ _
    omega

/-- Dividing the exact damage by two halves the damage, upwards if the damage is odd and the exact
damage is above it, or is the damage and has its half below the base. -/
theorem settledDamage_half (some : 2 ≤ settledDamage base q) :
    settledDamage base (q / 2) = settledDamage base q / 2 +
      if settledDamage base q % 2 = 1 ∧
          ((settledDamage base q : ℚ) < q ∨ q = settledDamage base q ∧ q < 2 * base)
        then 1 else 0 := by
  rcases settledDamage_of_two_le some with ⟨exact, nearest⟩
  have halved := nearestToward_half base q
  rw [← nearest, Int.cast_natCast] at halved
  have settled : settledDamage base (q / 2) = max 1 (nearestToward base (q / 2)) :=
    if_neg (div_ne_zero exact two_ne_zero)
  rw [settled, halved]
  apply max_eq_right
  split <;> omega

/-- Dividing the exact damage by three or more leaves a third of the damage, rounded up. -/
theorem settledDamage_div_le (some : 2 ≤ settledDamage base q) {divisor : ℕ}
    (divides : 3 ≤ divisor) :
    3 * settledDamage base (q / divisor) ≤ settledDamage base q + 2 := by
  rcases settledDamage_of_two_le some with ⟨exact, nearest⟩
  have divides : (3 : ℚ) ≤ divisor := by exact_mod_cast divides
  have bounds := nearestToward_bounds base q
  have bounds' := nearestToward_bounds base (q / divisor)
  have two : (2 : ℚ) ≤ nearestToward base q := by exact_mod_cast nearest ▸ some
  have third : q / divisor ≤ q / 3 := by
    apply div_le_div_of_nonneg_left _ _ divides <;> linarith
  have settled : settledDamage base (q / divisor) = max 1 (nearestToward base (q / divisor)) :=
    if_neg (div_ne_zero exact (by linarith))
  have less : 3 * nearestToward base (q / divisor) ≤ nearestToward base q + 2 := by
    have cast : 3 * (nearestToward base (q / divisor) : ℚ) ≤ nearestToward base q + 2 := by
      linarith
    exact_mod_cast cast
  omega

/-! ## Where halving agrees with dividing -/

/-- The damage of a divided exact damage is the undivided damage, halved upwards. -/
def HalvesAlike (base : ℕ) (q : ℚ) (divisor : ℕ) : Prop :=
  settledDamage base q ≤ 1 ∨
    divisor = 2 ∧
      (settledDamage base q % 2 = 0 ∨ (settledDamage base q : ℚ) < q ∨
        q = settledDamage base q ∧ q < 2 * base) ∨
    3 ≤ divisor ∧
      (settledDamage base q = 2 ∨ divisor = 3 ∧ q = 9 / 2 ∧ 2 ≤ base ∧ base ≤ 4)

instance (base : ℕ) (q : ℚ) (divisor : ℕ) : Decidable (HalvesAlike base q divisor) := by
  unfold HalvesAlike
  infer_instance

/-- Only four and a half is rounded to four, and a part of it, its third, to two; for this halves
have to go down to four and up to two. -/
theorem nearestToward_four_two_iff {divisor : ℕ} (divides : 3 ≤ divisor) :
    nearestToward base q = 4 ∧ nearestToward base (q / divisor) = 2 ↔
      divisor = 3 ∧ q = 9 / 2 ∧ 2 ≤ base ∧ base ≤ 4 := by
  constructor
  · rintro ⟨four, two⟩
    have least : (3 : ℚ) ≤ divisor := by exact_mod_cast divides
    have bounds := nearestToward_bounds base q
    have whole := nearestToward_eq_iff.mp four
    have part := nearestToward_eq_iff.mp two
    rw [four] at bounds
    push_cast at bounds whole part
    -- The part is at most three halves, and so it is these, rounded up.
    have third : q / divisor ≤ q / 3 := by
      apply div_le_div_of_nonneg_left _ _ least <;> linarith
    have partBelow : q / divisor < base := by
      by_contra above
      rw [if_neg above] at part
      linarith
    rw [if_pos partBelow] at part
    have exact : q = 9 / 2 := by linarith
    have wholeAbove : ¬ q < base := by
      intro below
      rw [if_pos below] at whole
      linarith
    have most : (divisor : ℚ) ≤ 3 := by
      have enough := (le_div_iff₀ (by linarith)).mp (by linarith : 3 / 2 ≤ q / divisor)
      linarith
    have most : divisor ≤ 3 := by exact_mod_cast most
    obtain rfl : divisor = 3 := Nat.le_antisymm most divides
    have atLeast : (1 : ℚ) < base := by
      push_cast at partBelow
      linarith
    have atMost : (base : ℚ) < 5 := by linarith
    refine ⟨rfl, exact, ?_, ?_⟩
    · exact_mod_cast atLeast
    · exact Nat.le_of_lt_succ (by exact_mod_cast atMost)
  · rintro ⟨rfl, rfl, atLeast, atMost⟩
    have atLeast : (2 : ℚ) ≤ (base : ℤ) := by exact_mod_cast atLeast
    have atMost : ((base : ℤ) : ℚ) ≤ 4 := by exact_mod_cast atMost
    constructor
    · rw [nearestToward_eq_iff, if_neg (by linarith)]
      norm_num
    · rw [nearestToward_eq_iff, Nat.cast_ofNat, if_pos (by linarith)]
      norm_num

/-- For a divisor of three or more halving agrees only for a damage of two and in one other case. -/
theorem half_eq_settledDamage_third_iff (some : 2 ≤ settledDamage base q) {divisor : ℕ}
    (divides : 3 ≤ divisor) :
    (settledDamage base q + 1) / 2 = settledDamage base (q / divisor) ↔
      settledDamage base q = 2 ∨ divisor = 3 ∧ q = 9 / 2 ∧ 2 ≤ base ∧ base ≤ 4 := by
  have third := settledDamage_div_le some divides
  rcases settledDamage_of_two_le some with ⟨exact, nearest⟩
  have settled : settledDamage base (q / divisor) = max 1 (nearestToward base (q / divisor)) :=
    if_neg (div_ne_zero exact (Nat.cast_ne_zero.mpr (by omega)))
  rw [← nearestToward_four_two_iff divides]
  omega

/-- Halving the damage agrees with dividing the exact damage exactly in these cases. -/
theorem half_eq_settledDamage_div_iff (nonneg : 0 ≤ q) {divisor : ℕ} (divides : 1 ≤ divisor) :
    (settledDamage base q + 1) / 2 = settledDamage base (q / divisor) ↔
      HalvesAlike base q divisor := by
  have damages := settledDamage_nonneg base q
  unfold HalvesAlike
  by_cases least : settledDamage base q ≤ 1
  · refine iff_of_true ?_ (Or.inl least)
    rw [settledDamage_div_of_le_one nonneg divides least]
    omega
  · have some : 2 ≤ settledDamage base q := by omega
    rw [or_iff_right least]
    rcases (by omega : divisor = 1 ∨ divisor = 2 ∨ 3 ≤ divisor) with rfl | rfl | more
    · rw [Nat.cast_one, div_one]
      constructor <;> omega
    · have few : ¬ 3 ≤ 2 := by decide
      rw [Nat.cast_ofNat, settledDamage_half some]
      simp only [few, false_and, or_false, true_and]
      split
      · rename_i up
        exact iff_of_true (by omega) (Or.inr up.2)
      · rename_i down
        constructor
        · intro alike
          exact Or.inl (by omega)
        · rintro (even | more)
          · omega
          · have even : settledDamage base q % 2 ≠ 1 := fun odd => down ⟨odd, more⟩
            omega
    · have notTwo : divisor ≠ 2 := by omega
      simp only [notTwo, false_and, false_or, more, true_and]
      exact half_eq_settledDamage_third_iff some more

/-- Halving the damage never takes more than dividing the exact damage. -/
theorem settledDamage_div_le_half (base : ℕ) (nonneg : 0 ≤ q) {divisor : ℕ}
    (divides : 2 ≤ divisor) :
    settledDamage base (q / divisor) ≤ (settledDamage base q + 1) / 2 := by
  have damages := settledDamage_nonneg base q
  by_cases least : settledDamage base q ≤ 1
  · rw [settledDamage_div_of_le_one nonneg (by omega) least]
    omega
  · have some : 2 ≤ settledDamage base q := by omega
    rcases Nat.eq_or_lt_of_le divides with rfl | more
    · rw [Nat.cast_ofNat, settledDamage_half some]
      split <;> omega
    · have third := settledDamage_div_le some more
      omega

/-- If the divisor is two, it takes at most a point less. -/
theorem half_le_settledDamage_half_add_one (base : ℕ) (nonneg : 0 ≤ q) :
    (settledDamage base q + 1) / 2 ≤ settledDamage base (q / (2 : ℕ)) + 1 := by
  have damages := settledDamage_nonneg base q
  by_cases least : settledDamage base q ≤ 1
  · rw [settledDamage_div_of_le_one nonneg (by omega) least]
    omega
  · have some : 2 ≤ settledDamage base q := by omega
    rw [Nat.cast_ofNat, settledDamage_half some]
    split <;> omega

end Halving

/-! ## Slow in a fight -/

/-- Of two, the one that stands for a part. -/
def Role.among {α : Type} (attacker defender : α) : Role → α
  | .attacker => attacker
  | .defender => defender

/-- The unit as it would be if it were not slowed. -/
def Combatant.unslowed (unit : Combatant) : Combatant :=
  { unit with status := { unit.status with slowed := false } }

def Blow.unslowed (blow : Blow) : Blow :=
  { blow with striker := blow.striker.unslowed, target := blow.target.unslowed }

namespace Pairing

def unslowed (pairing : Pairing) : Pairing :=
  { pairing with attacker := pairing.attacker.unslowed, defender := pairing.defender.unslowed }

/-- The blow of a part; there is none if it has no weapon. -/
def blowOf? (pairing : Pairing) : Role → Option Blow
  | .attacker => some pairing.attackerBlow
  | .defender => pairing.counter.map fun answer => pairing.defenderBlow answer.2

theorem striker_of_blowOf? {pairing : Pairing} {role : Role} {blow : Blow}
    (strikes : pairing.blowOf? role = some blow) : blow.striker = pairing.unitOf role := by
  cases role with
  | attacker =>
      cases strikes
      rfl
  | defender =>
      rcases Option.map_eq_some_iff.mp strikes with ⟨answer, -, rfl⟩
      rfl

theorem map_unslowed_blowOf? (pairing : Pairing) (role : Role) :
    (pairing.blowOf? role).map Blow.unslowed =
      (pairing.unslowed.blowOf? role).map Blow.unslowed := by
  cases role with
  | attacker => rfl
  | defender =>
      simp only [blowOf?, Option.map_map]
      rfl

theorem damage_profileOf (pairing : Pairing) (field : Battlefield) (role : Role) :
    ((pairing.matchup field).profileOf role).damage =
      (pairing.blowOf? role).elim 0 fun blow => (field.damageFigure blow).total := by
  cases role with
  | attacker => rfl
  | defender =>
      simp only [Matchup.profileOf, matchup, defenderProfile, blowOf?]
      cases pairing.counter <;> rfl

end Pairing

namespace Battlefield

variable {field after : Battlefield} {attackerId defenderId : UnitId} {index : ℕ}
  {pairing : Pairing}

theorem keeps_slow (field : Battlefield) (id : UnitId) :
    field.Keeps Combatant.unslowed (field.update id Combatant.slow) :=
  keeps_update Combatant.unslowed (fun unit => (rfl : unit.slow.unslowed = _)) field id

theorem Keeps.bearing_of_unslowed (keeps : field.Keeps Combatant.unslowed after) :
    field.Keeps Combatant.bearing after := by
  apply keeps.coarsen
  intro unit unit' same
  exact (congrArg Combatant.bearing same :)

/-- Slowing the striker divides the exact damage of its blow. -/
theorem Keeps.exactDamage_of_slowed (keeps : field.Keeps Combatant.unslowed after)
    {blow blow' : Blow} (same : blow'.unslowed = blow.unslowed)
    (swift : blow.striker.status.slowed = false) (slowed : blow'.striker.status.slowed = true) :
    after.exactDamage blow' = field.exactDamage blow / field.rules.slowDivisor := by
  have strength : after.strength blow'.striker = field.strength blow.striker :=
    keeps.bearing_of_unslowed.strength (congrArg (fun hit => hit.striker.bearing) same :)
  have weapon : blow'.weapon = blow.weapon := (congrArg Blow.weapon same :)
  have doublings : blow'.doublings = blow.doublings := (congrArg Blow.doublings same :)
  have resistance : after.resistanceMet blow' = field.resistanceMet blow := by
    have first : after.resistanceMet blow' = after.resistanceMet blow'.unslowed := rfl
    have second : field.resistanceMet blow.unslowed = field.resistanceMet blow := rfl
    rw [first, same, ← second]
    simp only [resistanceMet, keeps.terrainAt, keeps.rules]
  have before : field.slowing blow.striker = 1 := by
    rw [slowing, swift, if_neg Bool.false_ne_true]
  have later : after.slowing blow'.striker = field.rules.slowDivisor := by
    rw [slowing, if_pos slowed, keeps.rules]
  unfold exactDamage
  rw [strength, weapon, doublings, resistance, before, later, Nat.cast_one, mul_one, div_div]

/-- The damage of a blow, halved, and the damage of the blow of the slowed striker. -/
theorem Keeps.half_total_iff (keeps : field.Keeps Combatant.unslowed after)
    (divides : 1 ≤ field.rules.slowDivisor) {blow blow' : Blow}
    (same : blow'.unslowed = blow.unslowed) (swift : blow.striker.status.slowed = false)
    (slowed : blow'.striker.status.slowed = true) (fits : field.dueDamage blow < UInt32.size) :
    let halved := roundDamage (field.damageFigure blow).total 1 2
    let divided := (after.damageFigure blow').total
    (halved = divided ↔
        HalvesAlike blow.weapon.damage (field.exactDamage blow) field.rules.slowDivisor) ∧
      (2 ≤ field.rules.slowDivisor → divided ≤ halved) ∧
      (field.rules.slowDivisor = 2 → halved ≤ divided + 1) := by
  intro halved divided
  have nonneg := field.exactDamage_nonneg blow
  have weapon : blow'.weapon = blow.weapon := (congrArg Blow.weapon same :)
  have due : after.dueDamage blow' = settledDamage blow.weapon.damage
      (field.exactDamage blow / field.rules.slowDivisor) := by
    rw [dueDamage, keeps.exactDamage_of_slowed same swift slowed, weapon]
  have less : after.dueDamage blow' ≤ field.dueDamage blow := by
    have positive : (1 : ℚ) ≤ field.rules.slowDivisor := by exact_mod_cast divides
    rw [due]
    exact settledDamage_mono (by positivity) le_rfl (div_le_self nonneg positive)
  have total : ((field.damageFigure blow).total : ℤ) = field.dueDamage blow :=
    total_of_fits divides fits
  have total' : (divided : ℤ) = after.dueDamage blow' :=
    total_of_fits (keeps.rules ▸ divides) (lt_of_le_of_lt less fits)
  have half : halved = ((field.damageFigure blow).total + 1) / 2 := roundDamage_half (by omega)
  rw [dueDamage] at total
  refine ⟨?_, ?_, ?_⟩
  · rw [← half_eq_settledDamage_div_iff nonneg divides]
    omega
  · intro atLeastTwo
    have never := settledDamage_div_le_half blow.weapon.damage nonneg atLeastTwo
    omega
  · intro two
    have most := half_le_settledDamage_half_add_one blow.weapon.damage nonneg
    rw [← two] at most
    omega

/-- A pairing is the same after a unit of it has been slowed, but for this unit. -/
theorem pairing_slow (paired : field.pairing attackerId defenderId index = .ok pairing)
    (id : UnitId) :
    ∃ pairing',
      (field.update id Combatant.slow).pairing attackerId defenderId index = .ok pairing' ∧
      pairing'.unslowed = pairing.unslowed ∧
      ∀ role : Role, role.among attackerId defenderId = id →
        (pairing'.unitOf role).status.slowed = true := by
  rcases pairing_eq_ok_iff.mp paired with
    ⟨attacker, defender, weapon, attackerAlive, defenderAlive, carried, rfl⟩
  have keeps := keeps_slow field id
  rcases keeps.get? attackerAlive with ⟨attacker', attackerAlive', sameAttacker⟩
  rcases keeps.get? defenderAlive with ⟨defender', defenderAlive', sameDefender⟩
  have weapons : attacker'.weapons = attacker.weapons :=
    (congrArg Combatant.weapons sameAttacker :)
  rw [← weapons] at carried
  refine ⟨(field.update id Combatant.slow).pair attacker' defender' index weapon,
    pairing_eq_ok_iff.mpr ⟨_, _, _, attackerAlive', defenderAlive', carried, rfl⟩, ?_, ?_⟩
  · have bearings := keeps.bearing_of_unslowed
    have attackerHex : attacker'.hex = attacker.hex := (congrArg Combatant.hex sameAttacker :)
    have defenderHex : defender'.hex = defender.hex := (congrArg Combatant.hex sameDefender :)
    have defenderWeapons : defender'.weapons = defender.weapons :=
      (congrArg Combatant.weapons sameDefender :)
    have choice : chooseCounter attacker' defender' weapon =
        chooseCounter attacker defender weapon := by
      change chooseCounter attacker'.unslowed defender'.unslowed weapon =
        chooseCounter attacker.unslowed defender.unslowed weapon
      rw [sameAttacker, sameDefender]
    simp only [Pairing.unslowed, pair, sameAttacker, sameDefender, choice, defenderWeapons,
      attackerHex, defenderHex, bearings.canBackstab]
  · have slowed : ∀ {unit}, (field.update id Combatant.slow).roster.get? id = some unit →
        unit.status.slowed = true := by
      intro unit alive
      rw [update, Roster.get?_update_self] at alive
      rcases Option.map_eq_some_iff.mp alive with ⟨before, -, rfl⟩
      rfl
    intro role same
    cases role with
    | attacker => exact slowed (same ▸ attackerAlive')
    | defender => exact slowed (same ▸ defenderAlive')

end Battlefield

/-! ## A snare -/

/-- A net, which slows whoever it hits. -/
def Weapon.net : Weapon :=
  { name := "net", damage := 4, strikes := 2, range := .melee, damageType := .impact
    specials := [.slow] }

def Combatant.netter : Combatant :=
  (ofType "Netter" ⟨1⟩ ⟨0, 0⟩ 30).withWeapon .net

def Combatant.swordsman : Combatant :=
  { (ofType "Swordsman" ⟨2⟩ ⟨1, 0⟩ 40).withWeapon .sword with alignment := .lawful }

/-- A morning on which a netter stands before a swordsman. -/
def Battlefield.snare : Battlefield :=
  { board := .flat 2 1
    roster :=
      { slots := #[some .netter, some .swordsman]
        index := ((∅ : Std.ExtTreeMap Hex UnitId).insert ⟨0, 0⟩ ⟨0⟩).insert ⟨1, 0⟩ ⟨1⟩ }
    teams := .twoSides
    time := .morning
    rules := {} }

end Hexfield
