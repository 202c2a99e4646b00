import Hexfield.Weapon
import Mathlib.Algebra.Order.Floor.Semifield
import Mathlib.Data.Rat.Floor

namespace Hexfield
namespace Weapon

/-!
How many strikes a wounded swarm makes.

A swarm is told its strikes by what it loses: the share of the hitpoints that it misses, rounded
down.  What it keeps is then the share of those that it has, rounded up.  All else follows from one
comparison, that of the strikes kept with any count: more hitpoints never mean fewer strikes, a
swarm at full health keeps all of them, and one that is alive keeps at least one.
-/

variable {weapon : Weapon} {hitpoints maxHitpoints : ℕ}

def lostStrikes (weapon : Weapon) (hitpoints maxHitpoints : ℕ) : ℕ :=
  weapon.strikes * (maxHitpoints - min hitpoints maxHitpoints) / maxHitpoints

theorem lostStrikes_le (weapon : Weapon) (hitpoints maxHitpoints : ℕ) :
    weapon.lostStrikes hitpoints maxHitpoints ≤ weapon.strikes := by
  apply Nat.div_le_of_le_mul
  rw [Nat.mul_comm maxHitpoints]
  exact Nat.mul_le_mul_left _ (Nat.sub_le _ _)

/-- What is computed on the way to the strikes lost fits the word. -/
theorem lostProduct_lt (fits : weapon.strikes * maxHitpoints < UInt32.size) (hitpoints : ℕ) :
    weapon.strikes * (maxHitpoints - min hitpoints maxHitpoints) < UInt32.size :=
  (Nat.mul_le_mul_left _ (Nat.sub_le _ _)).trans_lt fits

section Words

variable (swarm : weapon.hasSpecial .swarm = true) (positive : 0 < maxHitpoints)
  (fits : weapon.strikes * maxHitpoints < UInt32.size)

include swarm positive fits

theorem effectiveStrikes_eq_sub (hitpoints : ℕ) :
    weapon.effectiveStrikes hitpoints maxHitpoints =
      weapon.strikes - weapon.lostStrikes hitpoints maxHitpoints := by
  rw [effectiveStrikes, swarm, if_pos (by simpa using positive.ne'), lostStrikes]
  simp only [low32_of_lt (lostProduct_lt fits hitpoints)]

/-- The strikes that a swarm keeps, compared with a count. -/
theorem effectiveStrikes_le_iff {count : ℕ} :
    weapon.effectiveStrikes hitpoints maxHitpoints ≤ count ↔
      weapon.strikes * min hitpoints maxHitpoints ≤ count * maxHitpoints := by
  have share_le : weapon.strikes * min hitpoints maxHitpoints ≤ weapon.strikes * maxHitpoints :=
    Nat.mul_le_mul_left _ (Nat.min_le_right _ _)
  -- A quotient that is rounded down is compared from below, so the loss goes to the right side.
  rw [effectiveStrikes_eq_sub swarm positive fits, tsub_le_iff_tsub_le, lostStrikes,
    Nat.le_div_iff_mul_le positive, Nat.sub_mul, Nat.mul_sub]
  omega

/-- The strikes that a swarm keeps are no less than its share of all. -/
theorem share_le_effectiveStrikes (hitpoints : ℕ) :
    weapon.strikes * min hitpoints maxHitpoints ≤
      weapon.effectiveStrikes hitpoints maxHitpoints * maxHitpoints :=
  (effectiveStrikes_le_iff swarm positive fits).mp le_rfl

/-- The strikes that a swarm keeps are its share of all, rounded up. -/
theorem effectiveStrikes_eq_ceil (hitpoints : ℕ) :
    weapon.effectiveStrikes hitpoints maxHitpoints =
      ⌈(weapon.strikes * min hitpoints maxHitpoints : ℚ) / maxHitpoints⌉₊ := by
  apply eq_of_forall_ge_iff
  intro count
  have positive' : (0 : ℚ) < maxHitpoints := by exact_mod_cast positive
  rw [effectiveStrikes_le_iff swarm positive fits, Nat.ceil_le, div_le_iff₀ positive']
  exact_mod_cast Iff.rfl

theorem effectiveStrikes_mono :
    Monotone fun hitpoints => weapon.effectiveStrikes hitpoints maxHitpoints := by
  intro fewer more le
  apply (effectiveStrikes_le_iff swarm positive fits).mpr
  calc
    weapon.strikes * min fewer maxHitpoints ≤ weapon.strikes * min more maxHitpoints :=
      Nat.mul_le_mul_left _ (min_le_min_right _ le)
    _ ≤ weapon.effectiveStrikes more maxHitpoints * maxHitpoints :=
      share_le_effectiveStrikes swarm positive fits more

theorem effectiveStrikes_of_full (full : maxHitpoints ≤ hitpoints) :
    weapon.effectiveStrikes hitpoints maxHitpoints = weapon.strikes := by
  apply le_antisymm (weapon.effectiveStrikes_le hitpoints maxHitpoints)
  have share := share_le_effectiveStrikes swarm positive fits hitpoints
  rw [min_eq_right full] at share
  exact Nat.le_of_mul_le_mul_right share positive

theorem effectiveStrikes_pos (strikes : 0 < weapon.strikes) (alive : 0 < hitpoints) :
    0 < weapon.effectiveStrikes hitpoints maxHitpoints := by
  have share : 0 < weapon.strikes * min hitpoints maxHitpoints :=
    Nat.mul_pos strikes (lt_min alive positive)
  exact Nat.pos_of_mul_pos_right
    (share.trans_le (share_le_effectiveStrikes swarm positive fits hitpoints))

end Words

/-- The strikes that a swarm keeps, at any number of hitpoints.

What is computed on the way fits thirty-two bits, and the loss is never more than there is, so that
kept and lost strikes make up all of them.  Those kept are the share of the hitpoints, rounded up.
They are at most all, and all at full health; one of them is left to whoever is alive; and they
never grow fewer as hitpoints grow more. -/
theorem effectiveStrikes_of_swarm (swarm : weapon.hasSpecial .swarm = true)
    (positive : 1 ≤ maxHitpoints) (fits : weapon.strikes * maxHitpoints < UInt32.size) :
    (∀ hitpoints,
      weapon.strikes * (maxHitpoints - min hitpoints maxHitpoints) < UInt32.size ∧
        weapon.effectiveStrikes hitpoints maxHitpoints +
            weapon.lostStrikes hitpoints maxHitpoints = weapon.strikes ∧
        weapon.effectiveStrikes hitpoints maxHitpoints =
          ⌈(weapon.strikes * min hitpoints maxHitpoints : ℚ) / maxHitpoints⌉₊ ∧
        weapon.effectiveStrikes hitpoints maxHitpoints ≤ weapon.strikes ∧
        (maxHitpoints ≤ hitpoints →
          weapon.effectiveStrikes hitpoints maxHitpoints = weapon.strikes) ∧
        (1 ≤ weapon.strikes → 1 ≤ hitpoints →
          1 ≤ weapon.effectiveStrikes hitpoints maxHitpoints)) ∧
      Monotone fun hitpoints => weapon.effectiveStrikes hitpoints maxHitpoints := by
  refine ⟨?_, effectiveStrikes_mono swarm positive fits⟩
  intro hitpoints
  refine ⟨lostProduct_lt fits hitpoints, ?_, effectiveStrikes_eq_ceil swarm positive fits hitpoints,
    weapon.effectiveStrikes_le hitpoints maxHitpoints, effectiveStrikes_of_full swarm positive fits,
    effectiveStrikes_pos swarm positive fits⟩
  rw [effectiveStrikes_eq_sub swarm positive fits]
  exact Nat.sub_add_cancel (lostStrikes_le weapon hitpoints maxHitpoints)

def fangs : Weapon :=
  { name := "fangs", damage := 4, strikes := 4, range := .melee, damageType := .blade
    specials := [.swarm] }

/-- With eleven of twenty hitpoints a swarm keeps three strikes of four, and with one it keeps
one. -/
theorem effectiveStrikes_of_swarm_fangs :
    fangs.hasSpecial .swarm = true ∧ 1 ≤ 20 ∧ fangs.strikes * 20 < UInt32.size ∧
      fangs.effectiveStrikes 11 20 + fangs.lostStrikes 11 20 = 4 ∧
      fangs.effectiveStrikes 11 20 = ⌈(fangs.strikes * min 11 20 : ℚ) / 20⌉₊ ∧
      fangs.effectiveStrikes 11 20 = 3 ∧ 1 ≤ fangs.effectiveStrikes 1 20 ∧
      Monotone fun hitpoints => fangs.effectiveStrikes hitpoints 20 := by
  have swarm : fangs.hasSpecial .swarm = true := rfl
  have fits : fangs.strikes * 20 < UInt32.size := by decide
  rcases effectiveStrikes_of_swarm swarm (by decide) fits with ⟨each, monotone⟩
  rcases each 11 with ⟨-, all, share, -⟩
  have alive := (each 1).2.2.2.2.2
  exact ⟨swarm, by decide, fits, all, by exact_mod_cast share, rfl, alive (by decide) le_rfl,
    monotone⟩

end Weapon
end Hexfield
