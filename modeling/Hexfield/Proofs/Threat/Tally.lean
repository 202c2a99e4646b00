import Hexfield.Proofs.Roster.History
import Hexfield.Proofs.Scalar.Magnitude
import Hexfield.Proofs.Threat.Postings

namespace Hexfield

/-!
The threat onto a hex, as it is computed with binary64 numbers.

A unit's rating is a product of its health, its exposure, its damage and a bonus.  Each factor is
zero or a positive number that is neither huge nor tiny, so long as the counts it is made of fit
machine words.  Hence every rating is a number and none is negative, and what holds of the threat
for such ratings holds of the threat that is computed.
-/

/-- The counts of a unit that its rating is made of fit 32 bits. -/
structure Combatant.InWords (unit : Combatant) : Prop where
  hitpoints : unit.hitpoints < UInt32.size
  maxHitpoints : unit.maxHitpoints < UInt32.size
  damage : ∀ weapon ∈ unit.weapons, weapon.damage < UInt32.size
  strikes : ∀ weapon ∈ unit.weapons, weapon.strikes < UInt32.size

theorem MovementType.chanceToBeHit_le (movementType : MovementType) (terrain : Terrain) :
    movementType.chanceToBeHit terrain ≤ 90 := by
  cases movementType <;> cases terrain <;> decide

namespace Threat

open Binary64 (AtMost AtLeast atMost_one atMost_ofNat atLeast_ofNat atMost_percent)

variable {field : Battlefield} {unit : Combatant}

theorem damageWith_lt (field : Battlefield) (unit : Combatant) (weapon : Weapon) :
    damageWith field unit weapon < UInt64.size := by
  have word := Int.bmod_lt (x := (weapon.damage * unit.strikesWith weapon : ℕ) *
    (100 + field.daylightBonus unit)) (by decide : 0 < UInt64.size)
  have share := Int.tdiv_le_tdiv (by decide : (0 : ℤ) < 100) word.le
  rw [damageWith]
  exact (Int.toNat_le_toNat share).trans_lt (by decide)

theorem mostDamage_lt (field : Battlefield) (unit : Combatant) :
    mostDamage field unit < UInt64.size := by
  rw [mostDamage]
  cases most : (unit.weapons.map (damageWith field unit)).max? with
  | none => exact (by decide : 0 < UInt64.size)
  | some damage =>
      rcases List.mem_map.mp (List.max?_mem most) with ⟨weapon, -, rfl⟩
      exact damageWith_lt field unit weapon

theorem atMost_health (words : unit.InWords) : AtMost 118 unit.health := by
  rw [Combatant.health]
  split
  · exact Or.inl ⟨.positive, rfl⟩
  · rename_i notZero
    have small : ∀ {count : ℕ}, count < UInt32.size → count < 2 ^ 53 := fun below =>
      lt_trans below (by decide)
    have hitpoints : AtMost 13 (Scalar.ofNat unit.hitpoints) :=
      atMost_ofNat (lt_trans (small words.hitpoints) (by decide))
    have maxHitpoints : AtLeast (-104) (Scalar.ofNat unit.maxHitpoints) :=
      atLeast_ofNat (Nat.pos_of_ne_zero notZero) (small words.maxHitpoints)
    exact hitpoints.div maxHitpoints (by decide) (by decide)

/-- Whatever the unit and the hex, the rating is zero or positive and finite. -/
theorem atMost_moverRating (field : Battlefield) (words : unit.InWords) (origin : Hex)
    (useTerrain : Bool) : AtMost 301 (moverRating field unit origin useTerrain) := by
  have exposure : AtMost 60 (if useTerrain = true then
      Scalar.percent (unit.chanceToBeHit (field.terrainAt origin)) else (0.5 : Float)) := by
    split
    · exact atMost_percent ((MovementType.chanceToBeHit_le _ _).trans_lt (by decide))
    · exact Or.inr ⟨2 ^ 52, -53, by decide, rfl, by decide⟩
  have village : AtMost (-52) (if (useTerrain && (field.terrainAt origin).isVillage) = true
      then (1.5 : Float) else 1.0) := by
    split
    · exact Or.inr ⟨3 * 2 ^ 51, -52, by decide, rfl, le_refl _⟩
    · exact atMost_one
  have damage : AtMost 13 (Scalar.ofNat (mostDamage field unit)) :=
    atMost_ofNat ((mostDamage_lt field unit).trans (by decide))
  have exposed := (atMost_health words).mul exposure (by decide) (by decide)
  have threatened := exposed.mul damage (by decide) (by decide)
  exact threatened.mul village (by decide) (by decide)

/-- As long as all counts fit 32 bits, the threat onto a hex is the sum, in the order of the hex's
neighbours, of the ratings of live movers that are posted around it, each of them at one neighbour
that it can reach and where it rates above zero.  It vanishes just when there is no such mover. -/
theorem onto_eq_sum_of_posts (field : Battlefield) (hex : Hex) (moves : MoveMaps)
    (useTerrain : Bool)
    (words : ∀ id unit, field.roster.get? id = some unit → unit.InWords) :
    (∃ posted, Posts Float field hex moves useTerrain posted ∧
      (onto field hex moves useTerrain : Float) =
        Scalar.sum (Direction.all.map (worth field hex useTerrain posted))) ∧
    (((onto field hex moves useTerrain : Float) == 0.0) = true ↔
      ¬ ∃ place mover, Strikes Float field hex moves useTerrain place mover) := by
  have rated : Rated Float field useTerrain := fun id unit found origin =>
    (atMost_moverRating field (words id unit found) origin useTerrain).nonneg
  exact ⟨exists_posts hex moves rated, onto_beq_zero_iff hex moves rated⟩

end Threat

/-! ## A crossroads -/

def Combatant.straggler (hex : Hex) (weapon : Weapon) : Combatant :=
  { (ofType "Straggler" ⟨2⟩ hex 30).withWeapon weapon with movement := 1 }

/-- The one in the middle, with a sword, can come to either of two hexes, and those beside it, with
clubs, each to one of them. -/
def Battlefield.crossroads : Battlefield :=
  { board := .flat 3 3
    roster :=
      { slots := #[some (.straggler ⟨2, 1⟩ .sword), some (.straggler ⟨2, 2⟩ .club),
          some (.straggler ⟨2, 0⟩ .club)]
        index := (((∅ : Std.ExtTreeMap Hex UnitId).insert ⟨2, 1⟩ ⟨0⟩).insert ⟨2, 2⟩ ⟨1⟩).insert
          ⟨2, 0⟩ ⟨2⟩ }
    teams := .twoSides
    time := .dusk
    rules := {} }

theorem Combatant.inWords_straggler (hex : Hex) {weapon : Weapon}
    (damage : weapon.damage < UInt32.size) (strikes : weapon.strikes < UInt32.size) :
    (straggler hex weapon).InWords where
  hitpoints := (by decide : 30 < UInt32.size)
  maxHitpoints := (by decide : 30 < UInt32.size)
  damage := by
    intro carried member
    cases List.mem_singleton.mp member
    exact damage
  strikes := by
    intro carried member
    cases List.mem_singleton.mp member
    exact strikes

namespace Threat

/-- At the crossroads all together threaten what the one in the middle does: it has come over from
the first hex to the second, where it rates as well, and no one strikes from the first. -/
theorem onto_eq_sum_of_posts_crossroads :
    (∀ id unit, Battlefield.crossroads.roster.get? id = some unit → unit.InWords) ∧
    (∃ posted, Posts Float .crossroads ⟨0, 2⟩
        (.build .crossroads .terrain [⟨0⟩, ⟨1⟩, ⟨2⟩]) false posted ∧
      Scalar.sum (Direction.all.map (worth .crossroads ⟨0, 2⟩ false posted)) = (10.5 : Float)) ∧
    ∃ place mover, Strikes Float .crossroads ⟨0, 2⟩
      (.build .crossroads .terrain [⟨0⟩, ⟨1⟩, ⟨2⟩]) false place mover := by
  have words : ∀ id unit, Battlefield.crossroads.roster.get? id = some unit → unit.InWords := by
    intro id unit found
    have entries : Battlefield.crossroads.roster.entries =
        [(⟨0⟩, .straggler ⟨2, 1⟩ .sword), (⟨1⟩, .straggler ⟨2, 2⟩ .club),
          (⟨2⟩, .straggler ⟨2, 0⟩ .club)] := rfl
    have member := (Roster.mem_entries_iff (by decide)).mpr found
    rw [entries] at member
    simp only [List.mem_cons, Prod.mk.injEq, List.not_mem_nil, or_false] at member
    rcases member with ⟨-, rfl⟩ | ⟨-, rfl⟩ | ⟨-, rfl⟩
    · exact Combatant.inWords_straggler _ (by decide) (by decide)
    · exact Combatant.inWords_straggler _ (by decide) (by decide)
    · exact Combatant.inWords_straggler _ (by decide) (by decide)
  have total : (onto .crossroads ⟨0, 2⟩ (.build .crossroads .terrain [⟨0⟩, ⟨1⟩, ⟨2⟩]) false :
      Float) = 10.5 := by
    decide +kernel
  rcases onto_eq_sum_of_posts .crossroads ⟨0, 2⟩ (.build .crossroads .terrain [⟨0⟩, ⟨1⟩, ⟨2⟩])
    false words with ⟨⟨posted, posts, sum⟩, vanishes⟩
  refine ⟨words, ⟨posted, posts, sum.symm.trans total⟩, ?_⟩
  by_contra nobody
  have zero := vanishes.mpr nobody
  rw [total] at zero
  exact absurd zero (by decide +kernel)

end Threat
end Hexfield
