import Hexfield.Proofs.Choice.Foremost
import Hexfield.Proofs.Matchup.Pairing
import Hexfield.Proofs.Plan.Assessment
import Hexfield.Proofs.Roster.History
import Hexfield.Proofs.Scalar.Finite
import Hexfield.Proofs.Threat.Tally
import Mathlib.Order.Bounds.Basic

namespace Hexfield

/-!
Which weapons are chosen.

A defender and an attacker go through their weapons in order and keep the first of those that are
rated highest.  With binary64 numbers that is a true optimum as soon as all ratings are numbers.
They are: what is computed from counts is far from the largest number, so that a finite weight or a
finite aggression can make a rating infinite at most.
-/

open Binary64 (AtMost atMost_ofNat atMost_percent number_mul number_sub isFinite_one_sub)

/-! ## Answering -/

/-- With this weapon a defender may answer an attacking one. -/
structure Combatant.MayAnswer (defender : Combatant) (attacking : Weapon) (index : Nat)
    (weapon : Weapon) : Prop where
  carried : defender.weapons[index]? = some weapon
  range : weapon.range = attacking.range
  weight : 0.0 < weapon.defenseWeight

/-- What an answer with a weapon is worth: its damage, times the part that the attacker's resistance
leaves of it, times the strikes that the defender still has with it, times its weight. -/
def Combatant.answerValue (defender attacker : Combatant) (weapon : Weapon) : Float :=
  let left := (max 0 (wrap32 (100 - attacker.resistances.get weapon.damageType))).toNat
  let strikes := weapon.effectiveStrikes defender.hitpoints defender.maxHitpoints
  Scalar.ofNat weapon.damage * (Scalar.ofNat left / 100.0) * Scalar.ofNat strikes *
    weapon.defenseWeight

section Answering

variable {attacker defender : Combatant} {attacking : Weapon}

theorem counterRating_eq_answerValue (attacker defender : Combatant) (weapon : Weapon) :
    counterRating attacker defender weapon = defender.answerValue attacker weapon := by
  have left : (max 0 (wrap32 (100 - attacker.resistances.get weapon.damageType))).toNat =
      (wrap32 (100 - attacker.resistances.get weapon.damageType)).toNat := by
    omega
  simp only [Combatant.answerValue, left]
  rfl

theorem canCounter_iff {weapon : Weapon} (finite : weapon.defenseWeight.isFinite = true) :
    canCounter attacking weapon = true ↔
      weapon.range = attacking.range ∧ 0.0 < weapon.defenseWeight := by
  have number := Binary64.number_of_isFinite finite
  have zero : (0.0 : Float) ≤ 0.0 := Binary64.le_of_isZero ⟨.positive, rfl⟩ ⟨.positive, rfl⟩
  simp only [canCounter, Bool.and_eq_true, beq_iff_eq, Bool.not_eq_true', decide_eq_false_iff_not]
  refine and_congr_right fun _ => ?_
  constructor
  · intro above
    exact Scalar.Ordered.lt_iff.mpr
      ⟨(Scalar.Ordered.le_total zero number).resolve_right above, above⟩
  · intro above
    exact (Scalar.Ordered.lt_iff.mp above).2

/-- Damage, what the resistance leaves of it and the strikes make a finite number, and its product
with the weight is at worst infinite. -/
theorem number_answerValue (words : defender.InWords) {weapon : Weapon}
    (carried : weapon ∈ defender.weapons) (finite : weapon.defenseWeight.isFinite = true) :
    defender.answerValue attacker weapon ≤ defender.answerValue attacker weapon := by
  rw [← counterRating_eq_answerValue]
  have damage : AtMost 13 (Scalar.ofNat weapon.damage) :=
    atMost_ofNat ((words.damage weapon carried).trans (by decide))
  have modifier : AtMost 60 (Scalar.percent
      (wrap32 (100 - attacker.resistances.get weapon.damageType)).toNat) := by
    have bound : wrap32 (100 - attacker.resistances.get weapon.damageType) < 2 ^ 32 :=
      Int.bmod_lt (by decide) |>.trans (by decide)
    exact atMost_percent (by omega)
  have strikes : AtMost 13 (Scalar.ofNat (defender.strikesWith weapon)) :=
    atMost_ofNat (((weapon.effectiveStrikes_le _ _).trans_lt (words.strikes weapon carried)).trans
      (by decide))
  have volley := (damage.mul modifier (by decide) (by decide)).mul strikes (by decide) (by decide)
  exact number_mul volley.isFinite finite

theorem pairwise_counters (attacker defender : Combatant) (attacking : Weapon) :
    (counters attacker defender attacking).Pairwise fun first second => first.1 < second.1 := by
  refine (Roster.pairwise_zipIdx defender.weapons).filterMap _ ?_
  rintro ⟨weapon, index⟩ ⟨weapon', index'⟩ less counter kept counter' kept'
  simp only [Option.ite_none_right_eq_some, Option.some.injEq] at kept kept'
  rw [← kept.2, ← kept'.2]
  exact less

theorem mem_counters_iff_mayAnswer
    (weights : ∀ weapon ∈ defender.weapons, weapon.defenseWeight.isFinite = true)
    (counter : Nat × Float) : counter ∈ counters attacker defender attacking ↔
      ∃ index weapon, defender.MayAnswer attacking index weapon ∧
        counter = (index, defender.answerValue attacker weapon) := by
  simp only [mem_counters_iff, counterRating_eq_answerValue]
  constructor
  · rintro ⟨weapon, carried, fits, rating⟩
    have finite := weights weapon (List.mem_of_getElem? carried)
    rcases (canCounter_iff finite).mp fits with ⟨range, weight⟩
    exact ⟨counter.1, weapon, ⟨carried, range, weight⟩, Prod.ext rfl rating⟩
  · rintro ⟨index, weapon, ⟨carried, range, weight⟩, rfl⟩
    have finite := weights weapon (List.mem_of_getElem? carried)
    exact ⟨weapon, carried, (canCounter_iff finite).mpr ⟨range, weight⟩, rfl⟩

/-- A defender has no answer just if it is petrified or has no weapon that may answer. -/
theorem chooseCounter_eq_none_iff
    (weights : ∀ weapon ∈ defender.weapons, weapon.defenseWeight.isFinite = true) :
    chooseCounter attacker defender attacking = none ↔
      defender.incapacitated = true ∨
        ¬ ∃ index weapon, defender.MayAnswer attacking index weapon := by
  rw [chooseCounter_eq]
  cases defender.incapacitated with
  | true => simp
  | false =>
      simp only [Bool.false_eq_true, if_false, false_or, Option.map_eq_none_iff,
        Choice.best?_eq_none_iff, List.eq_nil_iff_forall_not_mem,
        mem_counters_iff_mayAnswer weights]
      constructor
      · rintro nothing ⟨index, weapon, able⟩
        exact nothing _ ⟨index, weapon, able, rfl⟩
      · rintro nothing counter ⟨index, weapon, able, -⟩
        exact nothing ⟨index, weapon, able⟩

/-- The answer is the first of the weapons that may answer and are worth most. -/
theorem chooseCounter_eq_some_iff (words : defender.InWords)
    (weights : ∀ weapon ∈ defender.weapons, weapon.defenseWeight.isFinite = true) {index : Nat} :
    chooseCounter attacker defender attacking = some index ↔
      defender.incapacitated = false ∧
        IsLeast {index | ∃ weapon, defender.MayAnswer attacking index weapon ∧
          ∀ other rival, defender.MayAnswer attacking other rival →
            defender.answerValue attacker rival ≤ defender.answerValue attacker weapon} index := by
  have numbers : ∀ index weapon, defender.MayAnswer attacking index weapon →
      defender.answerValue attacker weapon ≤ defender.answerValue attacker weapon := by
    intro index weapon able
    have carried := List.mem_of_getElem? able.carried
    exact number_answerValue words carried (weights weapon carried)
  have ascending : (counters attacker defender attacking).Pairwise
      fun first second => id first.1 < id second.1 := pairwise_counters attacker defender attacking
  have named : ∀ (place : Nat) (_ : Weapon), id place = place := fun _ _ => rfl
  rw [chooseCounter_eq]
  cases defender.incapacitated with
  | true => simp
  | false =>
      rw [if_neg Bool.false_ne_true, Choice.map_best?_eq_some_iff named
        (mem_counters_iff_mayAnswer weights) ascending numbers]
      constructor
      · rintro ⟨_, _, rfl, -, least⟩
        exact ⟨rfl, least⟩
      · rintro ⟨-, least⟩
        rcases least.1 with ⟨weapon, able, -⟩
        exact ⟨index, weapon, rfl, able, least⟩

end Answering

/-! ## Attacking -/

/-- What a round of strikes does on average: damage times strikes, in the word that holds it, times
the chance to hit. -/
def StrikeProfile.averageDamage (profile : StrikeProfile) : Float :=
  Scalar.ofNat profile.chanceToHit / 100.0 * Scalar.ofNat (low32 (profile.damage * profile.strikes))

/-- What the attacker does on average, less what is done to it as far as it minds. -/
def Matchup.balance (matchup : Matchup) (aggression : Float) : Float :=
  matchup.attacker.averageDamage - (1.0 - aggression) * matchup.defender.averageDamage

theorem Matchup.worth_eq_balance (matchup : Matchup) (aggression : Float) :
    matchup.worth aggression = matchup.balance aggression :=
  rfl

namespace Battlefield

/-- A unit may strike another with the weapon of this index, and these are the numbers of the
attack. -/
structure Offers (field : Battlefield) (attacker target : UnitId) (unit : Combatant) (index : Nat)
    (matchup : Matchup) : Prop where
  strikes : ∃ weapon, unit.weapons[index]? = some weapon ∧ 0 < weapon.strikes
  numbers : field.matchup attacker target index = .ok matchup

section Attacking

variable {field : Battlefield} {attacker target : UnitId} {unit unit' : Combatant}

theorem isFinite_averageDamage {profile : StrikeProfile} (chance : profile.chanceToHit ≤ 100) :
    profile.averageDamage.isFinite = true := by
  have probability : AtMost 60 (Scalar.percent profile.chanceToHit) :=
    atMost_percent (lt_of_le_of_lt chance (by decide))
  have volley : AtMost 13 (Scalar.ofNat (low32 (profile.damage * profile.strikes))) :=
    atMost_ofNat ((low32_lt _).trans (by decide))
  exact (probability.mul volley (by decide) (by decide)).isFinite

theorem number_balance (pairing : Pairing) (field : Battlefield) {aggression : Float}
    (finite : aggression.isFinite = true) :
    (pairing.matchup field).balance aggression ≤ (pairing.matchup field).balance aggression := by
  have dealt : (pairing.matchup field).attacker.averageDamage.isFinite = true :=
    isFinite_averageDamage (Nat.min_le_right _ _)
  have taken : (pairing.matchup field).defender.averageDamage.isFinite = true := by
    refine isFinite_averageDamage ?_
    simp only [Pairing.matchup, Pairing.defenderProfile]
    split
    · exact Nat.min_le_right _ _
    · exact Nat.min_le_right _ _
  exact number_sub dealt (number_mul (isFinite_one_sub finite) taken)

theorem pairwise_strikingWeapons (unit : Combatant) : (strikingWeapons unit).Pairwise (· < ·) :=
  List.pairwise_map.mpr ((Roster.pairwise_zipIdx unit.weapons).filter _)

theorem mem_candidates_iff_offers {aggression : Float}
    {candidates : List ((Nat × Matchup) × Float)}
    (indices : candidates.map (fun candidate => candidate.1.1) = strikingWeapons unit)
    (numbered : ∀ candidate ∈ candidates,
      field.matchup attacker target candidate.1.1 = .ok candidate.1.2 ∧
        candidate.2 = candidate.1.2.worth aggression) (candidate : (Nat × Matchup) × Float) :
    candidate ∈ candidates ↔ ∃ index matchup, field.Offers attacker target unit index matchup ∧
      candidate = ((index, matchup), matchup.balance aggression) := by
  constructor
  · intro member
    rcases numbered candidate member with ⟨numbers, worth⟩
    have striking : candidate.1.1 ∈ strikingWeapons unit := by
      rw [← indices]
      exact List.mem_map_of_mem member
    exact ⟨candidate.1.1, candidate.1.2, ⟨mem_strikingWeapons_iff.mp striking, numbers⟩,
      Prod.ext rfl worth⟩
  · rintro ⟨index, matchup, ⟨strikes, numbers⟩, rfl⟩
    have striking := mem_strikingWeapons_iff.mpr strikes
    rw [← indices] at striking
    rcases List.mem_map.mp striking with ⟨⟨⟨_, matchup'⟩, rating⟩, member, rfl⟩
    rcases numbered _ member with ⟨numbers', worth⟩
    rw [numbers] at numbers'
    cases numbers'
    change rating = _ at worth
    rw [← Matchup.worth_eq_balance, ← worth]
    exact member

/-- The weapon for an attack is the first of those worth most, with the numbers of the attack; there
is none just if no weapon has a strike. -/
theorem exists_chooseWeapon_isLeast (alive : field.roster.get? attacker = some unit)
    (alive' : field.roster.get? target = some unit') {aggression : Float}
    (finite : aggression.isFinite = true) :
    ∃ choice, field.chooseWeapon attacker target aggression = .ok choice ∧
      (choice = none ↔ ∀ weapon ∈ unit.weapons, weapon.strikes = 0) ∧
      ∀ index matchup, choice = some (index, matchup) ↔
        field.matchup attacker target index = .ok matchup ∧
          IsLeast {index | ∃ matchup, field.Offers attacker target unit index matchup ∧
            ∀ other rival, field.Offers attacker target unit other rival →
              rival.balance aggression ≤ matchup.balance aggression} index := by
  rcases exists_candidates alive alive' aggression with ⟨candidates, answer, indices, numbered⟩
  have ascending : candidates.Pairwise fun first second => first.1.1 < second.1.1 := by
    apply List.pairwise_map.mp
    rw [indices]
    exact pairwise_strikingWeapons unit
  have numbers : ∀ index matchup, field.Offers attacker target unit index matchup →
      matchup.balance aggression ≤ matchup.balance aggression := by
    rintro index matchup ⟨⟨weapon, found, -⟩, numbers⟩
    have paired := pairing_eq_ok_iff.mpr ⟨unit, unit', weapon, alive, alive', found, rfl⟩
    rw [matchup_of_pairing paired] at numbers
    cases numbers
    exact number_balance _ field finite
  refine ⟨_, answer, ?_, ?_⟩
  · rw [Option.map_eq_none_iff, Choice.best?_eq_none_iff, ← List.map_eq_nil_iff, indices]
    exact strikingWeapons_eq_nil_iff
  · intro index matchup
    rw [Choice.map_best?_eq_some_iff (fun _ _ => rfl) (mem_candidates_iff_offers indices numbered)
      ascending numbers]
    constructor
    · rintro ⟨_, _, same, offer, least⟩
      cases same
      exact ⟨offer.numbers, least⟩
    · rintro ⟨numbers, least⟩
      rcases least.1 with ⟨_, offer, -⟩
      exact ⟨index, matchup, rfl, ⟨offer.strikes, numbers⟩, least⟩

/-- With finite weights and a finite aggression, both choices are true optima.  A defender answers
with the first of its weapons of the attacking weapon's range and positive weight that are worth
most, and not at all just if it is petrified or has no such weapon.  An attacker strikes with the
first of its weapons with a strike that are worth most, is told the numbers of just that attack, and
finds none just if no weapon has a strike. -/
theorem weapon_choices_optimal (alive : field.roster.get? attacker = some unit)
    (alive' : field.roster.get? target = some unit') (words : unit'.InWords)
    (weights : ∀ weapon ∈ unit'.weapons, weapon.defenseWeight.isFinite = true)
    {aggression : Float} (finite : aggression.isFinite = true) :
    (∀ attacking,
      (chooseCounter unit unit' attacking = none ↔
        unit'.incapacitated = true ∨ ¬ ∃ index weapon, unit'.MayAnswer attacking index weapon) ∧
      ∀ index, chooseCounter unit unit' attacking = some index ↔
        unit'.incapacitated = false ∧
          IsLeast {index | ∃ weapon, unit'.MayAnswer attacking index weapon ∧
            ∀ other rival, unit'.MayAnswer attacking other rival →
              unit'.answerValue unit rival ≤ unit'.answerValue unit weapon} index) ∧
    ∃ choice, field.chooseWeapon attacker target aggression = .ok choice ∧
      (choice = none ↔ ∀ weapon ∈ unit.weapons, weapon.strikes = 0) ∧
      ∀ index matchup, choice = some (index, matchup) ↔
        field.matchup attacker target index = .ok matchup ∧
          IsLeast {index | ∃ matchup, field.Offers attacker target unit index matchup ∧
            ∀ other rival, field.Offers attacker target unit other rival →
              rival.balance aggression ≤ matchup.balance aggression} index :=
  ⟨fun _ => ⟨chooseCounter_eq_none_iff weights,
      fun _ => chooseCounter_eq_some_iff words weights⟩,
    exists_chooseWeapon_isLeast alive alive' finite⟩

end Attacking

end Battlefield

/-! ## An encounter -/

def Combatant.footman (side : Side) (hex : Hex) : Combatant :=
  { Combatant.ofType "Footman" side hex 30 with weapons := [.bow, .club, .sword, .spear] }

theorem Combatant.inWords_footman (side : Side) (hex : Hex) : (footman side hex).InWords where
  hitpoints := (by decide : 30 < UInt32.size)
  maxHitpoints := (by decide : 30 < UInt32.size)
  damage :=
    (by decide : ∀ weapon ∈ [Weapon.bow, .club, .sword, .spear], weapon.damage < UInt32.size)
  strikes :=
    (by decide : ∀ weapon ∈ [Weapon.bow, .club, .sword, .spear], weapon.strikes < UInt32.size)

namespace Battlefield

def encounter : Battlefield :=
  { board := .flat 3 3
    roster :=
      { slots := #[some (.footman ⟨1⟩ ⟨0, 1⟩), some (.footman ⟨2⟩ ⟨1, 1⟩)]
        index := ((∅ : Std.ExtTreeMap Hex UnitId).insert ⟨0, 1⟩ ⟨0⟩).insert ⟨1, 1⟩ ⟨1⟩ }
    teams := .twoSides
    time := .dusk
    rules := {} }

/-- In the encounter the sword is chosen, though the bow and the club come first, and answered with
the sword, though the club comes first.  The spear, with which one strikes as hard, comes later. -/
theorem weapon_choices_optimal_encounter :
    let attacker := Combatant.footman ⟨1⟩ ⟨0, 1⟩
    let defender := Combatant.footman ⟨2⟩ ⟨1, 1⟩
    (chooseCounter attacker defender .sword = some 2 ∧
        defender.MayAnswer .sword 1 .club ∧
        defender.answerValue attacker .club < defender.answerValue attacker .sword ∧
        IsLeast {index | ∃ weapon, defender.MayAnswer .sword index weapon ∧
          ∀ other rival, defender.MayAnswer .sword other rival →
            defender.answerValue attacker rival ≤ defender.answerValue attacker weapon} 2) ∧
      ∃ bow matchup, encounter.chooseWeapon ⟨0⟩ ⟨1⟩ (0.4 : Float) = .ok (some (2, matchup)) ∧
        encounter.matchup ⟨0⟩ ⟨1⟩ 2 = .ok matchup ∧
        encounter.Offers ⟨0⟩ ⟨1⟩ attacker 0 bow ∧ bow.balance 0.4 < matchup.balance 0.4 ∧
        IsLeast {index | ∃ matchup, encounter.Offers ⟨0⟩ ⟨1⟩ attacker index matchup ∧
            ∀ other rival, encounter.Offers ⟨0⟩ ⟨1⟩ attacker other rival →
              rival.balance 0.4 ≤ matchup.balance 0.4} 2 := by
  intro attacker defender
  have answer : chooseCounter attacker defender .sword = some 2 := by
    decide +kernel
  have strike : ((encounter.chooseWeapon ⟨0⟩ ⟨1⟩ (0.4 : Float)).toOption.bind id).map Prod.fst =
      some 2 := by
    decide +kernel
  rcases @weapon_choices_optimal encounter ⟨0⟩ ⟨1⟩ attacker defender rfl rfl
    (Combatant.inWords_footman ⟨2⟩ ⟨1, 1⟩) (by decide) 0.4 (by decide) with
    ⟨counters, choice, chosen, -, best⟩
  refine ⟨⟨answer, ⟨rfl, rfl, by decide⟩, by decide +kernel, (((counters .sword).2 2).mp answer).2⟩,
    ?_⟩
  rw [chosen] at strike
  rcases Option.map_eq_some_iff.mp strike with ⟨⟨index, matchup⟩, there, rfl⟩
  have found : choice = some (2, matchup) := there
  rcases (best 2 matchup).mp found with ⟨numbers, least⟩
  have sword : encounter.matchup ⟨0⟩ ⟨1⟩ 2 =
      .ok ((encounter.pair attacker defender 2 .sword).matchup encounter) := rfl
  cases numbers.symm.trans sword
  refine ⟨(encounter.pair attacker defender 0 .bow).matchup encounter, _,
    chosen.trans (congrArg Except.ok found), sword, ⟨⟨.bow, rfl, by decide⟩, rfl⟩, ?_, least⟩
  decide +kernel

end Battlefield

end Hexfield
