import Hexfield.Proofs.Matchup.Pairing
import Hexfield.Proofs.Scalar.Order
import Mathlib.Data.List.Induction

namespace Hexfield

/-!
When a choice stays what it is.

The best rated of several candidates is the earliest of those that no other exceeds, except that a
first candidate whose rating is not a number is never replaced.  So a choice can only change with
the rating of a candidate that is chosen before or after: as long as both are rated as they were,
they are the same candidate.  Of a defender's weapons only those that swarm are rated by its
hitpoints.
-/

namespace Choice

variable {ι κ α : Type} [Scalar α]

/-- Candidates under their names, with their ratings. -/
def rated (name : κ → ι) (rating : κ → α) (candidates : List κ) : List (ι × α) :=
  candidates.map fun candidate => (name candidate, rating candidate)

/-- A candidate wins at its place: it is rated above the first, not below any that comes earlier,
and no later one is rated above it. -/
structure Wins (rating : κ → α) (candidates : List κ) (place : Nat) (winner : κ) : Prop where
  placed : candidates[place]? = some winner
  aboveFirst : 0 < place → ∀ first, candidates[0]? = some first → rating first < rating winner
  aboveEarlier : ∀ earlier candidate, earlier < place → candidates[earlier]? = some candidate →
    ¬ rating winner ≤ rating candidate
  unsurpassed : ∀ later candidate, place < later → candidates[later]? = some candidate →
    ¬ rating winner < rating candidate

variable [Scalar.Ordered α] {name : κ → ι} {rating rating' : κ → α} {candidates : List κ}
  {place place' : Nat} {winner winner' last : κ}

namespace Wins

omit [Scalar.Ordered α] in
/-- A winner that is not surpassed by one more candidate remains the winner. -/
theorem remains (wins : Wins rating candidates place winner)
    (unsurpassed : ¬ rating winner < rating last) :
    Wins rating (candidates ++ [last]) place winner := by
  have within : place < candidates.length := (List.getElem?_eq_some_iff.mp wins.placed).1
  refine ⟨?_, ?_, ?_, ?_⟩
  · rw [List.getElem?_append_left within]
    exact wins.placed
  · intro behind first found
    rw [List.getElem?_append_left (Nat.zero_lt_of_lt within)] at found
    exact wins.aboveFirst behind first found
  · intro earlier candidate before found
    rw [List.getElem?_append_left (Nat.lt_trans before within)] at found
    exact wins.aboveEarlier earlier candidate before found
  · intro later candidate after found
    rcases Nat.lt_or_ge later candidates.length with inside | beyond
    · rw [List.getElem?_append_left inside] at found
      exact wins.unsurpassed later candidate after found
    · rw [List.getElem?_append_right beyond] at found
      rw [List.mem_singleton.mp (List.mem_of_getElem? found)]
      exact unsurpassed

/-- One more candidate that surpasses the winner wins. -/
theorem replaced (wins : Wins rating candidates place winner)
    (surpassed : rating winner < rating last) :
    Wins rating (candidates ++ [last]) candidates.length last := by
  have below : ∀ {candidate : κ}, rating last ≤ rating candidate →
      rating winner < rating candidate := fun le =>
    Scalar.Ordered.lt_of_lt_of_le surpassed le
  refine ⟨?_, ?_, ?_, ?_⟩
  · rw [List.getElem?_append_right (Nat.le_refl _), Nat.sub_self]
    rfl
  · intro behind first found
    rw [List.getElem?_append_left behind] at found
    rcases Nat.eq_zero_or_pos place with rfl | later
    · cases wins.placed.symm.trans found
      exact surpassed
    · have aboveFirst := wins.aboveFirst later first found
      exact Scalar.Ordered.lt_of_le_of_lt (Scalar.Ordered.lt_iff.mp aboveFirst).1 surpassed
  · intro earlier candidate before found le
    rw [List.getElem?_append_left before] at found
    rcases Nat.lt_trichotomy earlier place with less | rfl | greater
    · exact wins.aboveEarlier earlier candidate less found
        (Scalar.Ordered.lt_iff.mp (below le)).1
    · cases wins.placed.symm.trans found
      exact Scalar.Ordered.lt_irrefl _ (below le)
    · exact wins.unsurpassed earlier candidate greater found (below le)
  · intro later candidate after found
    have within := (List.getElem?_eq_some_iff.mp found).1
    rw [List.length_append, List.length_singleton] at within
    omega

theorem not_lt (wins : Wins rating candidates place winner)
    (wins' : Wins rating' candidates place' winner') (same : rating' winner = rating winner)
    (same' : rating' winner' = rating winner') : ¬ place < place' := by
  intro before
  have unsurpassed := wins.unsurpassed place' winner' before wins'.placed
  have above := wins'.aboveEarlier place winner before wins.placed
  have aboveFirst := wins'.aboveFirst (Nat.zero_lt_of_lt before)
  rw [same, same'] at above
  rcases Nat.eq_zero_or_pos place with rfl | behind
  · have surpassed := aboveFirst winner wins.placed
    rw [same, same'] at surpassed
    exact unsurpassed surpassed
  · -- Both are numbers, since the first candidate is below either.
    have nonempty : 0 < candidates.length :=
      Nat.zero_lt_of_lt (List.getElem?_eq_some_iff.mp wins.placed).1
    have first : candidates[0]? = some candidates[0] := List.getElem?_eq_getElem nonempty
    have number := Scalar.Ordered.number_of_lt (wins.aboveFirst behind _ first)
    have number' := Scalar.Ordered.number_of_lt (aboveFirst _ first)
    rw [same'] at number'
    rcases Scalar.Ordered.le_total number number' with le | ge
    · exact unsurpassed (Scalar.Ordered.lt_iff.mpr ⟨le, above⟩)
    · exact above ge

theorem eq (wins : Wins rating candidates place winner)
    (wins' : Wins rating' candidates place' winner') (same : rating' winner = rating winner)
    (same' : rating' winner' = rating winner') : winner' = winner := by
  have places : place' = place :=
    Nat.le_antisymm (Nat.le_of_not_lt (wins.not_lt wins' same same'))
      (Nat.le_of_not_lt (wins'.not_lt wins same'.symm same.symm))
  subst places
  exact Option.some.inj (wins'.placed.symm.trans wins.placed)

end Wins

theorem exists_wins {chosen : ι × α}
    (best : best? (rated name rating candidates) = some chosen) :
    ∃ place winner, Wins rating candidates place winner ∧
      chosen = (name winner, rating winner) := by
  -- The best so far is the winner among the candidates so far.
  induction candidates using List.reverseRecOn generalizing chosen with
  | nil => cases best
  | append_singleton candidates last ih =>
      have further : best? (rated name rating (candidates ++ [last])) =
          keep (best? (rated name rating candidates)) (name last, rating last) := by
        simp only [best?, rated, List.map_append, List.map_singleton, List.foldl_append,
          List.foldl_cons, List.foldl_nil]
      rw [further] at best
      cases leader : best? (rated name rating candidates) with
      | none =>
          have alone : candidates = [] := List.map_eq_nil_iff.mp ((best?_eq_none_iff _).mp leader)
          rw [leader] at best
          subst alone
          refine ⟨0, last, ⟨rfl, ?_, ?_, ?_⟩, (Option.some.inj best).symm⟩
          · intro behind
            cases behind
          · intro earlier _ before
            cases before
          · intro later candidate after found
            have within := (List.getElem?_eq_some_iff.mp found).1
            rw [List.nil_append, List.length_singleton] at within
            omega
      | some leading =>
          rcases ih leader with ⟨place, winner, wins, rfl⟩
          rw [leader] at best
          simp only [keep] at best
          split at best
          · rename_i surpassed
            exact ⟨_, last, wins.replaced surpassed, (Option.some.inj best).symm⟩
          · rename_i unsurpassed
            exact ⟨place, winner, wins.remains unsurpassed, (Option.some.inj best).symm⟩

end Choice

/-! ## The answer of a defender -/

/-- The weapons with which a defender may answer, with their indices. -/
def answering (defender : Combatant) (attacking : Weapon) : List (Weapon × Nat) :=
  defender.weapons.zipIdx.filter fun listed => canCounter attacking listed.1

theorem counters_eq_rated (attacker defender : Combatant) (attacking : Weapon) :
    counters attacker defender attacking =
      Choice.rated Prod.snd (fun listed => counterRating attacker defender listed.1)
        (answering defender attacking) := by
  rw [counters, Choice.rated, answering, ← List.filterMap_eq_map, List.filterMap_filter]
  rfl

/-- A chosen counter weapon wins among those with which the defender may answer. -/
theorem exists_wins_of_chooseCounter {attacker defender : Combatant} {attacking : Weapon}
    {index : Nat} (chosen : chooseCounter attacker defender attacking = some index) :
    ∃ place weapon, defender.weapons[index]? = some weapon ∧
      Choice.Wins (fun listed : Weapon × Nat => counterRating attacker defender listed.1)
        (answering defender attacking) place (weapon, index) := by
  rw [chooseCounter_eq, counters_eq_rated] at chosen
  split at chosen
  · cases chosen
  · rcases Option.map_eq_some_iff.mp chosen with ⟨candidate, best, rfl⟩
    rcases Choice.exists_wins best with ⟨place, ⟨weapon, index⟩, wins, rfl⟩
    have listed := (List.mem_filter.mp (List.mem_of_getElem? wins.placed)).1
    exact ⟨place, weapon, List.mem_zipIdx_iff_getElem?.mp listed, wins⟩

section

variable {attacker attacker' defender defender' : Combatant}

/-- Only the rating of a weapon that swarms depends on who answers with it. -/
theorem counterRating_eq_of_orderly (resistances : attacker'.resistances = attacker.resistances)
    {weapon : Weapon} (orderly : weapon.hasSpecial .swarm = false) :
    counterRating attacker' defender' weapon = counterRating attacker defender weapon := by
  have strikes : defender'.strikesWith weapon = defender.strikesWith weapon := by
    simp [Combatant.strikesWith, Weapon.effectiveStrikes, orderly]
  rw [counterRating, counterRating, resistances, strikes]

/-- A defender that keeps its weapons makes another choice only if a weapon that swarms is chosen
before or after. -/
theorem chooseCounter_eq_or_swarms (resistances : attacker'.resistances = attacker.resistances)
    (weapons : defender'.weapons = defender.weapons)
    (stone : defender'.incapacitated = defender.incapacitated) (attacking : Weapon) :
    chooseCounter attacker' defender' attacking = chooseCounter attacker defender attacking ∨
      ∃ index weapon,
        (chooseCounter attacker defender attacking = some index ∨
          chooseCounter attacker' defender' attacking = some index) ∧
        defender.weapons[index]? = some weapon ∧ weapon.hasSpecial .swarm = true := by
  have both : (chooseCounter attacker' defender' attacking).isSome =
      (chooseCounter attacker defender attacking).isSome := by
    rw [isSome_chooseCounter, isSome_chooseCounter, stone, weapons]
  cases first : chooseCounter attacker defender attacking with
  | none =>
      rw [first] at both
      exact Or.inl (Option.not_isSome_iff_eq_none.mp (Bool.eq_false_iff.mp both))
  | some index =>
      rw [first] at both
      rcases Option.isSome_iff_exists.mp both with ⟨index', second⟩
      rcases exists_wins_of_chooseCounter first with ⟨place, weapon, carried, wins⟩
      rcases exists_wins_of_chooseCounter second with ⟨place', weapon', carried', wins'⟩
      have same : answering defender' attacking = answering defender attacking := by
        rw [answering, answering, weapons]
      rw [weapons] at carried'
      rw [same] at wins'
      cases swarms : weapon.hasSpecial .swarm with
      | true => exact Or.inr ⟨index, weapon, Or.inl rfl, carried, swarms⟩
      | false =>
          cases swarms' : weapon'.hasSpecial .swarm with
          | true => exact Or.inr ⟨index', weapon', Or.inr second, carried', swarms'⟩
          | false =>
              have chosen : (weapon', index') = (weapon, index) :=
                wins.eq wins' (counterRating_eq_of_orderly resistances swarms)
                  (counterRating_eq_of_orderly resistances swarms')
              rw [second, (Prod.mk.inj chosen).2]
              exact Or.inl rfl

/-- A defender that keeps its weapons, none of which swarms, keeps its choice. -/
theorem chooseCounter_eq_of_orderly (resistances : attacker'.resistances = attacker.resistances)
    (weapons : defender'.weapons = defender.weapons)
    (stone : defender'.incapacitated = defender.incapacitated)
    (orderly : ∀ weapon ∈ defender.weapons, weapon.hasSpecial .swarm = false)
    (attacking : Weapon) :
    chooseCounter attacker' defender' attacking = chooseCounter attacker defender attacking := by
  rcases chooseCounter_eq_or_swarms resistances weapons stone attacking with
    same | ⟨index, weapon, -, carried, swarms⟩
  · exact same
  · rw [orderly weapon (List.mem_of_getElem? carried)] at swarms
    cases swarms

/-- A defender that keeps its weapons chooses as it would have chosen at first with the hitpoints
that it has now. -/
theorem chooseCounter_eq_of_hitpoints
    (resistances : attacker'.resistances = attacker.resistances)
    (weapons : defender'.weapons = defender.weapons)
    (stone : defender'.incapacitated = defender.incapacitated)
    (most : defender'.maxHitpoints = defender.maxHitpoints) (attacking : Weapon) :
    chooseCounter attacker' defender' attacking =
      chooseCounter attacker { defender with hitpoints := defender'.hitpoints } attacking := by
  have rating : counterRating attacker' defender' =
      counterRating attacker { defender with hitpoints := defender'.hitpoints } := by
    funext weapon
    simp only [counterRating, Combatant.strikesWith, resistances, most]
  rw [chooseCounter_eq, chooseCounter_eq, counters, counters, stone, weapons, rating]
  rfl

end

end Hexfield
