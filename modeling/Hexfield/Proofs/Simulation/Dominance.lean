import Hexfield.Proofs.Simulation.Bounds

namespace Hexfield

/-!
A stronger attacker never fares worse on the same rolls.

Two exchanges are played on the same rolls, and the attacker of the second hits at least as often
and as hard.  As long as both go on, they draw the same rolls, their attackers are hurt alike, and
the defender of the second is hurt at least as much.  The first cannot be decided before the second:
a blow that kills the defender of the first kills that of the second too, which has no more
hitpoints.  When the second is decided by such a blow before the first, then its attacker is hurt no
more, whereas that of the first may be.
-/

/-- The second matchup is the first with an attacker that hits as often at least, and as hard at
least. -/
structure Matchup.Strengthens (first second : Matchup) : Prop where
  frame : second =
    { first with
      attacker :=
        { first.attacker with
          chanceToHit := second.attacker.chanceToHit, damage := second.attacker.damage } }
  chance : first.attacker.chanceToHit ≤ second.attacker.chanceToHit
  damage : first.attacker.damage ≤ second.attacker.damage

namespace Matchup.Strengthens

variable {first second : Matchup} (strengthens : first.Strengthens second)

include strengthens

theorem defender : second.defender = first.defender := by
  rw [strengthens.frame]

theorem schedule : second.schedule = first.schedule := by
  rw [strengthens.frame]
  rfl

theorem damageOnly (only : Simulation.DamageOnly first) : Simulation.DamageOnly second := by
  rw [strengthens.frame]
  constructor
  · intro role
    cases role with
    | attacker => exact only.drains .attacker
    | defender => exact only.drains .defender
  · intro role
    cases role with
    | attacker => exact only.slows .attacker
    | defender => exact only.slows .defender
  · intro role
    cases role with
    | attacker => exact only.petrifies .attacker
    | defender => exact only.petrifies .defender

end Matchup.Strengthens

/-- The second sides are as the first, but for a defender that may be hurt more. -/
structure Vitals.Presses (first second : Role → Vitals) : Prop where
  attacker : second .attacker = first .attacker
  defender : (second .defender).hitpoints ≤ (first .defender).hitpoints

namespace Vitals.Presses

variable {first second : Role → Vitals} (presses : Vitals.Presses first second)
  {profile profile' : StrikeProfile} {damage damage' : Nat}

include presses

theorem attackerHits (undrained : profile.drains = false) (undrained' : profile'.drains = false)
    (harder : damage ≤ damage') :
    Vitals.Presses (afterHit first .attacker profile damage)
      (afterHit second .attacker profile' damage') := by
  constructor
  · rw [afterHit_striker, afterHit_striker, drained_of_undrained undrained,
      drained_of_undrained undrained']
    exact presses.attacker
  · exact Nat.le_trans (Nat.sub_le_sub_left harder _) (Nat.sub_le_sub_right presses.defender _)

theorem onlySecondHits (undrained' : profile'.drains = false) :
    Vitals.Presses first (afterHit second .attacker profile' damage') := by
  constructor
  · rw [afterHit_striker, drained_of_undrained undrained']
    exact presses.attacker
  · exact Nat.le_trans (Nat.sub_le _ _) presses.defender

theorem defenderHits (undrained : profile.drains = false) (damage : Nat) :
    Vitals.Presses (afterHit first .defender profile damage)
      (afterHit second .defender profile damage) := by
  constructor
  · exact congrArg (Vitals.wounded · damage) presses.attacker
  · rw [afterHit_striker, afterHit_striker, drained_of_undrained undrained,
      drained_of_undrained undrained]
    exact presses.defender

end Vitals.Presses

namespace Simulation

/-- The second exchange leaves the defender no more hitpoints than the first, and the attacker no
fewer. -/
structure Outcome.NoWorse (first second : Outcome) : Prop where
  defender : second.defenderHitpoints ≤ first.defenderHitpoints
  attacker : first.attackerHitpoints ≤ second.attackerHitpoints

theorem Outcome.noWorse_between {ρ : Type} {vitals vitals' : Role → Vitals}
    (presses : Vitals.Presses vitals vitals') (rolls rolls' : ρ) (decided : Bool) :
    { Bout.between vitals rolls with decided }.outcome.NoWorse
      { Bout.between vitals' rolls' with decided }.outcome :=
  ⟨presses.defender, Nat.le_of_eq (congrArg Vitals.hitpoints presses.attacker.symm)⟩

variable {ρ : Type} [RollSource ρ] {first second : Matchup}

/-- The strikes of an attacker that does not drain give it no hitpoints, so the second is no worse
off where its strike ends the exchange and the first has to go on. -/
theorem noWorse_of_kill {vitals vitals' : Role → Vitals} (presses : Vitals.Presses vitals vitals')
    (undrained : first.attacker.drains = false) (order : List Bool) (rolls rolls' : ρ)
    (killed : (vitals' .defender).hitpoints = 0) :
    (playRound first order (.between vitals rolls)).outcome.NoWorse
      { Bout.between vitals' rolls' with decided := true }.outcome := by
  constructor
  · exact Nat.le_trans (Nat.le_of_eq killed) (Nat.zero_le _)
  · have spent := hitpoints_playRound_le .attacker undrained order (.between vitals rolls)
    exact Nat.le_trans spent (Nat.le_of_eq (congrArg Vitals.hitpoints presses.attacker.symm))

section Swings

variable (strengthens : first.Strengthens second) (only : DamageOnly first) {rest : List Bool}
  (later : ∀ {vitals vitals' : Role → Vitals} (rolls : ρ), Vitals.Presses vitals vitals' →
    (playRound first rest (.between vitals rolls)).outcome.NoWorse
      (playRound second rest (.between vitals' rolls)).outcome)
  {vitals vitals' : Role → Vitals} (presses : Vitals.Presses vitals vitals') (rolls : ρ)

include strengthens only later presses

/-- A round that goes on no worse goes no worse from a swing of the attackers on. -/
theorem noWorse_attackerSwing :
    (playRound first (Role.attacker.mark :: rest) (.between vitals rolls)).outcome.NoWorse
      (playRound second (Role.attacker.mark :: rest) (.between vitals' rolls)).outcome := by
  have only' := strengthens.damageOnly only
  have undrained := only.drains .attacker
  have undrained' := only'.drains .attacker
  by_cases hits' : (RollSource.roll rolls).1.val < second.attacker.chanceToHit
  · by_cases lethal' : (vitals' .defender).hitpoints ≤ second.attacker.damage
    · -- The second exchange is over; the first may go on, at its attacker's cost alone.
      rw [only'.playRound_kill .attacker rest vitals' rolls hits' lethal']
      exact noWorse_of_kill (presses.onlySecondHits undrained') undrained _ _ _
        (Nat.sub_eq_zero_of_le lethal')
    · rw [only'.playRound_wound .attacker rest vitals' rolls hits' lethal']
      by_cases hits : (RollSource.roll rolls).1.val < first.attacker.chanceToHit
      · have survives : ¬ (vitals .defender).hitpoints ≤ first.attacker.damage := by
          have fewer := presses.defender
          have harder := strengthens.damage
          omega
        rw [only.playRound_wound .attacker rest vitals rolls hits survives]
        exact later _ (presses.attackerHits undrained undrained' strengthens.damage)
      · rw [playRound_miss .attacker rest vitals rolls hits]
        exact later _ (presses.onlySecondHits undrained')
  · have misses : ¬ (RollSource.roll rolls).1.val < first.attacker.chanceToHit := by
      have likelier := strengthens.chance
      omega
    rw [playRound_miss .attacker rest vitals' rolls hits',
      playRound_miss .attacker rest vitals rolls misses]
    exact later _ presses

/-- A round that goes on no worse goes no worse from a swing of the defenders on. -/
theorem noWorse_defenderSwing :
    (playRound first (Role.defender.mark :: rest) (.between vitals rolls)).outcome.NoWorse
      (playRound second (Role.defender.mark :: rest) (.between vitals' rolls)).outcome := by
  have only' := strengthens.damageOnly only
  have same : second.profileOf .defender = first.profileOf .defender := strengthens.defender
  have target : vitals' Role.defender.other = vitals Role.defender.other := presses.attacker
  have wounded := presses.defenderHits (only.drains .defender) first.defender.damage
  by_cases hits : (RollSource.roll rolls).1.val < (first.profileOf .defender).chanceToHit
  · have hits' : (RollSource.roll rolls).1.val < (second.profileOf .defender).chanceToHit := by
      rwa [same]
    by_cases lethal :
        (vitals Role.defender.other).hitpoints ≤ (first.profileOf .defender).damage
    · rw [only.playRound_kill .defender rest vitals rolls hits lethal,
        only'.playRound_kill .defender rest vitals' rolls hits' (by rwa [same, target]), same]
      exact Outcome.noWorse_between wounded _ _ true
    · rw [only.playRound_wound .defender rest vitals rolls hits lethal,
        only'.playRound_wound .defender rest vitals' rolls hits' (by rwa [same, target]), same]
      exact later _ wounded
  · rw [playRound_miss .defender rest vitals rolls hits,
      playRound_miss .defender rest vitals' rolls (by rwa [same])]
    exact later _ presses

end Swings

/-- From sides of which the second presses the first, the same round on the same rolls leaves the
stronger attacker no worse off. -/
theorem noWorse_playRound (strengthens : first.Strengthens second) (only : DamageOnly first)
    (order : List Bool) :
    ∀ {vitals vitals' : Role → Vitals} (rolls : ρ), Vitals.Presses vitals vitals' →
      (playRound first order (.between vitals rolls)).outcome.NoWorse
        (playRound second order (.between vitals' rolls)).outcome := by
  induction order with
  | nil =>
      intro vitals vitals' rolls presses
      exact Outcome.noWorse_between presses rolls rolls false
  | cons mark rest ih =>
      intro vitals vitals' rolls presses
      rcases Role.exists_mark mark with ⟨role, rfl⟩
      cases role with
      | attacker => exact noWorse_attackerSwing strengthens only ih presses rolls
      | defender => exact noWorse_defenderSwing strengthens only ih presses rolls

/-- Where strikes do nothing but damage, an attacker that hits as often and as hard at least leaves
the defender no more hitpoints on the same rolls, and keeps no fewer of its own. -/
theorem play_of_strengthens (only : DamageOnly first) (strengthens : first.Strengthens second)
    (attacker defender : Vitals) (rolls : ρ) :
    (play second attacker defender rolls).1.defenderHitpoints ≤
        (play first attacker defender rolls).1.defenderHitpoints ∧
      (play first attacker defender rolls).1.attackerHitpoints ≤
        (play second attacker defender rolls).1.attackerHitpoints := by
  let vitals := Vitals.sides attacker defender
  have played : ∀ matchup : Matchup, (play matchup attacker defender rolls).1 =
      (playRound matchup matchup.schedule (.between vitals rolls)).outcome :=
    fun matchup => congrArg Bout.outcome (run_eq_playRound matchup vitals rolls)
  rw [played, played, strengthens.schedule]
  have unpressed : Vitals.Presses vitals vitals := ⟨rfl, Nat.le_refl _⟩
  have noWorse := noWorse_playRound strengthens only first.schedule rolls unpressed
  exact ⟨noWorse.defender, noWorse.attacker⟩

def scuffle (chanceToHit damage : Nat) : Matchup :=
  { attacker := { weapon := some 0, chanceToHit, damage, strikes := 2 }
    defender := { weapon := some 0, chanceToHit := 50, damage := 5, strikes := 1 }
    rounds := 2
    toTheDeath := true }

/-- The stronger attacker kills with its second strike, whereas the weaker one hits but once and is
hit again in the second round. -/
theorem play_of_strengthens_scuffle :
    let dice := ScriptedDice.ofArray #[45, 20, 10, 90, 30, 80]
    let weaker := (play (scuffle 40 6) ⟨20, 20⟩ ⟨14, 14⟩ dice).1
    let stronger := (play (scuffle 50 7) ⟨20, 20⟩ ⟨14, 14⟩ dice).1
    weaker.defenderHitpoints = 8 ∧ weaker.attackerHitpoints = 10 ∧
      stronger.defenderHitpoints ≤ 8 ∧ 10 ≤ stronger.attackerHitpoints := by
  intro dice weaker stronger
  have only : DamageOnly (scuffle 40 6) := by constructor <;> intro role <;> cases role <;> rfl
  have strengthens : (scuffle 40 6).Strengthens (scuffle 50 7) :=
    ⟨rfl, by decide, by decide⟩
  have defenderLeft : weaker.defenderHitpoints = 8 := by decide
  have attackerLeft : weaker.attackerHitpoints = 10 := by decide
  rcases play_of_strengthens only strengthens ⟨20, 20⟩ ⟨14, 14⟩ dice with ⟨defender, attacker⟩
  exact ⟨defenderLeft, attackerLeft, Nat.le_trans defender (Nat.le_of_eq defenderLeft),
    Nat.le_trans (Nat.le_of_eq attackerLeft.symm) attacker⟩

end Simulation
end Hexfield
