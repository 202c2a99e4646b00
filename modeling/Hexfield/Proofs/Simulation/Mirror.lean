import Hexfield.Proofs.Odds.Tail
import Hexfield.Proofs.Simulation.Course

namespace Hexfield

/-!
The mirror image of a simulated exchange.

Of a single round it does not matter which side is called the attacker: with the sides exchanged,
and with them the lead, the same rolls lead to the same ends with the sides exchanged.  So do any
number of exchanges that draw from one source.

The averages over them are not alike, though.  A side may drain more than it loses.  As a defender
it then counts as unhurt, but as an attacker it counts with negative damage.  Hence the average
damage to either side is the same in the mirror if, and only if, that side never ends above its
start.
-/

def Matchup.mirror (matchup : Matchup) : Matchup :=
  { matchup with
    attacker := matchup.defender
    defender := matchup.attacker
    defenderStrikesFirst := !matchup.defenderStrikesFirst }

namespace Matchup

@[simp] theorem mirror_mirror (matchup : Matchup) : matchup.mirror.mirror = matchup := by
  simp [mirror]

/-- The schedule of a single round is that of its mirror image with the marks exchanged. -/
theorem schedule_mirror {matchup : Matchup} (oneRound : matchup.rounds ≤ 1) :
    matchup.mirror.schedule = matchup.schedule.map (!·) := by
  have oneRound' : matchup.mirror.rounds ≤ 1 := oneRound
  rw [schedule_of_oneRound oneRound, schedule_of_oneRound oneRound', Schedule.map_not_round]
  rfl

end Matchup

namespace Simulation

/-! ## One exchange -/

variable {ρ : Type}

def Bout.mirror (bout : Bout ρ) : Bout ρ :=
  { bout with attacker := bout.defender, defender := bout.attacker }

def Outcome.mirror (outcome : Outcome) : Outcome :=
  { attackerHitpoints := outcome.defenderHitpoints
    defenderHitpoints := outcome.attackerHitpoints
    attackerPetrified := outcome.defenderPetrified
    defenderPetrified := outcome.attackerPetrified
    attackerSlowed := outcome.defenderSlowed
    defenderSlowed := outcome.attackerSlowed }

variable [RollSource ρ]

theorem swing_mirror (matchup : Matchup) (mark : Bool) (bout : Bout ρ) :
    swing matchup.mirror (!mark) bout.mirror = (swing matchup mark bout).mirror := by
  cases mark with
  | true =>
      by_cases hits : (RollSource.roll bout.rolls).1.val < matchup.attacker.chanceToHit
      · simp [swing, Matchup.mirror, Bout.mirror, hits]
      · simp [swing, Matchup.mirror, Bout.mirror, hits]
  | false =>
      by_cases hits : (RollSource.roll bout.rolls).1.val < matchup.defender.chanceToHit
      · simp [swing, Matchup.mirror, Bout.mirror, hits]
      · simp [swing, Matchup.mirror, Bout.mirror, hits]

theorem playRound_mirror (matchup : Matchup) (order : List Bool) :
    ∀ bout : Bout ρ, playRound matchup.mirror (order.map (!·)) bout.mirror =
      (playRound matchup order bout).mirror := by
  induction order with
  | nil =>
      intro bout
      rfl
  | cons mark rest ih =>
      intro bout
      have decided : (swing matchup mark bout).mirror.decided =
        (swing matchup mark bout).decided := rfl
      rw [List.map_cons, playRound, playRound, swing_mirror, decided]
      split
      · rfl
      · exact ih _

/-- The mirror image of an exchange of one round comes to the mirrored end, and draws the same
rolls. -/
theorem play_mirror {matchup : Matchup} (oneRound : matchup.rounds ≤ 1) (attacker defender : Vitals)
    (rolls : ρ) :
    play matchup.mirror defender attacker rolls =
      ((play matchup attacker defender rolls).1.mirror,
        (play matchup attacker defender rolls).2) := by
  let bout : Bout ρ := .between (Vitals.sides attacker defender) rolls
  have run : run matchup attacker defender rolls = playRound matchup matchup.schedule bout :=
    run_eq_playRound matchup (Vitals.sides attacker defender) rolls
  have mirrored : Simulation.run matchup.mirror defender attacker rolls =
      (playRound matchup matchup.schedule bout).mirror := by
    rw [← playRound_mirror, ← Matchup.schedule_mirror oneRound]
    exact run_eq_playRound matchup.mirror (Vitals.sides defender attacker) rolls
  rw [play, play, run, mirrored]
  rfl

/-! ## Exchanges from one source -/

/-- The ends of a number of exchanges that draw from one source. -/
def outcomes (matchup : Matchup) (attacker defender : Vitals) : ℕ → ρ → List Outcome
  | 0, _ => []
  | trials + 1, rolls =>
      (play matchup attacker defender rolls).1 ::
        outcomes matchup attacker defender trials (play matchup attacker defender rolls).2

theorem outcomes_mirror {matchup : Matchup} (oneRound : matchup.rounds ≤ 1)
    (attacker defender : Vitals) (trials : ℕ) :
    ∀ rolls : ρ, outcomes matchup.mirror defender attacker trials rolls =
      (outcomes matchup attacker defender trials rolls).map Outcome.mirror := by
  induction trials with
  | zero =>
      intro rolls
      rfl
  | succ trials ih =>
      intro rolls
      rw [outcomes, play_mirror oneRound, ih]
      rfl

/-- The sums grow by what the ends of the exchanges add to them. -/
theorem accumulate_eq_foldl {α : Type} [Scalar α] (matchup : Matchup) (attacker defender : Vitals)
    (trials : ℕ) :
    ∀ (summary : Summary α) (rolls : ρ),
      (accumulate matchup attacker defender trials summary rolls).1 =
        (outcomes matchup attacker defender trials rolls).foldl (Summary.add attacker defender)
          summary := by
  induction trials with
  | zero =>
      intro summary rolls
      rfl
  | succ trials ih =>
      intro summary rolls
      exact ih _ _

/-! ## Averages -/

/-- The damage that an end counts for the defender: none if it ends above its start. -/
def Outcome.damageToDefender (defender : Vitals) (outcome : Outcome) : ℚ :=
  (defender.hitpoints - outcome.defenderHitpoints : ℕ)

/-- The damage that an end counts for the attacker: negative if it ends above its start. -/
def Outcome.damageToAttacker (attacker : Vitals) (outcome : Outcome) : ℚ :=
  attacker.hitpoints - outcome.attackerHitpoints

/-- By how much the attacker ends above its start. -/
def Outcome.attackerGain (attacker : Vitals) (outcome : Outcome) : ℕ :=
  outcome.attackerHitpoints - attacker.hitpoints

/-- What the mirror does not count as negative damage is the gain. -/
theorem Outcome.damageToDefender_mirror (attacker : Vitals) (outcome : Outcome) :
    outcome.mirror.damageToDefender attacker =
      outcome.damageToAttacker attacker + outcome.attackerGain attacker := by
  have whole : (attacker.hitpoints - outcome.attackerHitpoints : ℕ) + outcome.attackerHitpoints =
      attacker.hitpoints + outcome.attackerGain attacker := by
    unfold attackerGain
    omega
  have cast : ((attacker.hitpoints - outcome.attackerHitpoints : ℕ) : ℚ) +
      outcome.attackerHitpoints = attacker.hitpoints + outcome.attackerGain attacker := by
    exact_mod_cast whole
  simp only [damageToDefender, damageToAttacker, mirror]
  linarith

theorem Summary.add_rat (attacker defender : Vitals) (summary : Summary ℚ) (outcome : Outcome) :
    summary.add attacker defender outcome =
      { trials := summary.trials
        defenderKilled := summary.defenderKilled + outcome.defenderDied.toNat
        attackerKilled := summary.attackerKilled + outcome.attackerDied.toNat
        averageDamageToDefender :=
          summary.averageDamageToDefender + outcome.damageToDefender defender
        averageDamageToAttacker :=
          summary.averageDamageToAttacker + outcome.damageToAttacker attacker } := by
  have count : ∀ (kills : ℚ) (died : Bool),
      (if died = true then
        kills + @OfScientific.ofScientific ℚ Scalar.toOfScientific 10 true 1 else kills) =
        kills + died.toNat := by
    intro kills died
    cases died with
    | true => simp [Scalar.rat_one]
    | false => simp
  rw [← count, ← count]
  rfl

theorem foldl_add (attacker defender : Vitals) (ends : List Outcome) :
    ∀ summary : Summary ℚ, ends.foldl (Summary.add attacker defender) summary =
      { trials := summary.trials
        defenderKilled := summary.defenderKilled + ends.countP Outcome.defenderDied
        attackerKilled := summary.attackerKilled + ends.countP Outcome.attackerDied
        averageDamageToDefender :=
          summary.averageDamageToDefender + (ends.map (Outcome.damageToDefender defender)).sum
        averageDamageToAttacker :=
          summary.averageDamageToAttacker +
            (ends.map (Outcome.damageToAttacker attacker)).sum } := by
  have counted : ∀ (died : Outcome → Bool) (outcome : Outcome) (rest : List Outcome),
      ((outcome :: rest).countP died : ℚ) = (died outcome).toNat + rest.countP died := by
    intro died outcome rest
    cases dead : died outcome with
    | true => simp [dead, add_comm]
    | false => simp [dead]
  induction ends with
  | nil =>
      intro summary
      simp
  | cons outcome rest ih =>
      intro summary
      rw [List.foldl_cons, ih, Summary.add_rat]
      simp only [counted, List.map_cons, List.sum_cons, add_assoc]

/-- Over the rational numbers the averages are the counts and the sums over the ends, divided by
their number. -/
theorem runTrials_rat (matchup : Matchup) (attacker defender : Vitals) (trials : ℕ) (rolls : ρ) :
    let ends := outcomes matchup attacker defender trials rolls
    (runTrials matchup attacker defender trials rolls).1 =
      ({ trials
         defenderKilled := ends.countP Outcome.defenderDied / trials
         attackerKilled := ends.countP Outcome.attackerDied / trials
         averageDamageToDefender := (ends.map (Outcome.damageToDefender defender)).sum / trials
         averageDamageToAttacker := (ends.map (Outcome.damageToAttacker attacker)).sum / trials } :
        Summary ℚ) := by
  intro ends
  by_cases none : trials = 0
  · subst none
    rw [runTrials, if_pos rfl]
    simp [ends, outcomes, Scalar.rat_zero]
  · rw [runTrials, if_neg none]
    simp only [accumulate_eq_foldl, foldl_add, Scalar.rat_zero, zero_add]
    rfl

/-! ## The averages in the mirror -/

/-- The mirror counts more damage to the side that was the attacker, by what this side gained. -/
theorem averageDamage_mirror {matchup : Matchup} (oneRound : matchup.rounds ≤ 1)
    (attacker defender : Vitals) (trials : ℕ) (rolls : ρ) :
    let first : Summary ℚ := (runTrials matchup attacker defender trials rolls).1
    let second : Summary ℚ := (runTrials matchup.mirror defender attacker trials rolls).1
    let ends := outcomes matchup attacker defender trials rolls
    second.averageDamageToDefender =
      first.averageDamageToAttacker +
        ((ends.map (Outcome.attackerGain attacker)).sum : ℕ) / trials := by
  intro first second ends
  have gains : ∀ ends : List Outcome,
      ((ends.map Outcome.mirror).map (Outcome.damageToDefender attacker)).sum =
        (ends.map (Outcome.damageToAttacker attacker)).sum +
          ((ends.map (Outcome.attackerGain attacker)).sum : ℕ) := by
    intro ends
    have each : Outcome.damageToDefender attacker ∘ Outcome.mirror = fun outcome =>
        outcome.damageToAttacker attacker + (outcome.attackerGain attacker : ℚ) :=
      funext (Outcome.damageToDefender_mirror attacker)
    rw [List.map_map, each, List.sum_map_add, Nat.cast_list_sum, List.map_map]
    rfl
  simp only [first, second, runTrials_rat, outcomes_mirror oneRound, gains, add_div, ends]

theorem length_outcomes (matchup : Matchup) (attacker defender : Vitals) (trials : ℕ) :
    ∀ rolls : ρ, (outcomes matchup attacker defender trials rolls).length = trials := by
  induction trials with
  | zero =>
      intro rolls
      rfl
  | succ trials ih =>
      intro rolls
      rw [outcomes, List.length_cons, ih]

/-- The average damage to the side that was the attacker is the same in the mirror if, and only if,
it never ends above its start. -/
theorem averageDamage_mirror_iff {matchup : Matchup} (oneRound : matchup.rounds ≤ 1)
    (attacker defender : Vitals) (trials : ℕ) (rolls : ρ) :
    let first : Summary ℚ := (runTrials matchup attacker defender trials rolls).1
    let second : Summary ℚ := (runTrials matchup.mirror defender attacker trials rolls).1
    second.averageDamageToDefender = first.averageDamageToAttacker ↔
      ∀ outcome ∈ outcomes matchup attacker defender trials rolls,
        outcome.attackerHitpoints ≤ attacker.hitpoints := by
  intro first second
  have averaged : ∀ ends : List Outcome, ends.length = trials →
      (((ends.map (Outcome.attackerGain attacker)).sum : ℕ) / trials = (0 : ℚ) ↔
        (ends.map (Outcome.attackerGain attacker)).sum = 0) := by
    intro ends counted
    rw [div_eq_zero_iff, Nat.cast_eq_zero, Nat.cast_eq_zero]
    constructor
    · rintro (sum | none)
      · exact sum
      · rw [List.eq_nil_of_length_eq_zero (counted.trans none)]
        rfl
    · exact Or.inl
  have gained := averageDamage_mirror oneRound attacker defender trials rolls
  simp only [first, second]
  rw [gained, add_eq_left, averaged _ (length_outcomes ..), List.sum_eq_zero_iff,
    List.forall_mem_map]
  apply forall₂_congr
  intro outcome _
  exact Nat.sub_eq_zero_iff_le

/-- Exchanges of one round treat both sides alike, but for the averages of damage.  With the sides
and the lead exchanged, the same rolls give as many trials, and the shares of the killed are
exchanged.  The average damage to either side stays the same just if this side ends no trial above
its start. -/
theorem runTrials_mirror {matchup : Matchup} (oneRound : matchup.rounds ≤ 1)
    (attacker defender : Vitals) (trials : ℕ) (rolls : ρ) :
    let first : Summary ℚ := (runTrials matchup attacker defender trials rolls).1
    let second : Summary ℚ := (runTrials matchup.mirror defender attacker trials rolls).1
    let ends := outcomes matchup attacker defender trials rolls
    second.trials = first.trials ∧
      second.defenderKilled = first.attackerKilled ∧
      second.attackerKilled = first.defenderKilled ∧
      (second.averageDamageToDefender = first.averageDamageToAttacker ↔
        ∀ outcome ∈ ends, outcome.attackerHitpoints ≤ attacker.hitpoints) ∧
      (second.averageDamageToAttacker = first.averageDamageToDefender ↔
        ∀ outcome ∈ ends, outcome.defenderHitpoints ≤ defender.hitpoints) := by
  intro first second ends
  have oneRound' : matchup.mirror.rounds ≤ 1 := oneRound
  have toDefender : second.averageDamageToAttacker = first.averageDamageToDefender ↔
      ∀ outcome ∈ ends, outcome.defenderHitpoints ≤ defender.hitpoints := by
    -- The first exchange is the mirror image of the second, with the defender as its attacker.
    have back := averageDamage_mirror_iff oneRound' defender attacker trials rolls
    simp only at back
    rw [Matchup.mirror_mirror, outcomes_mirror oneRound, List.forall_mem_map] at back
    exact eq_comm.trans back
  refine ⟨?_, ?_, ?_, averageDamage_mirror_iff oneRound attacker defender trials rolls,
    toDefender⟩
  · simp only [first, second, runTrials_rat]
  · simp only [first, second, runTrials_rat, outcomes_mirror oneRound, List.countP_map]
    rfl
  · simp only [first, second, runTrials_rat, outcomes_mirror oneRound, List.countP_map]
    rfl

/-- One strike of a side that drains, at a side that cannot strike. -/
def leech : Matchup :=
  { attacker := { weapon := some 0, chanceToHit := 100, damage := 4, strikes := 1, drains := true }
    rounds := 1 }

theorem runTrials_mirror_leech :
    let dice := ScriptedDice.ofArray #[0]
    let first : Summary ℚ := (runTrials leech ⟨10, 10⟩ ⟨10, 10⟩ 1 dice).1
    let second : Summary ℚ := (runTrials leech.mirror ⟨10, 10⟩ ⟨10, 10⟩ 1 dice).1
    second.averageDamageToDefender = first.averageDamageToAttacker ∧
      second.averageDamageToAttacker = first.averageDamageToDefender := by
  intro dice first second
  have oneRound : leech.rounds ≤ 1 := by decide
  rcases runTrials_mirror oneRound ⟨10, 10⟩ ⟨10, 10⟩ 1 dice with ⟨-, -, -, toAttacker, toDefender⟩
  exact ⟨toAttacker.mpr (by decide), toDefender.mpr (by decide)⟩

/-- An attacker that drains two hitpoints counts with a negative damage of two; as a defender it
counts as unhurt. -/
theorem averageDamage_mirror_ne_leech :
    let dice := ScriptedDice.ofArray #[0]
    let first : Summary ℚ := (runTrials leech ⟨5, 10⟩ ⟨10, 10⟩ 1 dice).1
    let second : Summary ℚ := (runTrials leech.mirror ⟨10, 10⟩ ⟨5, 10⟩ 1 dice).1
    first.averageDamageToAttacker = -2 ∧ second.averageDamageToDefender = 0 ∧
      second.averageDamageToDefender ≠ first.averageDamageToAttacker := by
  intro dice first second
  have drained : outcomes leech ⟨5, 10⟩ ⟨10, 10⟩ 1 dice = [⟨7, 6, false, false, false, false⟩] := by
    decide
  have drained' : outcomes leech.mirror ⟨10, 10⟩ ⟨5, 10⟩ 1 dice =
      [⟨6, 7, false, false, false, false⟩] := by
    decide
  have toAttacker : first.averageDamageToAttacker = -2 := by
    simp only [first, runTrials_rat, drained]
    norm_num [Outcome.damageToAttacker]
  have toDefender : second.averageDamageToDefender = 0 := by
    simp only [second, runTrials_rat, drained']
    norm_num [Outcome.damageToDefender]
  refine ⟨toAttacker, toDefender, ?_⟩
  rw [toAttacker, toDefender]
  norm_num

end Simulation
end Hexfield
