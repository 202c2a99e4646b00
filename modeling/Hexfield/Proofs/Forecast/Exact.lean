import Hexfield.Forecast
import Hexfield.Proofs.Odds.Law
import Hexfield.Proofs.Simulation.Course

namespace Hexfield

/-!
The forecast of a round is the share of the rolls.

Of all lists of rolls that a round may draw, those on which a simulated exchange ends in a death
are counted by the first roll: it hits on as many faces as the chance has percent, and what follows
is counted by induction.  The count obeys the recursion of the round, and so do the closed formulas
of the forecast; hence over the rational numbers the forecast is exactly the share of these lists
among all.  This holds as long as the exponents of the formulas are read as they are meant, which
the last theorem expresses by the counts of strikes.
-/

/-! ## Counting rolls -/

theorem sum_rolls_succ {n : ℕ} (f : (Fin (n + 1) → Roll) → ℚ) :
    ∑ rolls, f rolls = ∑ roll : Roll, ∑ rolls : Fin n → Roll, f (Fin.cons roll rolls) := by
  rw [← Equiv.sum_comp (Fin.consEquiv fun _ => Roll) f, Fintype.sum_prod_type]
  rfl

theorem card_rolls (n : ℕ) : (Finset.univ : Finset (Fin n → Roll)).card = 100 ^ n := by
  rw [Finset.card_univ, Fintype.card_fun, Fintype.card_fin, Fintype.card_fin]

/-- A chance in percent is the number of faces that hit. -/
theorem sum_hits {chance : ℕ} (fair : chance ≤ 100) (hit miss : ℚ) :
    ∑ roll : Roll, (if roll.val < chance then hit else miss) =
      chance * hit + (100 - chance) * miss := by
  have hits : (Finset.univ.filter fun roll : Roll => roll.val < chance).card = chance := by
    rw [Fin.card_filter_val_lt, Nat.min_eq_right fair]
  have misses : (Finset.univ.filter fun roll : Roll => ¬ roll.val < chance).card =
      100 - chance := by
    have whole := Finset.card_filter_add_card_filter_not
      (s := (Finset.univ : Finset Roll)) (fun roll : Roll => roll.val < chance)
    rw [hits] at whole
    have faces : (Finset.univ : Finset Roll).card = 100 := Finset.card_fin 100
    omega
  rw [Finset.sum_ite, Finset.sum_const, Finset.sum_const, hits, misses, nsmul_eq_mul, nsmul_eq_mul,
    Nat.cast_sub fair]
  norm_num

namespace Simulation

/-- Strikes that do nothing but damage, and hit with a chance of at most a hundred percent. -/
structure Plain (matchup : Matchup) : Prop where
  drains : ∀ role, (matchup.profileOf role).drains = false
  slows : ∀ role, (matchup.profileOf role).slows = false
  petrifies : ∀ role, (matchup.profileOf role).petrifies = false
  fair : ∀ role, (matchup.profileOf role).chanceToHit ≤ 100

theorem Plain.damageOnly {matchup : Matchup} (plain : Plain matchup) : DamageOnly matchup :=
  ⟨plain.drains, plain.slows, plain.petrifies⟩

/-- One if the opponent of a part has fallen, and zero otherwise. -/
def fallen {ρ : Type} (role : Role) (bout : Bout ρ) : ℚ :=
  if (bout.fighter role.other).hitpoints = 0 then 1 else 0

theorem fallen_alive {role : Role} {vitals : Role → Vitals}
    (alive : 0 < (vitals role.other).hitpoints) {ρ : Type} (rolls : ρ) :
    fallen role (.between vitals rolls) = 0 := by
  apply if_neg
  cases role with
  | attacker => exact Nat.ne_of_gt alive
  | defender => exact Nat.ne_of_gt alive

/-- The first swing of a round ends it, or leaves the rest of it with what is left of both sides. -/
theorem fallen_playRound_cons {matchup : Matchup} (only : DamageOnly matchup) (role part : Role)
    (rest : List Bool) {vitals : Role → Vitals} (alive : ∀ part, 0 < (vitals part).hitpoints)
    (roll : Roll) (rolls : List Roll) :
    fallen role (playRound matchup (part.mark :: rest) (.between vitals (roll :: rolls))) =
      if roll.val < (matchup.profileOf part).chanceToHit then
        if (vitals part.other).hitpoints - (matchup.profileOf part).damage = 0 then
          if part = role then 1 else 0
        else
          fallen role (playRound matchup rest
            (.between (Vitals.afterHit vitals part (matchup.profileOf part)
              (matchup.profileOf part).damage) rolls))
      else fallen role (playRound matchup rest (.between vitals rolls)) := by
  rcases only.hitpoints_afterHit part vitals with ⟨kept, left⟩
  by_cases hits : roll.val < (matchup.profileOf part).chanceToHit
  · by_cases lethal : (vitals part.other).hitpoints - (matchup.profileOf part).damage = 0
    · rw [if_pos hits, if_pos lethal, only.playRound_kill part rest vitals (roll :: rolls) hits
        (Nat.sub_eq_zero_iff_le.mp lethal), fallen, Bout.fighter_decided, Bout.fighter_between]
      rcases Role.eq_or_eq_other part role with rfl | rfl
      · rw [if_pos rfl]
        exact if_pos (left.trans lethal)
      · have survives := Nat.ne_of_gt (alive part)
        rw [← kept] at survives
        rw [if_neg (Ne.symm part.other_ne), Role.other_other]
        exact if_neg survives
    · rw [if_pos hits, if_neg lethal, only.playRound_wound part rest vitals (roll :: rolls) hits
        (fun enough => lethal (Nat.sub_eq_zero_of_le enough))]
      rfl
  · rw [if_neg hits, playRound_miss part rest vitals (roll :: rolls) hits]
    rfl

/-- The rolls on which one side kills the other are as many as the recursion of the round says. -/
theorem sum_fallen {matchup : Matchup} (plain : Plain matchup) (role : Role)
    (strikers : Role → Odds.Striker ℚ)
    (damages : ∀ part, (strikers part).damage = (matchup.profileOf part).damage)
    (chances : ∀ part, (strikers part).chance = (matchup.profileOf part).chanceToHit / 100)
    (order : List Bool) :
    ∀ vitals : Role → Vitals, (∀ part, 0 < (vitals part).hitpoints) →
      ∑ rolls : Fin order.length → Roll,
          fallen role (playRound matchup order (.between vitals (List.ofFn rolls))) =
        100 ^ order.length *
          Odds.kills (strikers role) (strikers role.other) (order.map (· == role.mark))
            (vitals role).hitpoints (vitals role.other).hitpoints := by
  induction order with
  | nil =>
      intro vitals alive
      simp only [playRound, List.map_nil, Odds.kills, mul_zero]
      apply Finset.sum_eq_zero
      intro rolls _
      exact fallen_alive (alive role.other) _
  | cons mark rest ih =>
      intro vitals alive
      rcases Role.exists_mark mark with ⟨part, rfl⟩
      let left := Vitals.afterHit vitals part (matchup.profileOf part)
        (matchup.profileOf part).damage
      rcases plain.damageOnly.hitpoints_afterHit part vitals with ⟨kept, lost⟩
      let share (vitals : Role → Vitals) : ℚ :=
        Odds.kills (strikers role) (strikers role.other) (rest.map (· == role.mark))
          (vitals role).hitpoints (vitals role.other).hitpoints
      let hitShare : ℚ :=
        if (vitals part.other).hitpoints - (matchup.profileOf part).damage = 0 then
          if part = role then 1 else 0
        else share left
      have branches : ∀ roll : Roll, ∑ rolls : Fin rest.length → Roll,
          fallen role (playRound matchup (part.mark :: rest)
            (.between vitals (List.ofFn (Fin.cons roll rolls)))) =
          if roll.val < (matchup.profileOf part).chanceToHit then 100 ^ rest.length * hitShare
          else 100 ^ rest.length * share vitals := by
        intro roll
        have listed : ∀ rolls : Fin rest.length → Roll,
            List.ofFn (Fin.cons roll rolls : Fin (rest.length + 1) → Roll) =
              roll :: List.ofFn rolls := by
          intro rolls
          rw [List.ofFn_succ]
          rfl
        simp only [listed, fallen_playRound_cons plain.damageOnly role part rest alive roll]
        by_cases hit : roll.val < (matchup.profileOf part).chanceToHit
        · simp only [if_pos hit]
          by_cases lethal : (vitals part.other).hitpoints - (matchup.profileOf part).damage = 0
          · simp only [hitShare, if_pos lethal]
            rw [Finset.sum_const, card_rolls, nsmul_eq_mul, Nat.cast_pow]
            rfl
          · simp only [hitShare, if_neg lethal]
            apply ih left
            intro side
            rcases Role.eq_or_eq_other part side with rfl | rfl
            · exact kept ▸ alive side
            · exact lost ▸ Nat.pos_of_ne_zero lethal
        · simp only [if_neg hit]
          exact ih vitals alive
      have whole : (100 : ℚ) ^ (rest.length + 1) = 100 ^ rest.length * 100 := pow_succ _ _
      rw [List.length_cons, sum_rolls_succ, Finset.sum_congr rfl fun roll _ => branches roll,
        sum_hits (plain.fair part), whole]
      have own : (strikers part).chance * 100 = (matchup.profileOf part).chanceToHit := by
        rw [chances part]
        ring
      rcases Role.eq_or_eq_other part role with rfl | rfl
      · have marked : ((role.mark :: rest).map (· == role.mark)) =
            true :: rest.map (· == role.mark) := by
          rw [List.map_cons, beq_self_eq_true]
        rw [marked, Odds.kills, damages, ← own]
        simp only [hitShare, share, if_true]
        rw [kept, lost]
        ring
      · have marked : ((part.mark :: rest).map (· == part.other.mark)) =
            false :: rest.map (· == part.other.mark) := by
          cases part <;> rfl
        rw [marked, Odds.kills, Role.other_other, damages, ← own]
        simp only [hitShare, share, if_neg (Ne.symm part.other_ne), Role.other_other]
        rw [kept, lost]
        ring

end Simulation

/-- A profile of nothing but a chance, a damage and a number of strikes. -/
def StrikeProfile.plain (chanceToHit damage strikes : ℕ) : StrikeProfile :=
  { weapon := some 0, chanceToHit, damage, strikes }

theorem Simulation.plain_of_profiles {chance chance' : ℕ} (fair : chance ≤ 100)
    (fair' : chance' ≤ 100) (damage strikes damage' strikes' : ℕ) :
    Simulation.Plain
      { attacker := .plain chance damage strikes
        defender := .plain chance' damage' strikes' } := by
  constructor
  · intro role
    cases role <;> rfl
  · intro role
    cases role <;> rfl
  · intro role
    cases role <;> rfl
  · intro role
    cases role with
    | attacker => exact fair
    | defender => exact fair'

/-! ## The forecast -/

namespace Forecast

/-- The chance of a kill is a sum over the swings of the striker, when the formula of a swing reads
nothing but the swings of both sides until then. -/
theorem killChance_eq_swingSum {first second : Odds.Striker ℚ} {firstLeads : Bool}
    (own foe : ℕ → ℚ)
    (swings : ∀ n, Odds.killDuringSwing first second firstLeads n =
      if (Schedule.round first.strikes second.strikes firstLeads)[n]? = some true then
        own (((Schedule.round first.strikes second.strikes firstLeads).take (n + 1)).count true) *
          foe (((Schedule.round first.strikes second.strikes firstLeads).take n).count false)
      else 0) :
    (killChance first second firstLeads : ℚ) =
      Odds.swingSum (Schedule.round first.strikes second.strikes firstLeads) own foe := by
  rw [killChance, Scalar.sum_rat, ← Odds.sum_range_eq_swingSum, Schedule.length_round]
  change ∑ n ∈ Finset.range _, Odds.killDuringSwing first second firstLeads n = _
  exact Finset.sum_congr rfl fun n _ => swings n

/-- The closed formula of the forecast is the recursion of the round. -/
theorem killChance_rat {first second : Odds.Striker ℚ} (nonneg : 0 ≤ second.chance)
    (le_one : second.chance ≤ 1) (firstSmall : 2 * first.strikes ≤ UInt32.size)
    (short : first.strikes + second.strikes < UInt32.size) (firstAlive : 0 < first.hitpoints)
    (secondAlive : 0 < second.hitpoints) (firstFits : 2 * first.hitpoints < UInt32.size)
    (secondFits : 2 * second.hitpoints < UInt32.size) (firstLeads : Bool) :
    (killChance first second firstLeads : ℚ) =
      Odds.kills first second (Schedule.round first.strikes second.strikes firstLeads)
        first.hitpoints second.hitpoints := by
  rw [Odds.kills_eq_swingSum _ _ _ firstAlive secondAlive]
  exact killChance_eq_swingSum _ _ (Odds.killDuringSwing_rat nonneg le_one firstSmall short
    firstAlive secondAlive firstFits secondFits firstLeads)

end Forecast

namespace Simulation

/-- The outcome of a simulated exchange that draws these rolls. -/
def outcomeOn (matchup : Matchup) (attacker defender : Vitals) {n : ℕ}
    (rolls : Fin n → Roll) : Outcome :=
  (play matchup attacker defender (ScriptedDice.ofRolls (List.ofFn rolls))).1

variable {matchup : Matchup} {attacker defender : Vitals}

/-- The sides at the end of a simulated exchange that draws enough rolls. -/
theorem outcomeOn_eq_outcome {n : ℕ} (enough : matchup.schedule.length = n)
    (rolls : Fin n → Roll) :
    outcomeOn matchup attacker defender rolls =
      (playRound matchup matchup.schedule
        (.between (Vitals.sides attacker defender) (List.ofFn rolls))).outcome := by
  have length : matchup.schedule.length = (List.ofFn rolls).length := by
    rw [enough, List.length_ofFn]
  have start : Bout.SameSides
      (Bout.between (Vitals.sides attacker defender) (List.ofFn rolls))
      (Bout.between (Vitals.sides attacker defender) (ScriptedDice.ofRolls (List.ofFn rolls))) :=
    ⟨rfl, rfl, rfl⟩
  have final := start.playRound matchup matchup.schedule (by
    rw [length]
    exact (ScriptedDice.take_ofRolls _).trans (RollSource.take_list _).symm)
  have played := run_eq_playRound matchup (Vitals.sides attacker defender)
    (ScriptedDice.ofRolls (List.ofFn rolls))
  simp only [Vitals.sides] at played
  simp only [outcomeOn, play, played, Bout.outcome, final.attacker, final.defender]

/-- The share of the rolls on which a part fells its opponent. -/
theorem share_eq_kills (plain : Plain matchup)
    (attackerAlive : 0 < attacker.hitpoints) (defenderAlive : 0 < defender.hitpoints)
    (role : Role) (strikers : Role → Odds.Striker ℚ)
    (damages : ∀ part, (strikers part).damage = (matchup.profileOf part).damage)
    (chances : ∀ part, (strikers part).chance = (matchup.profileOf part).chanceToHit / 100)
    {n : ℕ} (enough : matchup.schedule.length = n) :
    (∑ rolls : Fin n → Roll,
        fallen role (playRound matchup matchup.schedule
          (.between (Vitals.sides attacker defender) (List.ofFn rolls)))) / 100 ^ n =
      Odds.kills (strikers role) (strikers role.other)
        (matchup.schedule.map (· == role.mark))
        (Vitals.sides attacker defender role).hitpoints
        (Vitals.sides attacker defender role.other).hitpoints := by
  subst enough
  have alive : ∀ part, 0 < (Vitals.sides attacker defender part).hitpoints := by
    intro part
    cases part with
    | attacker => exact attackerAlive
    | defender => exact defenderAlive
  rw [sum_fallen plain role strikers damages chances matchup.schedule _ alive,
    mul_div_cancel_left₀]
  exact pow_ne_zero _ (by norm_num)

end Simulation

namespace Forecast

variable {matchup : Matchup} {attacker defender : Vitals}

/-- A forecast over the rational numbers that is exact: it gives each side the share of the lists of
rolls on which a simulated exchange leaves the other side without hitpoints, and what is left of
certainty to the survival of both. -/
structure Exact (matchup : Matchup) (attacker defender : Vitals) : Prop where
  attackerKills :
    (ofMatchup matchup attacker.hitpoints defender.hitpoints : Forecast ℚ).attackerKills =
      (Finset.univ.filter fun rolls : Fin (matchup.attacker.strikes + matchup.defender.strikes) →
          Roll =>
        (Simulation.outcomeOn matchup attacker defender rolls).defenderHitpoints = 0).card /
        100 ^ (matchup.attacker.strikes + matchup.defender.strikes)
  defenderKills :
    (ofMatchup matchup attacker.hitpoints defender.hitpoints : Forecast ℚ).defenderKills =
      (Finset.univ.filter fun rolls : Fin (matchup.attacker.strikes + matchup.defender.strikes) →
          Roll =>
        (Simulation.outcomeOn matchup attacker defender rolls).attackerHitpoints = 0).card /
        100 ^ (matchup.attacker.strikes + matchup.defender.strikes)
  certain :
    (ofMatchup matchup attacker.hitpoints defender.hitpoints : Forecast ℚ).attackerKills +
        (ofMatchup matchup attacker.hitpoints defender.hitpoints : Forecast ℚ).defenderKills +
        (ofMatchup matchup attacker.hitpoints defender.hitpoints : Forecast ℚ).bothSurvive = 1

/-- Up to the largest count of strikes whose misses before the last one fit in a word with a sign,
the forecast of a single round of plain strikes is exact. -/
theorem exact_of_strikes_le (plain : Simulation.Plain matchup) (oneRound : matchup.rounds ≤ 1)
    (attackerAlive : 0 < attacker.hitpoints) (attackerFits : attacker.hitpoints < 2 ^ 31)
    (defenderAlive : 0 < defender.hitpoints) (defenderFits : defender.hitpoints < 2 ^ 31)
    (short : matchup.attacker.strikes + matchup.defender.strikes < UInt32.size)
    (attackerSmall : matchup.attacker.strikes ≤ 2 ^ 31)
    (defenderSmall : matchup.defender.strikes ≤ 2 ^ 31) :
    Exact matchup attacker defender := by
  let forecast : Forecast ℚ := ofMatchup matchup attacker.hitpoints defender.hitpoints
  have doubled : ∀ {count : ℕ}, count < 2 ^ 31 → 2 * count < UInt32.size := by
    intro count small
    simp only [UInt32.size]
    omega
  have doubledStrikes : ∀ {count : ℕ}, count ≤ 2 ^ 31 → 2 * count ≤ UInt32.size := by
    intro count small
    simp only [UInt32.size]
    omega
  have order := Matchup.schedule_of_oneRound oneRound
  have length : matchup.schedule.length =
      matchup.attacker.strikes + matchup.defender.strikes := by
    rw [order, Schedule.length_round]
  let strikers : Role → Odds.Striker ℚ := fun role =>
    striker (matchup.profileOf role) (Vitals.sides attacker defender role).hitpoints
  have chances : ∀ part,
      (strikers part).chance = (matchup.profileOf part).chanceToHit / 100 :=
    fun part => Scalar.percent_rat _
  have nonneg : ∀ part, 0 ≤ (strikers part).chance := by
    intro part
    rw [chances]
    positivity
  have le_one : ∀ part, (strikers part).chance ≤ 1 := by
    intro part
    have fair : ((matchup.profileOf part).chanceToHit : ℚ) ≤ 100 := by
      exact_mod_cast plain.fair part
    rw [chances]
    linarith
  have attackerKills : forecast.attackerKills =
      Odds.kills (strikers .attacker) (strikers .defender) matchup.schedule attacker.hitpoints
        defender.hitpoints := by
    rw [order]
    exact killChance_rat (nonneg .defender) (le_one .defender) (doubledStrikes attackerSmall)
      short attackerAlive defenderAlive (doubled attackerFits) (doubled defenderFits) _
  have defenderKills : forecast.defenderKills =
      Odds.kills (strikers .defender) (strikers .attacker) (matchup.schedule.map (!·))
        defender.hitpoints attacker.hitpoints := by
    rw [order, Schedule.map_not_round]
    rw [Nat.add_comm] at short
    exact killChance_rat (nonneg .attacker) (le_one .attacker) (doubledStrikes defenderSmall)
      short defenderAlive attackerAlive (doubled defenderFits) (doubled attackerFits) _
  have attackerMarks : matchup.schedule.map (· == Role.attacker.mark) = matchup.schedule := by
    simp [Role.mark]
  have defenderMarks : matchup.schedule.map (· == Role.defender.mark) =
      matchup.schedule.map (!·) := by
    simp [Role.mark]
  have attackerShare := Simulation.share_eq_kills plain attackerAlive defenderAlive
    .attacker strikers (fun _ => rfl) chances length
  have defenderShare := Simulation.share_eq_kills plain attackerAlive defenderAlive
    .defender strikers (fun _ => rfl) chances length
  rw [attackerMarks] at attackerShare
  rw [defenderMarks] at defenderShare
  constructor
  · change forecast.attackerKills = _
    rw [attackerKills, Finset.natCast_card_filter]
    simp only [Simulation.outcomeOn_eq_outcome length]
    exact attackerShare.symm
  · change forecast.defenderKills = _
    rw [defenderKills, Finset.natCast_card_filter]
    simp only [Simulation.outcomeOn_eq_outcome length]
    exact defenderShare.symm
  · have disjoint := Odds.kills_add_kills_le_one (nonneg .attacker) (le_one .attacker)
      (nonneg .defender) (le_one .defender) matchup.schedule attacker.hitpoints
      defender.hitpoints
    have rest : forecast.bothSurvive =
        max (1 - forecast.attackerKills - forecast.defenderKills) 0 := by
      change Scalar.larger (_ - forecast.attackerKills - forecast.defenderKills) _ = _
      rw [Scalar.rat_one, Scalar.rat_zero]
      exact Scalar.larger_rat _ _
    change forecast.attackerKills + forecast.defenderKills + forecast.bothSurvive = 1
    rw [rest, attackerKills, defenderKills, max_eq_left (by linarith)]
    ring

theorem share_le_one {n : ℕ} (p : (Fin n → Roll) → Prop) [DecidablePred p] :
    ((Finset.univ.filter p).card : ℚ) / 100 ^ n ≤ 1 := by
  have part : (Finset.univ.filter p).card ≤ 100 ^ n := by
    rw [← card_rolls]
    exact Finset.card_filter_le _ _
  rw [div_le_one (pow_pos (by norm_num) _)]
  exact_mod_cast part

/-- A striker that needs one hit, and has more strikes than a word with a sign can count, is given
a chance of two or more: the power of its last misses is the inverse of what it should be. -/
theorem two_le_killChance {strikes : ℕ} (many : 2 ^ 31 < strikes) (others : ℕ)
    (firstLeads : Bool) :
    2 ≤ (killChance (striker (.plain 50 1 strikes) 1) (striker (.plain 50 0 others) 1) firstLeads :
      ℚ) := by
  let first : Odds.Striker ℚ := striker (.plain 50 1 strikes) 1
  let second : Odds.Striker ℚ := striker (.plain 50 0 others) 1
  have even : first.chance = 1 / 2 := by
    change Scalar.percent 50 = _
    rw [Scalar.percent_rat]
    norm_num
  have miss : 1 - first.chance = 1 / 2 := by
    rw [even]
    norm_num
  let own : ℕ → ℚ := fun n =>
    first.chance * Odds.powerOfCount (1 - first.chance) (n - 1)
  have total : (killChance first second firstLeads : ℚ) =
      ∑ n ∈ Finset.range strikes, own (n + 1) := by
    rw [killChance_eq_swingSum own (fun _ => 1) (Odds.killDuringSwing_harmless rfl rfl rfl rfl
      firstLeads), Odds.swingSum_foe_one,
      (Schedule.count_round first.strikes second.strikes firstLeads).1]
    rfl
  have nonneg : ∀ n ∈ Finset.range strikes, 0 ≤ own (n + 1) := by
    intro n _
    have power := Odds.powerOfCount_pos (by norm_num : (0 : ℚ) < 1 / 2) (n + 1 - 1)
    simp only [own, miss]
    rw [even]
    exact mul_nonneg (by norm_num) power.le
  rcases Odds.wrapped_count with ⟨count, limit, wrapped⟩
  have some : 2 ≤ count := by omega
  have large : 2 ≤ own (count + 1) := by
    have inverse : (4 : ℚ) ≤ 1 / (1 / 2) ^ count := by
      have shorter : ((1 : ℚ) / 2) ^ count ≤ (1 / 2) ^ 2 :=
        pow_le_pow_of_le_one (by norm_num) (by norm_num) some
      rw [le_div_iff₀ (pow_pos (by norm_num) _)]
      linarith
    simp only [own, miss]
    rw [Nat.add_sub_cancel, Odds.powerOfCount_wrapped _ (by omega) wrapped, even]
    linarith
  change 2 ≤ (killChance first second firstLeads : ℚ)
  rw [total]
  exact large.trans (Finset.single_le_sum nonneg (Finset.mem_range.mpr (limit ▸ many)))

/-- With one strike more, a fight of the last hitpoints already has a forecast that is no chance. -/
theorem not_exact_of_overlong_attack {attackers : ℕ} (many : 2 ^ 31 < attackers)
    (defenders : ℕ) :
    ¬ Exact { attacker := .plain 50 1 attackers, defender := .plain 50 0 defenders } ⟨1, 1⟩
      ⟨1, 1⟩ := by
  intro forecasts
  have large := (two_le_killChance many defenders true).trans_eq forecasts.attackerKills
  have small := large.trans (share_le_one _)
  norm_num at small

theorem not_exact_of_overlong_defense {defenders : ℕ} (many : 2 ^ 31 < defenders)
    (attackers : ℕ) :
    ¬ Exact { attacker := .plain 50 0 attackers, defender := .plain 50 1 defenders } ⟨1, 1⟩
      ⟨1, 1⟩ := by
  intro forecasts
  have large := (two_le_killChance many attackers false).trans_eq forecasts.defenderKills
  have small := large.trans (share_le_one _)
  norm_num at small

/-- The forecast of a single round of plain strikes is exact for all chances, damages and hitpoints
just when neither side has more than `2 ^ 31` strikes. -/
theorem exact_iff_strikes_le (attackerStrikes defenderStrikes : ℕ)
    (short : attackerStrikes + defenderStrikes < UInt32.size) :
    (∀ (matchup : Matchup) (attacker defender : Vitals),
        matchup.attacker.strikes = attackerStrikes →
        matchup.defender.strikes = defenderStrikes →
        Simulation.Plain matchup → matchup.rounds ≤ 1 →
        0 < attacker.hitpoints → attacker.hitpoints < 2 ^ 31 →
        0 < defender.hitpoints → defender.hitpoints < 2 ^ 31 →
        Exact matchup attacker defender) ↔
      attackerStrikes ≤ 2 ^ 31 ∧ defenderStrikes ≤ 2 ^ 31 := by
  constructor
  · intro always
    constructor
    · by_contra many
      apply not_exact_of_overlong_attack (Nat.lt_of_not_le many) defenderStrikes
      exact always _ ⟨1, 1⟩ ⟨1, 1⟩ rfl rfl
        (Simulation.plain_of_profiles (by decide) (by decide) _ _ _ _) (Nat.zero_le 1)
        (by decide) (by norm_num) (by decide) (by norm_num)
    · by_contra many
      apply not_exact_of_overlong_defense (Nat.lt_of_not_le many) attackerStrikes
      exact always _ ⟨1, 1⟩ ⟨1, 1⟩ rfl rfl
        (Simulation.plain_of_profiles (by decide) (by decide) _ _ _ _) (Nat.zero_le 1)
        (by decide) (by norm_num) (by decide) (by norm_num)
  · rintro ⟨attackerSmall, defenderSmall⟩
    intro matchup attacker defender attackerCount defenderCount plain oneRound attackerAlive
      attackerFits defenderAlive defenderFits
    subst attackerCount
    subst defenderCount
    exact exact_of_strikes_le plain oneRound attackerAlive attackerFits defenderAlive defenderFits
      short attackerSmall defenderSmall

def shortMatchup : Matchup :=
  { attacker := .plain 40 5 2, defender := .plain 60 3 1 }

theorem exact_shortMatchup : Exact shortMatchup ⟨10, 10⟩ ⟨3, 8⟩ := by
  have plain : Simulation.Plain shortMatchup :=
    Simulation.plain_of_profiles (by decide) (by decide) _ _ _ _
  have bounds : 2 ≤ 2 ^ 31 ∧ 1 ≤ 2 ^ 31 := by norm_num
  exact (exact_iff_strikes_le 2 1 (by decide)).mpr bounds shortMatchup ⟨10, 10⟩ ⟨3, 8⟩ rfl rfl plain
    (by decide) (by decide) (by norm_num) (by decide) (by norm_num)

def overlongMatchup : Matchup :=
  { attacker := .plain 50 1 (2 ^ 31 + 1), defender := .plain 50 0 0 }

theorem not_exact_overlongMatchup :
    Simulation.Plain overlongMatchup ∧ overlongMatchup.rounds ≤ 1 ∧
      ¬ Exact overlongMatchup ⟨1, 1⟩ ⟨1, 1⟩ := by
  have plain : Simulation.Plain overlongMatchup :=
    Simulation.plain_of_profiles (by decide) (by decide) _ _ _ _
  exact ⟨plain, by decide, not_exact_of_overlong_attack (Nat.lt_succ_self _) 0⟩

end Forecast
end Hexfield
