import Hexfield.Proofs.Odds.Tail
import Hexfield.Proofs.Plan.Assessment
import Hexfield.Proofs.Plan.Covers
import Hexfield.Proofs.Plan.Valuation
import Hexfield.Proofs.Simulation.Bounds
import Hexfield.Proofs.Threat.Tally
import Mathlib.Algebra.Order.BigOperators.Group.List
import Mathlib.Tactic.GCongr
import Mathlib.Tactic.Linarith
import Mathlib.Tactic.Positivity

namespace Hexfield

/-!
What a plan stakes, and what it can win or lose.

Each time a plan is played out, it kills its target at most once.  An attacker strikes once, and is
either killed or petrified in its exchange, so that it is lost at most once.  What an exchange gives
to a side does not count as damage.  So all averages over any number of plays are bounded by what is
at stake: the hitpoints of both sides and the costs of the attackers.
-/

theorem Scalar.ofNat_rat (count : ℕ) : (Scalar.ofNat count : ℚ) = count := rfl

/-! ## Playing out -/

/-- What a number of plays have added to a tally, if each can add so much at most. -/
structure Tally.Grows (plays cost hitpoints target : ℕ) (before after : Tally ℚ) : Prop where
  kills : after.kills ≤ before.kills + plays
  losses_le : before.losses ≤ after.losses
  le_losses : after.losses ≤ before.losses + plays * cost
  inflicted : after.inflicted ≤ before.inflicted + plays * target
  taken : after.taken ≤ before.taken + plays * hitpoints

namespace Tally.Grows

variable {plays plays' cost hitpoints target : ℕ} {before middle after : Tally ℚ}

theorem refl (cost hitpoints target : ℕ) (tally : Tally ℚ) :
    Grows 0 cost hitpoints target tally tally := by
  constructor <;> simp

theorem trans (first : Grows plays cost hitpoints target before middle)
    (second : Grows plays' cost hitpoints target middle after) :
    Grows (plays + plays') cost hitpoints target before after := by
  rcases first with ⟨kills, low, high, inflicted, taken⟩
  rcases second with ⟨kills', low', high', inflicted', taken'⟩
  constructor
  · omega
  · exact low.trans low'
  · push_cast
    linarith
  · rw [Nat.add_mul]
    omega
  · rw [Nat.add_mul]
    omega

end Tally.Grows

namespace Assault

variable {ρ : Type} [RollSource ρ]

def totalCost (assaults : List Assault) : ℕ :=
  (assaults.map Assault.cost).sum

def totalHitpoints (assaults : List Assault) : ℕ :=
  (assaults.map fun assault => assault.vitals.hitpoints).sum

/-- An attacker that cannot both die and be petrified is paid for once at most. -/
theorem losses_bounds {died petrified : Bool} (once : petrified = true → died = false)
    (losses : ℚ) {cost : ℚ} (price : 0 ≤ cost) :
    let dead := if died = true then losses + cost else losses
    let lost := if petrified = true then dead + cost else dead
    (losses ≤ dead ∧ dead ≤ losses + cost) ∧ losses ≤ lost ∧ lost ≤ losses + cost := by
  cases petrified with
  | true =>
      rw [once rfl]
      simp [price]
  | false =>
      cases died with
      | true => simp [price]
      | false => simp [price]

/-- One play kills the target at most once, and loses each attacker at most once. -/
theorem grows_playOut (assaults : List Assault) (target : Vitals) (tally : Tally ℚ) (rolls : ρ) :
    tally.Grows 1 (totalCost assaults) (totalHitpoints assaults) 0
      (playOut assaults target tally rolls).2.1 := by
  induction assaults generalizing target tally rolls with
  | nil => constructor <;> simp [playOut, totalCost, totalHitpoints]
  | cons assault others ih =>
      have cost : totalCost (assault :: others) = assault.cost + totalCost others := rfl
      have hitpoints : totalHitpoints (assault :: others) =
          assault.vitals.hitpoints + totalHitpoints others := rfl
      have price : (0 : ℚ) ≤ assault.cost := Nat.cast_nonneg _
      have prices : (0 : ℚ) ≤ totalCost others := Nat.cast_nonneg _
      rw [cost, hitpoints]
      cases armed : assault.matchup with
      | none =>
          simp only [playOut, armed]
          rcases ih target tally rolls with ⟨kills, low, high, inflicted, taken⟩
          push_cast at high
          refine ⟨kills, low, ?_, inflicted, by omega⟩
          push_cast
          linarith
      | some matchup =>
          have once := Simulation.play_fleshly matchup assault.vitals target rolls
          simp only [playOut, armed, Scalar.ofNat_rat]
          generalize Simulation.play matchup assault.vitals target rolls = played at once ⊢
          have losses := losses_bounds once tally.losses price
          split
          · refine ⟨le_refl _, losses.1.1, ?_, le_refl _, ?_⟩
            · push_cast
              linarith [losses.1.2]
            · simp only
              omega
          · rcases ih _ _ _ with ⟨kills, low, high, inflicted, taken⟩
            refine ⟨kills, losses.2.1.trans low, ?_, inflicted, ?_⟩
            · push_cast at high ⊢
              linarith [losses.2.2]
            · simp only at taken ⊢
              omega

theorem grows_playOften (assaults : List Assault) (target : Vitals) (trials : ℕ)
    (tally : Tally ℚ) (rolls : ρ) :
    tally.Grows trials (totalCost assaults) (totalHitpoints assaults) target.hitpoints
      (playOften assaults target trials tally rolls).1 := by
  induction trials generalizing tally rolls with
  | zero => exact .refl _ _ _ tally
  | succ trials ih =>
      have played := grows_playOut assaults target tally rolls
      rw [playOften, Nat.add_comm]
      generalize playOut assaults target tally rolls = result at played ⊢
      refine Tally.Grows.trans ?_ (ih _ _)
      rcases result with ⟨remains, after, rolls⟩
      rcases played with ⟨kills, low, high, inflicted, taken⟩
      refine ⟨kills, low, high, ?_, taken⟩
      simp only at inflicted ⊢
      omega

end Assault

/-! ## Remembered covers -/

namespace Context

variable {ρ : Type} {context now : Context ℚ ρ}

/-- A context as it arises in planning.  Its owner may change all of it at any time but the covers,
which are remembered when they are looked up. -/
inductive Arises : Context ℚ ρ → Prop where
  | begin (field : Battlefield) (side : Side) (personality : Personality ℚ)
      (pathfinder : Pathfinder) (engaged : List Hex) (rolls : ρ) :
      Arises (.begin field side personality pathfinder engaged rolls)
  | lookUp {context : Context ℚ ρ} (arises : Arises context) (id : UnitId) :
      Arises ((Planner.cover id).after context)
  | change {context context' : Context ℚ ρ} (arises : Arises context)
      (same : context'.covers = context.covers) : Arises context'

/-- All covers that are remembered have chances. -/
def Credible (context : Context ℚ ρ) : Prop :=
  ∀ (id : UnitId) (cover : Cover ℚ), context.covers[id]? = some cover →
    0 ≤ cover.chance ∧ cover.chance ≤ 1

theorem chance_bestCover (field : Battlefield) (moves : MoveMaps) (id : UnitId)
    (unit : Combatant) :
    0 ≤ (bestCover field moves id unit : Cover ℚ).chance ∧
      (bestCover field moves id unit : Cover ℚ).chance ≤ 1 := by
  have numbers : ∀ hex, @exposure ℚ _ field unit hex ≤ exposure field unit hex :=
    fun _ => Rat.le_refl
  rw [(leastExposed_bestCover numbers moves id).1, exposure, Scalar.percent_rat]
  have chance : unit.chanceToBeHit (field.terrainAt (bestCover field moves id unit : Cover ℚ).hex) ≤
      100 := (MovementType.chanceToBeHit_le _ _).trans (by decide)
  have chance : ((unit.chanceToBeHit (field.terrainAt
      (bestCover field moves id unit : Cover ℚ).hex) : ℕ) : ℚ) ≤ 100 := by exact_mod_cast chance
  constructor
  · positivity
  · linarith

theorem Credible.cover (credible : context.Credible) (id : UnitId) :
    ((Planner.cover id).after context).Credible ∧
      ((∃ unit, context.field.roster.get? id = some unit) →
        (Planner.cover id : Planner ℚ ρ (Cover ℚ)).Ensures context fun cover after =>
          (0 ≤ cover.chance ∧ cover.chance ≤ 1) ∧ after.Credible ∧
            after = { context with covers := after.covers }) := by
  unfold Planner.after Planner.Ensures
  rw [Planner.cover_apply]
  cases known : context.covers[id]? with
  | some cover => exact ⟨credible, fun _ => ⟨_, _, rfl, credible id cover known, credible, rfl⟩⟩
  | none =>
      cases found : context.field.unit id with
      | error fault =>
          refine ⟨credible, ?_⟩
          rintro ⟨unit, alive⟩
          rw [Battlefield.unit_eq_ok_iff.mpr alive] at found
          cases found
      | ok unit =>
          let best : Cover ℚ := bestCover context.field context.ownMoves id unit
          have remembered :
              ({ context with covers := context.covers.insert id best } :
                Context ℚ ρ).Credible := by
            intro other cover kept
            exact forall_insert_cover (fun _ cover => 0 ≤ cover.chance ∧ cover.chance ≤ 1)
              (credible _ _) (chance_bestCover ..) kept
          exact ⟨remembered, fun _ => ⟨_, _, rfl, chance_bestCover .., remembered, rfl⟩⟩

theorem Arises.credible (arises : context.Arises) : context.Credible := by
  induction arises with
  | begin field side personality pathfinder engaged rolls =>
      intro id cover known
      simp [Context.begin] at known
  | lookUp arises id ih => exact (ih.cover id).1
  | change arises same ih =>
      intro id cover known
      rw [same] at known
      exact ih id cover known

end Context

/-! ## Taking stock -/

namespace Plan

variable {ρ : Type} {plan : Plan ℚ} {now : Context ℚ ρ}

/-- The sums of chances, weighted by costs, are no larger than the costs. -/
structure Weighted (plan : Plan ℚ) : Prop where
  terrain : 0 ≤ plan.terrainQuality ∧ plan.terrainQuality ≤ plan.resourcesUsed
  alternative : 0 ≤ plan.alternativeTerrainQuality ∧
    plan.alternativeTerrainQuality ≤ plan.resourcesUsed

theorem weighted_appraise (plan : Plan ℚ) (field : Battlefield) (side : Side)
    (target : Combatant) : (plan.appraise field side target).Weighted := by
  have zero : (0 : ℚ) ≤ @OfScientific.ofScientific ℚ Scalar.toOfScientific 0 true 1 :=
    Scalar.rat_zero.ge
  exact ⟨⟨zero, le_refl _⟩, ⟨zero, le_refl _⟩⟩

theorem Weighted.enlist (weighted : plan.Weighted) (field : Battlefield) (unit : Combatant)
    (hex : Hex) {cover : Cover ℚ} (chance : 0 ≤ cover.chance ∧ cover.chance ≤ 1) :
    (plan.enlist field unit hex cover).Weighted := by
  rcases weighted with ⟨⟨low, high⟩, ⟨low', high'⟩⟩
  have price : (0 : ℚ) ≤ unit.cost := Nat.cast_nonneg _
  have exposed : ((unit.chanceToBeHit (field.terrainAt hex) : ℕ) : ℚ) ≤ 100 := by
    exact_mod_cast (MovementType.chanceToBeHit_le _ _).trans (by decide : 90 ≤ 100)
  have hundred : @OfScientific.ofScientific ℚ Scalar.toOfScientific 1000 true 1 = 100 :=
    Scalar.rat_decimal 1000 1 (by norm_num)
  have share : (0 : ℚ) ≤ unit.cost * (unit.chanceToBeHit (field.terrainAt hex) : ℕ) / 100 ∧
      (unit.cost : ℚ) * (unit.chanceToBeHit (field.terrainAt hex) : ℕ) / 100 ≤ unit.cost := by
    refine ⟨by positivity, ?_⟩
    rw [div_le_iff₀ (by norm_num)]
    gcongr
  have share' : (0 : ℚ) ≤ unit.cost * cover.chance ∧ unit.cost * cover.chance ≤ unit.cost :=
    ⟨mul_nonneg price chance.1, mul_le_of_le_one_right price chance.2⟩
  constructor
  · simp only [Plan.enlist, Scalar.ofNat_rat, hundred]
    exact ⟨add_nonneg low share.1, add_le_add high share.2⟩
  · simp only [Plan.enlist, Scalar.ofNat_rat]
    exact ⟨add_nonneg low' share'.1, add_le_add high' share'.2⟩

/-- Live attackers are found as they are, and their costs are summed up. -/
theorem ensures_muster_weighted (credible : now.Credible) {movements : List (UnitId × Hex)}
    {units : List Combatant}
    (alive : movements.map (fun movement => now.field.roster.get? movement.1) = units.map some)
    (weighted : plan.Weighted) :
    (muster movements plan : Planner ℚ ρ (Plan ℚ × List Combatant)).Ensures now
      fun mustered after => mustered.2 = units ∧ mustered.1.Weighted ∧
        mustered.1.resourcesUsed = plan.resourcesUsed + ((units.map Combatant.cost).sum : ℕ) ∧
        mustered.1.outline = plan.outline ∧
        after = { now with covers := after.covers } := by
  induction movements generalizing units plan now with
  | nil =>
      obtain rfl : units = [] := by simpa using alive.symm
      exact Planner.Ensures.pure ⟨rfl, weighted, by simp, rfl, rfl⟩
  | cons movement others ih =>
      cases units with
      | nil => cases alive
      | cons unit units =>
          rcases List.cons.inj alive with ⟨here, others'⟩
          unfold muster
          apply Planner.Ensures.bind ((credible.cover movement.1).2 ⟨unit, here⟩)
          rintro cover middle ⟨chance, credible', frame⟩
          have field : middle.field = now.field := by rw [frame]
          apply Planner.Ensures.get_bind
          apply Planner.Ensures.ofExcept_bind
            (Battlefield.unit_eq_ok_iff.mpr (by rw [field]; exact here))
          rw [← field] at others'
          apply Planner.Ensures.bind
            (ih credible' others' (weighted.enlist middle.field unit movement.2 chance))
          rintro ⟨mustered, found⟩ after ⟨rfl, weighted', resources, outline, frame'⟩
          refine Planner.Ensures.pure ⟨rfl, weighted', ?_, outline, ?_⟩
          · rw [resources, List.map_cons, List.sum_cons, Nat.cast_add, ← add_assoc]
            rfl
          · rw [frame', frame]

/-! ## Averages -/

/-- What a plan says it can win or lose is no more than what is at stake: its target, and the
attackers with their costs and hitpoints.  The qualities of the terrain are chances. -/
structure WithinStakes (plan : Plan ℚ) (units : List Combatant) (target : Combatant) : Prop where
  kill : 0 ≤ plan.chanceToKill ∧ plan.chanceToKill ≤ 1
  losses : 0 ≤ plan.averageLosses ∧ plan.averageLosses ≤ plan.resourcesUsed
  resources : plan.resourcesUsed = ((units.map Combatant.cost).sum : ℕ)
  inflicted : 0 ≤ plan.averageDamageInflicted ∧ plan.averageDamageInflicted ≤ target.hitpoints
  taken : 0 ≤ plan.averageDamageTaken ∧
    plan.averageDamageTaken ≤ ((units.map Combatant.hitpoints).sum : ℕ)
  terrain : 0 ≤ plan.terrainQuality ∧ plan.terrainQuality ≤ 1
  alternative : 0 ≤ plan.alternativeTerrainQuality ∧ plan.alternativeTerrainQuality ≤ 1

/-- A sum that is bounded for each of its parts has an average with that bound. -/
theorem average_bounds {sum bound : ℚ} {count : ℕ} (low : 0 ≤ sum) (high : sum ≤ count * bound)
    (some : 0 < count) : 0 ≤ sum / count ∧ sum / count ≤ bound := by
  have positive : (0 : ℚ) < count := by exact_mod_cast some
  refine ⟨div_nonneg low positive.le, ?_⟩
  rw [div_le_iff₀ positive, mul_comm]
  exact high

/-- The sums become averages, also if no attacker costs anything: then they are zero. -/
theorem Weighted.average (weighted : plan.Weighted) :
    plan.averageTerrain.resourcesUsed = plan.resourcesUsed ∧
      (0 ≤ plan.averageTerrain.terrainQuality ∧ plan.averageTerrain.terrainQuality ≤ 1) ∧
      0 ≤ plan.averageTerrain.alternativeTerrainQuality ∧
        plan.averageTerrain.alternativeTerrainQuality ≤ 1 := by
  rcases weighted with ⟨⟨low, high⟩, ⟨low', high'⟩⟩
  unfold averageTerrain
  rw [Scalar.rat_zero]
  by_cases priced : 0 < plan.resourcesUsed
  · rw [if_pos priced]
    exact ⟨rfl, ⟨div_nonneg low priced.le, (div_le_one priced).mpr high⟩,
      div_nonneg low' priced.le, (div_le_one priced).mpr high'⟩
  · rw [if_neg priced]
    have free : plan.resourcesUsed ≤ 0 := not_lt.mp priced
    exact ⟨rfl, ⟨low, by linarith⟩, low', by linarith⟩

/-- A plan whose costs and terrain are within its stakes stays so with a tally of so many plays. -/
theorem withinStakes_withTally {units : List Combatant} {target : Combatant} {trials : ℕ}
    {tally : Tally ℚ} (resources : plan.resourcesUsed = ((units.map Combatant.cost).sum : ℕ))
    (terrain : 0 ≤ plan.terrainQuality ∧ plan.terrainQuality ≤ 1)
    (alternative : 0 ≤ plan.alternativeTerrainQuality ∧ plan.alternativeTerrainQuality ≤ 1)
    (grows : Tally.Grows trials (units.map Combatant.cost).sum
      (units.map Combatant.hitpoints).sum target.hitpoints
      { kills := 0, losses := 0, inflicted := 0, taken := 0 } tally) :
    (plan.withTally trials tally).WithinStakes units target := by
  unfold withTally
  by_cases some : 0 < trials
  · rw [if_pos some]
    simp only [Scalar.ofNat_rat]
    refine ⟨?_, ?_, resources, ?_, ?_, terrain, alternative⟩
    · exact average_bounds (Nat.cast_nonneg _) (by exact_mod_cast (by simpa using grows.kills)) some
    · rw [resources]
      exact average_bounds grows.losses_le (by simpa using grows.le_losses) some
    · exact average_bounds (Nat.cast_nonneg _)
        (by exact_mod_cast (by simpa using grows.inflicted)) some
    · exact average_bounds (Nat.cast_nonneg _) (by exact_mod_cast (by simpa using grows.taken)) some
  · rw [if_neg some]
    simp only [Scalar.rat_zero]
    have nothing (bound : ℕ) : (0 : ℚ) ≤ 0 ∧ (0 : ℚ) ≤ bound := ⟨le_refl 0, Nat.cast_nonneg bound⟩
    refine ⟨⟨le_refl 0, zero_le_one⟩, ?_, resources, nothing _, nothing _, terrain, alternative⟩
    rw [resources]
    exact nothing _

theorem ensures_tally_grows [RollSource ρ] (assaults : List Assault) (target : Vitals)
    (trials : ℕ) :
    (tally assaults target trials : Planner ℚ ρ (Tally ℚ)).Ensures now fun tally _ =>
      Tally.Grows trials (Assault.totalCost assaults) (Assault.totalHitpoints assaults)
        target.hitpoints { kills := 0, losses := 0, inflicted := 0, taken := 0 } tally := by
  apply Planner.Ensures.get_bind
  apply Planner.Ensures.set_bind
  refine Planner.Ensures.pure ?_
  have grows := Assault.grows_playOften assaults target trials
    { kills := 0, losses := 0, inflicted := 0, taken := 0 } now.rolls
  rw [← Scalar.rat_zero] at grows ⊢
  exact grows

/-- If there are numbers for each attacker, all of them have a part in the plays. -/
theorem totals_zip {units : List Combatant} {matchups : List (Option Matchup)}
    (enough : units.length ≤ matchups.length) :
    let assaults := (units.zip matchups).map fun (unit, matchup) =>
      ({ cost := unit.cost, vitals := unit.vitals, matchup } : Assault)
    Assault.totalCost assaults = (units.map Combatant.cost).sum ∧
      Assault.totalHitpoints assaults = (units.map Combatant.hitpoints).sum := by
  intro assaults
  have firsts : (units.zip matchups).map Prod.fst = units := List.map_fst_zip enough
  rw [← firsts]
  simp only [Assault.totalCost, Assault.totalHitpoints, assaults, List.map_map]
  exact ⟨rfl, rfl⟩

/-- However a context has arisen, a plan whose units are on the field is analysed, and what it then
says it can win or lose is within what is at stake. -/
theorem analyze_withinStakes [RollSource ρ] {context : Context ℚ ρ} (arises : context.Arises)
    (plan : Plan ℚ) {units : List Combatant} {target : Combatant}
    (aliveTarget : context.field.roster.get? plan.target = some target)
    (alive : plan.attackers.map context.field.roster.get? = units.map some) :
    ∃ analysed after, plan.analyze context = .ok analysed after ∧
      analysed.WithinStakes units target := by
  have mustered : plan.movements.map (fun movement => context.field.roster.get? movement.1) =
      units.map some := by
    rw [← alive, attackers, List.map_map]
    rfl
  have present : plan.Present context := by
    refine ⟨⟨target, aliveTarget⟩, fun id member => ?_⟩
    have listed := List.mem_map_of_mem (f := context.field.roster.get?) member
    rw [alive] at listed
    rcases List.mem_map.mp listed with ⟨unit, -, found⟩
    exact ⟨unit, found.symm⟩
  have anywhere : ∀ (plan : Plan ℚ), ∀ movement ∈ plan.movements,
      context.field.MayStand (fun _ _ => True) movement :=
    fun _ _ _ _ _ => Or.inr trivial
  suffices ensured : (plan.analyze : Planner ℚ ρ (Plan ℚ)).Ensures context fun analysed _ =>
      analysed.WithinStakes units target from ensured
  apply Planner.Ensures.get_bind
  apply Planner.Ensures.ofExcept_bind (Battlefield.unit_eq_ok_iff.mpr aliveTarget)
  apply Planner.Ensures.bind (ensures_muster_weighted arises.credible mustered
    (weighted_appraise plan context.field context.side target))
  rintro ⟨stocked, found⟩ middle ⟨same, weighted, resources, outline, frame⟩
  obtain rfl : found = units := same
  rcases weighted.average with ⟨kept, terrain, alternative⟩
  have averaged : stocked.averageTerrain.outline = plan.outline := by
    rw [outline_averageTerrain, outline]
    rfl
  have proceeds : context.Proceeds (fun _ _ => True) middle := by
    rw [frame]
    exact (Context.Proceeds.refl _ context).withCovers _
  -- From anywhere each attacker looks for a weapon, and there is an answer for each.
  have placed := Formation.strays_form proceeds.strays (anywhere stocked.averageTerrain)
  rcases (present.of_outline averaged).exists_chooseWeapons placed.field
    context.personality.aggression with ⟨choices, chosen, length, -⟩
  apply Planner.Ensures.bind (ensures_inFormation proceeds (anywhere _) chosen)
  rintro answers after ⟨-, rfl⟩
  apply Planner.Ensures.bind (ensures_tally_grows _ _ _)
  intro tally _ grows
  -- Nobody is left out of the plays, since there is an answer for each attacker.
  have shorter : found.length ≤ (answers.map (Option.map Prod.snd)).length := by
    have count := congrArg List.length mustered
    have movements := (Prod.mk.inj (Prod.mk.inj averaged).2).2
    rw [List.length_map, List.length_map] at count
    rw [List.length_map, length, movements, count]
  rw [(totals_zip shorter).1, (totals_zip shorter).2] at grows
  have free : (plan.appraise context.field context.side target).resourcesUsed = 0 :=
    Scalar.rat_zero
  rw [free, zero_add] at resources
  exact Planner.Ensures.pure
    (withinStakes_withTally (kept.trans resources) terrain alternative grows)

/-- The raiders' leader goes out of cover for what it can win from the guard. -/
theorem analyze_withinStakes_sortie :
    ∃ analysed after, sortie.analyze exactSkirmish = .ok analysed after ∧
      analysed.WithinStakes [.raider] .guard :=
  analyze_withinStakes (.begin .skirmish ⟨1⟩ (.ofName "Raiders") .terrain [] []) sortie rfl rfl

end Plan

end Hexfield
