import Hexfield.Proofs.Simulation.Course

namespace Hexfield

/-!
A simulated exchange stays physical.

A hit costs its target hitpoints, and a drain heals its striker up to the maximum; nothing else
touches hitpoints.  Until a hit decides the exchange, both sides are alive and neither is
petrified.  The deciding hit falls on one side only, and kills it or turns it to stone, but never
both, so of the four endings there is at most one.  All this is as long as no drain outgrows the
word that holds the hitpoints: one that comes to exactly `UInt32.size` leaves its striker with
nothing, and then both sides may have died.  In any case hitpoints stay within their maxima, an
exchange that comes to none of the endings has played its whole schedule, and a swing draws one roll
whatever comes of it.
-/

/-- Half of what a drain takes can be added to the hitpoints of its side within the word, whatever
hitpoints both sides have within their maxima. -/
def Matchup.DrainsFit (matchup : Matchup) (vitals : Role → Vitals) : Prop :=
  ∀ role, (matchup.profileOf role).drains = true →
    (vitals role).maxHitpoints + (vitals role.other).maxHitpoints / 2 < UInt32.size

namespace Simulation

/-! ## Endings -/

def Fighter.mishaps (fighter : Fighter) : Nat :=
  (decide (fighter.hitpoints = 0)).toNat + fighter.petrified.toNat

theorem Fighter.mishaps_eq_zero_iff {fighter : Fighter} :
    fighter.mishaps = 0 ↔ fighter.hitpoints ≠ 0 ∧ fighter.petrified = false := by
  simp [mishaps]

/-- Whether each of the four endings has come about: the deaths of the attacker and of the defender,
and their petrifications. -/
def Outcome.endings (outcome : Outcome) : List Bool :=
  [outcome.attackerDied, outcome.defenderDied, outcome.attackerPetrified, outcome.defenderPetrified]

variable {ρ : Type}

theorem count_endings (bout : Bout ρ) (role : Role) :
    bout.outcome.endings.count true =
      (bout.fighter role).mishaps + (bout.fighter role.other).mishaps := by
  have split : ∀ first second third fourth : Bool,
      List.count true [first, second, third, fourth] =
        (first.toNat + third.toNat) + (second.toNat + fourth.toNat) := by decide
  have facts : bout.outcome.endings.count true =
      bout.attacker.mishaps + bout.defender.mishaps := split _ _ _ _
  cases role with
  | attacker => exact facts
  | defender => exact facts.trans (Nat.add_comm _ _)

/-! ## One hit -/

/-- How an exchange stands that has begun with these vitals. -/
structure Bout.Physical (matchup : Matchup) (vitals : Role → Vitals) (bout : Bout ρ) : Prop where
  maximum : ∀ role, (bout.fighter role).maxHitpoints = (vitals role).maxHitpoints
  within : ∀ role, (bout.fighter role).hitpoints ≤ (vitals role).maxHitpoints
  decided : bout.decided = true → ∃ role, (bout.fighter role).mishaps ≠ 0
  /-- A mishap has befallen one side if the exchange is decided, and otherwise none. -/
  mishaps : matchup.DrainsFit vitals → ∃ role, (bout.fighter role).mishaps = 0 ∧
    (bout.fighter role.other).mishaps = bout.decided.toNat

namespace Bout.Physical

variable {vitals : Role → Vitals} {matchup : Matchup} {before after : Bout ρ} {role : Role}

theorem mishaps_le_one (physical : before.Physical matchup vitals)
    (fits : matchup.DrainsFit vitals) (part : Role) :
    (before.fighter part).mishaps + (before.fighter part.other).mishaps ≤ 1 := by
  rcases physical.mishaps fits with ⟨role, none, other⟩
  have decided := Bool.toNat_le before.decided
  rcases Role.eq_or_eq_other role part with rfl | rfl
  · omega
  · rw [Role.other_other]
    omega

theorem decided_of_mishap (physical : before.Physical matchup vitals)
    (fits : matchup.DrainsFit vitals) {part : Role} (mishap : (before.fighter part).mishaps ≠ 0) :
    before.decided = true := by
  rcases physical.mishaps fits with ⟨role, none, other⟩
  rcases Role.eq_or_eq_other role part with rfl | rfl
  · exact absurd none mishap
  · rw [other] at mishap
    simpa using mishap

theorem unscathed (physical : before.Physical matchup vitals) (fits : matchup.DrainsFit vitals)
    (undecided : before.decided = false) (part : Role) :
    (before.fighter part).hitpoints ≠ 0 ∧ (before.fighter part).petrified = false := by
  rcases physical.mishaps fits with ⟨role, none, other⟩
  rw [undecided] at other
  rcases Role.eq_or_eq_other role part with rfl | rfl
  · exact Fighter.mishaps_eq_zero_iff.mp none
  · exact Fighter.mishaps_eq_zero_iff.mp other

theorem striker_alive (physical : before.Physical matchup vitals)
    (fits : matchup.DrainsFit vitals) (alive : (before.fighter role).hitpoints ≠ 0)
    (struck : before.HitBy matchup role after) : (after.fighter role).hitpoints ≠ 0 := by
  have cap := physical.maximum role
  have room := physical.within role
  have target := physical.within role.other
  rw [struck.striker, fst_hit]
  simp only
  split
  · rename_i drains
    have sum := fits role drains
    rw [low32_of_lt (by omega)]
    -- The maximum that caps a drain is not zero, because the striker is within it and alive.
    omega
  · exact alive

/-- A hit that decides the exchange has killed its target or turned it to stone. -/
theorem target_mishaps (struck : before.HitBy matchup role after)
    (decided : after.decided = true) : (after.fighter role.other).mishaps ≠ 0 := by
  rw [Ne, Fighter.mishaps_eq_zero_iff]
  rintro ⟨alive, flesh⟩
  have petrifies : (matchup.profileOf role).petrifies = true := by
    rw [struck.decided] at decided
    simpa [alive] using decided
  rw [struck.target, snd_hit] at alive flesh
  simp only [petrifies, Bool.and_true, Bool.or_eq_false_iff, decide_eq_false_iff_not] at alive flesh
  omega

/-- A hit leaves its striker alive and well, as long as drains fit; its target comes to one mishap,
if the hit decides the exchange. -/
theorem hitBy (physical : before.Physical matchup vitals) (undecided : before.decided = false)
    (struck : before.HitBy matchup role after) : after.Physical matchup vitals := by
  refine ⟨?_, ?_, fun decided => ⟨role.other, target_mishaps struck decided⟩, ?_⟩
  · intro part
    rcases Role.eq_or_eq_other role part with rfl | rfl
    · rw [struck.striker, fst_hit]
      exact physical.maximum part
    · rw [struck.target, snd_hit]
      exact physical.maximum role.other
  · intro part
    rcases Role.eq_or_eq_other role part with rfl | rfl
    · rw [struck.striker, fst_hit]
      simp only
      split
      · exact Nat.le_trans (Nat.min_le_right _ _) (Nat.le_of_eq (physical.maximum part))
      · exact physical.within part
    · rw [struck.target, snd_hit]
      exact Nat.le_trans (Nat.sub_le _ _) (physical.within role.other)
  · intro fits
    rcases physical.unscathed fits undecided role with ⟨strikerAlive, strikerFlesh⟩
    rcases physical.unscathed fits undecided role.other with ⟨targetAlive, targetFlesh⟩
    refine ⟨role, ?_, ?_⟩
    · rw [Fighter.mishaps_eq_zero_iff]
      refine ⟨physical.striker_alive fits strikerAlive struck, ?_⟩
      rw [struck.striker, fst_hit]
      exact strikerFlesh
    · rw [struck.decided, struck.target, snd_hit]
      simp only [Fighter.mishaps, targetFlesh, Bool.false_or]
      by_cases survives : (before.fighter role).damage (matchup.profileOf role) <
          (before.fighter role.other).hitpoints
      · have alive : (before.fighter role.other).hitpoints -
            (before.fighter role).damage (matchup.profileOf role) ≠ 0 := by omega
        simp [survives, alive]
      · have dead : (before.fighter role.other).hitpoints -
            (before.fighter role).damage (matchup.profileOf role) = 0 := by omega
        simp [survives, dead]

end Bout.Physical

theorem physical_between (matchup : Matchup) {vitals : Role → Vitals}
    (sound : ∀ role, (vitals role).Sound) (rolls : ρ) :
    (Bout.between vitals rolls).Physical matchup vitals := by
  have unscathed : ∀ role, ((Bout.between vitals rolls).fighter role).mishaps = 0 := by
    intro role
    rw [Bout.fighter_between, Fighter.mishaps_eq_zero_iff]
    exact ⟨Nat.ne_of_gt (sound role).alive, rfl⟩
  refine ⟨?_, ?_, ?_, fun _ => ⟨.attacker, unscathed _, unscathed _⟩⟩
  · intro role
    rw [Bout.fighter_between]
    rfl
  · intro role
    rw [Bout.fighter_between]
    exact (sound role).within
  · intro decided
    cases decided

/-! ## Stone -/

/-- No one is petrified before the exchange is decided, and whoever is petrified is alive. -/
structure Bout.Fleshly (bout : Bout ρ) : Prop where
  unharmed : bout.decided = false → ∀ role, (bout.fighter role).petrified = false
  alive : ∀ role, (bout.fighter role).petrified = true → (bout.fighter role).hitpoints ≠ 0

theorem Bout.Fleshly.hitBy {matchup : Matchup} {role : Role} {before after : Bout ρ}
    (fleshly : before.Fleshly) (undecided : before.decided = false)
    (struck : before.HitBy matchup role after) : after.Fleshly := by
  have flesh := fleshly.unharmed undecided
  have striker : (after.fighter role).petrified = false := by
    rw [struck.striker, fst_hit]
    exact flesh role
  have target : (after.fighter role.other).petrified = true →
      (after.fighter role.other).hitpoints ≠ 0 ∧ (matchup.profileOf role).petrifies = true := by
    rw [struck.target, snd_hit]
    simp only [flesh role.other, Bool.false_or, Bool.and_eq_true, decide_eq_true_eq]
    rintro ⟨survives, petrifies⟩
    exact ⟨by omega, petrifies⟩
  constructor
  · intro undecided' part
    rcases Role.eq_or_eq_other role part with rfl | rfl
    · exact striker
    · rw [struck.decided, Bool.or_eq_false_iff] at undecided'
      refine Bool.eq_false_iff.mpr fun stone => ?_
      rw [(target stone).2] at undecided'
      cases undecided'.2
  · intro part stone
    rcases Role.eq_or_eq_other role part with rfl | rfl
    · rw [striker] at stone
      cases stone
    · exact (target stone).1

/-! ## Swings and rounds -/

variable [RollSource ρ]

theorem Bout.Physical.playRound {vitals : Role → Vitals} {matchup : Matchup} (order : List Bool)
    {bout : Bout ρ} (physical : bout.Physical matchup vitals) (undecided : bout.decided = false) :
    (Simulation.playRound matchup order bout).Physical matchup vitals := by
  refine invariant_playRound ?_ ?_ order undecided physical
  · intro bout rolls physical
    exact ⟨physical.maximum, physical.within, physical.decided, physical.mishaps⟩
  · intro role before after undecided struck physical
    exact physical.hitBy undecided struck

theorem hitpoints_swing_le {matchup : Matchup} (part : Role)
    (undrained : (matchup.profileOf part).drains = false) (role : Role) (bout : Bout ρ) :
    ((swing matchup role.mark bout).fighter part).hitpoints ≤ (bout.fighter part).hitpoints := by
  rcases swing_cases matchup role bout with missed | struck
  · rw [missed]
    cases part <;> exact Nat.le_refl _
  · rcases Role.eq_or_eq_other role part with rfl | rfl
    · rw [struck.striker, fst_hit, undrained]
      exact Nat.le_refl _
    · rw [struck.target, snd_hit]
      exact Nat.sub_le _ _

theorem hitpoints_playRound_le {matchup : Matchup} (part : Role)
    (undrained : (matchup.profileOf part).drains = false) (order : List Bool) :
    ∀ bout : Bout ρ,
      ((playRound matchup order bout).fighter part).hitpoints ≤ (bout.fighter part).hitpoints := by
  induction order with
  | nil =>
      intro bout
      exact Nat.le_refl _
  | cons mark rest ih =>
      intro bout
      rcases Role.exists_mark mark with ⟨role, rfl⟩
      have swung := hitpoints_swing_le part undrained role bout
      rw [playRound]
      split
      · exact swung
      · exact Nat.le_trans (ih _) swung

/-- A round that decides nothing draws a roll for each of its swings. -/
theorem rolls_playRound (matchup : Matchup) (order : List Bool) :
    ∀ bout : Bout ρ, (playRound matchup order bout).decided = false →
      (playRound matchup order bout).rolls = (RollSource.take order.length bout.rolls).2 := by
  induction order with
  | nil =>
      intro bout _
      rfl
  | cons mark rest ih =>
      intro bout undecided
      rw [playRound] at undecided ⊢
      by_cases decided : (swing matchup mark bout).decided = true
      · rw [if_pos decided, decided] at undecided
        cases undecided
      · rw [if_neg decided] at undecided ⊢
        rw [ih _ undecided, rolls_swing]
        rfl

/-! ## The whole exchange -/

/-- An exchange does not take a side twice: who is petrified in it is alive at its end. -/
theorem play_fleshly (matchup : Matchup) (attacker defender : Vitals) (rolls : ρ) :
    (play matchup attacker defender rolls).1.attackerPetrified = true →
      (play matchup attacker defender rolls).1.attackerDied = false := by
  let vitals := Vitals.sides attacker defender
  have start : (Bout.between vitals rolls).Fleshly := by
    have flesh : ∀ role, ((Bout.between vitals rolls).fighter role).petrified = false := by
      intro role
      rw [Bout.fighter_between]
      rfl
    refine ⟨fun _ => flesh, fun role stone => ?_⟩
    rw [flesh] at stone
    cases stone
  have final : (playRound matchup matchup.schedule (.between vitals rolls)).Fleshly := by
    refine invariant_playRound ?_ ?_ _ rfl start
    · intro bout rolls fleshly
      exact ⟨fleshly.unharmed, fleshly.alive⟩
    · intro role before after undecided struck fleshly
      exact fleshly.hitBy undecided struck
  have run : run matchup attacker defender rolls = _ := run_eq_playRound matchup vitals rolls
  rw [play, run]
  intro stone
  exact beq_eq_false_iff_ne.mpr (final.alive .attacker stone)

theorem physical_run (matchup : Matchup) {vitals : Role → Vitals}
    (sound : ∀ role, (vitals role).Sound) (rolls : ρ) :
    (run matchup (vitals .attacker) (vitals .defender) rolls).Physical matchup vitals := by
  rw [run_eq_playRound]
  exact (physical_between matchup sound rolls).playRound matchup.schedule rfl

/-- Between sides that are alive and within their maxima, a simulated exchange leaves both within
their maxima, and a side that does not drain with no more hitpoints than it had.  It comes to one
ending at most, as long as no drain can outgrow the word of the hitpoints; and if it comes to none,
it has drawn one roll for each strike of each round.  The source is any; so it may be one that
counts what is drawn from it. -/
theorem play_physical (matchup : Matchup) {attacker defender : Vitals}
    (attackerSound : attacker.Sound) (defenderSound : defender.Sound) (rolls : ρ) :
    let outcome := (play matchup attacker defender rolls).1
    outcome.attackerHitpoints ≤ attacker.maxHitpoints ∧
      outcome.defenderHitpoints ≤ defender.maxHitpoints ∧
      (matchup.attacker.drains = false → outcome.attackerHitpoints ≤ attacker.hitpoints) ∧
      (matchup.defender.drains = false → outcome.defenderHitpoints ≤ defender.hitpoints) ∧
      (matchup.DrainsFit (Vitals.sides attacker defender) →
        outcome.endings.count true ≤ 1) ∧
      (outcome.endings.count true = 0 →
        (play matchup attacker defender rolls).2 = (RollSource.take
          (max matchup.rounds 1 * (matchup.attacker.strikes + matchup.defender.strikes))
          rolls).2) := by
  let vitals := Vitals.sides attacker defender
  have sound : ∀ role, (vitals role).Sound := by
    intro role
    cases role with
    | attacker => exact attackerSound
    | defender => exact defenderSound
  have physical := physical_run matchup sound rolls
  have course : run matchup attacker defender rolls = _ := run_eq_playRound matchup vitals rolls
  simp only [vitals, Vitals.sides] at physical
  simp only [play]
  refine ⟨physical.within .attacker, physical.within .defender, ?_, ?_, ?_, ?_⟩
  · intro undrained
    rw [course]
    exact hitpoints_playRound_le .attacker undrained _ _
  · intro undrained
    rw [course]
    exact hitpoints_playRound_le .defender undrained _ _
  · intro fits
    rw [count_endings _ .attacker]
    exact physical.mishaps_le_one fits .attacker
  · intro none
    have undecided : (run matchup attacker defender rolls).decided = false := by
      refine Bool.eq_false_iff.mpr fun decided => ?_
      rcases physical.decided decided with ⟨role, mishap⟩
      rw [count_endings _ role] at none
      omega
    rw [← Matchup.length_schedule]
    rw [course] at undecided ⊢
    exact rolls_playRound matchup matchup.schedule _ undecided

def brawl : Matchup :=
  { attacker := { weapon := some 0, chanceToHit := 60, damage := 6, strikes := 2, drains := true }
    defender := { weapon := some 0, chanceToHit := 50, damage := 5, strikes := 1, slows := true }
    rounds := 2
    toTheDeath := true }

theorem play_physical_brawl :
    let dice := ScriptedDice.ofArray #[10, 20, 70, 55, 90, 3]
    let outcome := (play brawl ⟨20, 24⟩ ⟨28, 30⟩ dice).1
    outcome.attackerHitpoints ≤ 24 ∧ outcome.defenderHitpoints ≤ 28 ∧
      brawl.DrainsFit (Vitals.sides ⟨20, 24⟩ ⟨28, 30⟩) ∧ outcome.endings.count true ≤ 1 ∧
      outcome.endings.count true = 0 ∧ (play brawl ⟨20, 24⟩ ⟨28, 30⟩ dice).2.next = 6 := by
  intro dice outcome
  have attackerSound : Vitals.Sound ⟨20, 24⟩ := ⟨by decide, by decide⟩
  have defenderSound : Vitals.Sound ⟨28, 30⟩ := ⟨by decide, by decide⟩
  have fits : brawl.DrainsFit (Vitals.sides ⟨20, 24⟩ ⟨28, 30⟩) := by
    intro role _
    cases role <;> decide
  rcases play_physical brawl attackerSound defenderSound dice with
    ⟨attackerLeft, -, -, defenderLeft, single, drawn⟩
  have none : outcome.endings.count true = 0 := by decide
  exact ⟨attackerLeft, defenderLeft rfl, fits, single fits, none,
    congrArg ScriptedDice.next (drawn none)⟩

/-! ## Drains that do not fit -/

def leeching (damage : Nat) : Matchup :=
  { attacker := { weapon := some 0, chanceToHit := 100, damage, strikes := 1, drains := true }
    rounds := 1 }

/-- A leech at its maximum takes all hitpoints of the other side. -/
theorem play_leeching (own taken foe : Nat) (rolls : ρ) :
    (play (leeching taken) ⟨own, own⟩ ⟨taken, foe⟩ rolls).1 =
      { attackerHitpoints := min (low32 (own + taken / 2)) own
        defenderHitpoints := 0
        attackerPetrified := false
        defenderPetrified := false
        attackerSlowed := false
        defenderSlowed := false } := by
  have hits : (RollSource.roll rolls).1.val < 100 := (RollSource.roll rolls).1.isLt
  have schedule : Schedule.round 1 0 true = [true] := rfl
  simp [play, run, playRound, playRounds, swing, leeching, schedule, hits, hit, Fighter.ofVitals,
    Fighter.damage, Bout.outcome]

/-- Where a drain can outgrow the word, it can leave its striker with nothing: an attacker at its
maximum takes from the defender just what makes the sum `UInt32.size`, and both sides have died. -/
theorem exists_both_died {own foe : Nat} (word : own < UInt32.size)
    (wide : UInt32.size ≤ own + foe / 2) (rolls : ρ) :
    ∃ taken, 1 ≤ taken ∧ taken ≤ foe ∧
      (play (leeching taken) ⟨own, own⟩ ⟨taken, foe⟩ rolls).1.endings.count true = 2 := by
  let taken := 2 * (UInt32.size - own)
  have wrapped : low32 (own + taken / 2) = 0 := by
    rw [show own + taken / 2 = UInt32.size by omega]
    exact Nat.mod_self _
  refine ⟨taken, by omega, by omega, ?_⟩
  rw [play_leeching, wrapped, Nat.zero_min]
  rfl

/-- An attacker with all the hitpoints that a word can hold bleeds to death on the one that it takes
from a dying defender. -/
theorem both_died_of_wrapped_drain :
    let outcome := (play (leeching 2) ⟨4294967295, 4294967295⟩ ⟨2, 2⟩
      (ScriptedDice.ofArray #[0])).1
    Vitals.Sound ⟨4294967295, 4294967295⟩ ∧ Vitals.Sound ⟨2, 2⟩ ∧
      outcome.attackerDied = true ∧ outcome.defenderDied = true :=
  ⟨⟨by decide, by decide⟩, ⟨by decide, by decide⟩, by decide, by decide⟩

end Simulation
end Hexfield
