import Hexfield.Exchange
import Hexfield.Simulation

namespace Hexfield

/-!
The course of a simulated exchange.

A simulation plays round after round and looks between rounds whether the exchange is decided.  It
might as well play the whole schedule of the matchup as one long round, because a round stops by
itself where the exchange is decided.  Between two swings no side is petrified, and where nothing
slows, no side is slowed either; what is left of a side is its vitals.
-/

namespace Vitals

/-- Alive, and not above the maximum. -/
structure Sound (vitals : Vitals) : Prop where
  alive : 1 ≤ vitals.hitpoints
  within : vitals.hitpoints ≤ vitals.maxHitpoints

/-- Not above the maximum, and in a word. -/
structure Bounded (vitals : Vitals) : Prop where
  within : vitals.hitpoints ≤ vitals.maxHitpoints
  word : vitals.hitpoints < UInt32.size

def sides (attacker defender : Vitals) : Role → Vitals
  | .attacker => attacker
  | .defender => defender

def wounded (vitals : Vitals) (damage : Nat) : Vitals :=
  { vitals with hitpoints := vitals.hitpoints - damage }

/-- The vitals of a striker that has dealt damage. -/
def drained (vitals : Vitals) (profile : StrikeProfile) (dealt : Nat) : Vitals :=
  if profile.drains then
    { vitals with hitpoints := min (low32 (vitals.hitpoints + dealt / 2)) vitals.maxHitpoints }
  else
    vitals

theorem Bounded.wounded {vitals : Vitals} (bounded : vitals.Bounded) (damage : Nat) :
    (vitals.wounded damage).Bounded :=
  ⟨Nat.le_trans (Nat.sub_le _ _) bounded.within, Nat.lt_of_le_of_lt (Nat.sub_le _ _) bounded.word⟩

/-- The sum may wrap, but what is left of it is bounded. -/
theorem Bounded.drained {vitals : Vitals} (bounded : vitals.Bounded) (profile : StrikeProfile)
    (dealt : Nat) : (vitals.drained profile dealt).Bounded := by
  unfold Vitals.drained
  split
  · exact ⟨Nat.min_le_right _ _, Nat.lt_of_le_of_lt (Nat.min_le_left _ _) (low32_lt _)⟩
  · exact bounded

theorem drained_of_undrained {vitals : Vitals} {profile : StrikeProfile} {dealt : Nat}
    (undrained : profile.drains = false) : vitals.drained profile dealt = vitals := by
  rw [drained, undrained, if_neg Bool.false_ne_true]

def afterHit (vitals : Role → Vitals) (role : Role) (profile : StrikeProfile) (dealt : Nat) :
    Role → Vitals :=
  fun part =>
    if part = role then (vitals part).drained profile dealt else (vitals part).wounded dealt

variable (vitals : Role → Vitals) (role : Role) (profile : StrikeProfile) (dealt : Nat)

@[simp] theorem afterHit_striker :
    afterHit vitals role profile dealt role = (vitals role).drained profile dealt :=
  if_pos rfl

@[simp] theorem afterHit_target :
    afterHit vitals role profile dealt role.other = (vitals role.other).wounded dealt :=
  if_neg (Role.other_ne role)

end Vitals

namespace Simulation

/-- A hit changes nothing of its striker but the hitpoints, and these only by a drain. -/
theorem fst_hit (profile : StrikeProfile) (striker target : Fighter) :
    (hit profile striker target).1 =
      { striker with
        hitpoints :=
          if profile.drains then
            min (low32 (striker.hitpoints + min (striker.damage profile) target.hitpoints / 2))
              striker.maxHitpoints
          else striker.hitpoints } := by
  by_cases drains : profile.drains = true
  · simp only [hit, if_pos drains]
    split <;> rfl
  · simp only [hit, if_neg drains]
    split <;> rfl

/-- A hit costs its target hitpoints, and slows or petrifies it only if some are left. -/
theorem snd_hit (profile : StrikeProfile) (striker target : Fighter) :
    (hit profile striker target).2 =
      { target with
        hitpoints := target.hitpoints - striker.damage profile
        slowed := target.slowed || (striker.damage profile < target.hitpoints && profile.slows)
        petrified := target.petrified ||
          (striker.damage profile < target.hitpoints && profile.petrifies) } := by
  have left : target.hitpoints - min (striker.damage profile) target.hitpoints =
      target.hitpoints - striker.damage profile := by omega
  simp only [hit, left]
  by_cases survives : striker.damage profile < target.hitpoints
  · have alive : target.hitpoints - striker.damage profile ≠ 0 := by omega
    rw [if_neg alive]
    simp [survives]
  · have dead : target.hitpoints - striker.damage profile = 0 := by omega
    rw [if_pos dead]
    simp [survives]

/-- A hit that does not slow, between sides of which nothing is left to tell but their vitals. -/
theorem hit_ofVitals {profile : StrikeProfile} (unslowing : profile.slows = false)
    (striker target : Vitals) :
    hit profile (.ofVitals striker) (.ofVitals target) =
      (.ofVitals (striker.drained profile (min profile.damage target.hitpoints)),
        { Fighter.ofVitals (target.wounded (min profile.damage target.hitpoints)) with
          petrified :=
            target.hitpoints - min profile.damage target.hitpoints ≠ 0 && profile.petrifies }) := by
  apply Prod.ext
  · rw [fst_hit]
    by_cases drains : profile.drains = true
    · simp [Fighter.damage, Fighter.ofVitals, Vitals.drained, drains]
    · simp [Fighter.ofVitals, Vitals.drained, drains]
  · have left : target.hitpoints - min profile.damage target.hitpoints =
        target.hitpoints - profile.damage := by omega
    have survives : decide (target.hitpoints - profile.damage ≠ 0) =
        decide (profile.damage < target.hitpoints) := decide_eq_decide.mpr (by omega)
    rw [snd_hit, unslowing, left, survives]
    simp [Fighter.damage, Fighter.ofVitals, Vitals.wounded, left]

variable {ρ : Type}

/-- The side that plays a part. -/
def Bout.fighter (bout : Bout ρ) : Role → Fighter
  | .attacker => bout.attacker
  | .defender => bout.defender

/-- An exchange between sides of which nothing is left to tell but their vitals. -/
def Bout.between (vitals : Role → Vitals) (rolls : ρ) : Bout ρ :=
  { attacker := .ofVitals (vitals .attacker), defender := .ofVitals (vitals .defender), rolls }

theorem Bout.fighter_between (vitals : Role → Vitals) (rolls : ρ) (role : Role) :
    (Bout.between vitals rolls).fighter role = .ofVitals (vitals role) := by
  cases role <;> rfl

theorem Bout.fighter_decided (bout : Bout ρ) (decided : Bool) (role : Role) :
    ({ bout with decided } : Bout ρ).fighter role = bout.fighter role := by
  cases role <;> rfl

theorem Bout.eq_of_fighters {first second : Bout ρ}
    (fighters : ∀ role, first.fighter role = second.fighter role)
    (rolls : first.rolls = second.rolls) (decided : first.decided = second.decided) :
    first = second := by
  rcases first with ⟨attacker, defender, _, _⟩
  rcases second with ⟨attacker', defender', _, _⟩
  have attackers : attacker = attacker' := fighters .attacker
  have defenders : defender = defender' := fighters .defender
  cases attackers
  cases defenders
  cases rolls
  cases decided
  rfl

theorem Bout.eq_between {bout : Bout ρ} {vitals : Role → Vitals}
    (fighters : ∀ role, bout.fighter role = .ofVitals (vitals role))
    (undecided : bout.decided = false) : bout = .between vitals bout.rolls := by
  apply Bout.eq_of_fighters
  · intro role
    rw [fighters, Bout.fighter_between]
  · rfl
  · exact undecided

variable [RollSource ρ]

theorem rolls_swing (matchup : Matchup) (mark : Bool) (bout : Bout ρ) :
    (swing matchup mark bout).rolls = (RollSource.roll bout.rolls).2 := by
  unfold swing
  cases mark with
  | true =>
      simp only [if_true]
      split <;> rfl
  | false =>
      simp only [Bool.false_eq_true, if_false]
      split <;> rfl

theorem swing_of_miss {matchup : Matchup} {role : Role} (bout : Bout ρ)
    (miss : ¬ (RollSource.roll bout.rolls).1.val < (matchup.profileOf role).chanceToHit) :
    swing matchup role.mark bout = { bout with rolls := (RollSource.roll bout.rolls).2 } := by
  cases role with
  | attacker => exact if_neg miss
  | defender => exact if_neg miss

/-- A round whose first swing misses goes on with both sides as they are. -/
theorem playRound_miss {matchup : Matchup} (role : Role) (rest : List Bool)
    (vitals : Role → Vitals) (rolls : ρ)
    (miss : ¬ (RollSource.roll rolls).1.val < (matchup.profileOf role).chanceToHit) :
    playRound matchup (role.mark :: rest) (.between vitals rolls) =
      playRound matchup rest (.between vitals (RollSource.roll rolls).2) := by
  rw [playRound, swing_of_miss (.between vitals rolls) miss]
  rfl

/-- What a hit of one side makes of both. -/
structure Bout.HitBy {ρ : Type} (matchup : Matchup) (role : Role) (before after : Bout ρ) :
    Prop where
  striker : after.fighter role =
    (hit (matchup.profileOf role) (before.fighter role) (before.fighter role.other)).1
  target : after.fighter role.other =
    (hit (matchup.profileOf role) (before.fighter role) (before.fighter role.other)).2
  decided : after.decided =
    ((after.fighter role.other).hitpoints = 0 || (matchup.profileOf role).petrifies)

theorem hitBy_swing {matchup : Matchup} {role : Role} (bout : Bout ρ)
    (hits : (RollSource.roll bout.rolls).1.val < (matchup.profileOf role).chanceToHit) :
    bout.HitBy matchup role (swing matchup role.mark bout) := by
  cases role with
  | attacker =>
      simp only [Matchup.profileOf] at hits
      simp only [swing, Role.mark, if_true, hits]
      exact ⟨rfl, rfl, rfl⟩
  | defender =>
      simp only [Matchup.profileOf] at hits
      simp only [swing, Role.mark, Bool.false_eq_true, if_false, if_true, hits]
      exact ⟨rfl, rfl, rfl⟩

theorem swing_cases (matchup : Matchup) (role : Role) (bout : Bout ρ) :
    swing matchup role.mark bout = { bout with rolls := (RollSource.roll bout.rolls).2 } ∨
      bout.HitBy matchup role (swing matchup role.mark bout) := by
  by_cases hits : (RollSource.roll bout.rolls).1.val < (matchup.profileOf role).chanceToHit
  · exact Or.inr (hitBy_swing bout hits)
  · exact Or.inl (swing_of_miss bout hits)

/-- What misses and hits do not change in an exchange that goes on is so at the end of a round if it
was at its start. -/
theorem invariant_playRound {invariant : Bout ρ → Prop} {matchup : Matchup}
    (missed : ∀ bout rolls, invariant bout → invariant { bout with rolls })
    (struck : ∀ role before after, before.decided = false → before.HitBy matchup role after →
      invariant before → invariant after) (order : List Bool) :
    ∀ {bout : Bout ρ}, bout.decided = false → invariant bout →
      invariant (playRound matchup order bout) := by
  induction order with
  | nil =>
      intro bout _ holds
      exact holds
  | cons mark rest ih =>
      intro bout undecided holds
      rcases Role.exists_mark mark with ⟨role, rfl⟩
      have swung : invariant (swing matchup role.mark bout) := by
        rcases swing_cases matchup role bout with miss | hit
        · rw [miss]
          exact missed bout _ holds
        · exact struck role bout _ undecided hit holds
      rw [playRound]
      by_cases decided : (swing matchup role.mark bout).decided = true
      · rw [if_pos decided]
        exact swung
      · rw [if_neg decided]
        exact ih (Bool.eq_false_iff.mpr decided) swung

/-- What a hit that does not slow makes of the two sides. -/
theorem swing_of_hit {matchup : Matchup} {role : Role} (rolls : ρ)
    (hit : (RollSource.roll rolls).1.val < (matchup.profileOf role).chanceToHit)
    (unslowing : (matchup.profileOf role).slows = false) (vitals : Role → Vitals) :
    let profile := matchup.profileOf role
    let after := Vitals.afterHit vitals role profile
      (min profile.damage (vitals role.other).hitpoints)
    let bout := swing matchup role.mark (.between vitals rolls)
    bout.rolls = (RollSource.roll rolls).2 ∧
      bout.fighter role = .ofVitals (after role) ∧
      bout.fighter role.other =
        { Fighter.ofVitals (after role.other) with
          petrified := (after role.other).hitpoints ≠ 0 && profile.petrifies } ∧
      bout.decided = ((after role.other).hitpoints = 0 || profile.petrifies) := by
  intro profile after bout
  have struck := hitBy_swing (.between vitals rolls) hit
  have blow := hit_ofVitals unslowing (vitals role) (vitals role.other)
  have striker := struck.striker
  have target := struck.target
  have decided := struck.decided
  rw [Bout.fighter_between, Bout.fighter_between, blow] at striker target
  rw [target] at decided
  simp only [after, Vitals.afterHit_striker, Vitals.afterHit_target]
  exact ⟨rolls_swing matchup role.mark _, striker, target, decided⟩

/-! ## Strikes that do nothing but damage -/

/-- Neither side drains, slows or petrifies. -/
structure DamageOnly (matchup : Matchup) : Prop where
  drains : ∀ role, (matchup.profileOf role).drains = false
  slows : ∀ role, (matchup.profileOf role).slows = false
  petrifies : ∀ role, (matchup.profileOf role).petrifies = false

namespace DamageOnly

variable {matchup : Matchup} (only : DamageOnly matchup)

include only

theorem hitpoints_afterHit (role : Role) (vitals : Role → Vitals) :
    let left :=
      Vitals.afterHit vitals role (matchup.profileOf role) (matchup.profileOf role).damage
    (left role).hitpoints = (vitals role).hitpoints ∧
      (left role.other).hitpoints =
        (vitals role.other).hitpoints - (matchup.profileOf role).damage := by
  intro left
  constructor
  · simp only [left, Vitals.afterHit_striker, Vitals.drained_of_undrained (only.drains role)]
  · simp only [left, Vitals.afterHit_target, Vitals.wounded]

/-- A hit that does nothing but damage costs its target hitpoints, and decides the exchange if none
are left. -/
theorem swing_between (role : Role) (vitals : Role → Vitals) (rolls : ρ)
    (hits : (RollSource.roll rolls).1.val < (matchup.profileOf role).chanceToHit) :
    swing matchup role.mark (.between vitals rolls) =
      { Bout.between
          (Vitals.afterHit vitals role (matchup.profileOf role) (matchup.profileOf role).damage)
          (RollSource.roll rolls).2 with
        decided := decide ((vitals role.other).hitpoints ≤ (matchup.profileOf role).damage) } := by
  have struck := hitBy_swing (.between vitals rolls) hits
  have striker := struck.striker
  have target := struck.target
  have decided := struck.decided
  rw [fst_hit, only.drains, Bout.fighter_between] at striker
  rw [snd_hit, only.slows, only.petrifies, Bout.fighter_between, Bout.fighter_between] at target
  rw [target, only.petrifies, Bool.or_false] at decided
  apply Bout.eq_of_fighters
  · intro part
    refine Eq.trans ?_ (Bout.fighter_decided _ _ part).symm
    rw [Bout.fighter_between]
    rcases Role.eq_or_eq_other role part with rfl | rfl
    · rw [striker, Vitals.afterHit_striker, Vitals.drained_of_undrained (only.drains part)]
      rfl
    · rw [target, Vitals.afterHit_target, Bool.and_false]
      rfl
  · exact rolls_swing matchup role.mark _
  · rw [decided]
    apply decide_eq_decide.mpr
    exact Nat.sub_eq_zero_iff_le

theorem playRound_kill (role : Role) (rest : List Bool) (vitals : Role → Vitals) (rolls : ρ)
    (hits : (RollSource.roll rolls).1.val < (matchup.profileOf role).chanceToHit)
    (lethal : (vitals role.other).hitpoints ≤ (matchup.profileOf role).damage) :
    playRound matchup (role.mark :: rest) (.between vitals rolls) =
      { Bout.between
          (Vitals.afterHit vitals role (matchup.profileOf role) (matchup.profileOf role).damage)
          (RollSource.roll rolls).2 with
        decided := true } := by
  rw [playRound, only.swing_between role vitals rolls hits]
  simp only [lethal, decide_true, if_true]

theorem playRound_wound (role : Role) (rest : List Bool) (vitals : Role → Vitals) (rolls : ρ)
    (hits : (RollSource.roll rolls).1.val < (matchup.profileOf role).chanceToHit)
    (survived : ¬ (vitals role.other).hitpoints ≤ (matchup.profileOf role).damage) :
    playRound matchup (role.mark :: rest) (.between vitals rolls) =
      playRound matchup rest (.between
        (Vitals.afterHit vitals role (matchup.profileOf role) (matchup.profileOf role).damage)
        (RollSource.roll rolls).2) := by
  rw [playRound, only.swing_between role vitals rolls hits]
  simp only [survived, decide_false, Bool.false_eq_true, if_false]
  rfl

end DamageOnly

/-! ## Sources that yield the same rolls -/

/-- Two exchanges that differ in nothing but the source of their rolls. -/
structure Bout.SameSides {ρ ρ' : Type} (first : Bout ρ) (second : Bout ρ') : Prop where
  attacker : second.attacker = first.attacker
  defender : second.defender = first.defender
  decided : second.decided = first.decided

theorem Bout.SameSides.fighter {ρ ρ' : Type} {first : Bout ρ} {second : Bout ρ'}
    (same : first.SameSides second) (role : Role) : second.fighter role = first.fighter role := by
  cases role with
  | attacker => exact same.attacker
  | defender => exact same.defender

theorem Bout.SameSides.swing {ρ' : Type} [RollSource ρ'] {first : Bout ρ} {second : Bout ρ'}
    (same : first.SameSides second)
    (roll : (RollSource.roll second.rolls).1 = (RollSource.roll first.rolls).1)
    (matchup : Matchup) (mark : Bool) :
    (Simulation.swing matchup mark first).SameSides (Simulation.swing matchup mark second) := by
  unfold Simulation.swing
  cases mark with
  | true =>
      simp only [roll, same.attacker, same.defender, if_true]
      by_cases hits : (RollSource.roll first.rolls).1.val < matchup.attacker.chanceToHit
      · rw [if_pos hits, if_pos hits]
        exact ⟨rfl, rfl, rfl⟩
      · rw [if_neg hits, if_neg hits]
        exact ⟨rfl, rfl, same.decided⟩
  | false =>
      simp only [roll, same.attacker, same.defender, Bool.false_eq_true, if_false]
      by_cases hits : (RollSource.roll first.rolls).1.val < matchup.defender.chanceToHit
      · rw [if_pos hits, if_pos hits]
        exact ⟨rfl, rfl, rfl⟩
      · rw [if_neg hits, if_neg hits]
        exact ⟨rfl, rfl, same.decided⟩

/-- A round makes of its sides what the rolls make of them that it may draw. -/
theorem Bout.SameSides.playRound {ρ' : Type} [RollSource ρ'] (matchup : Matchup)
    (order : List Bool) :
    ∀ {first : Bout ρ} {second : Bout ρ'}, first.SameSides second →
      (RollSource.take order.length second.rolls).1 =
        (RollSource.take order.length first.rolls).1 →
      (Simulation.playRound matchup order first).SameSides
        (Simulation.playRound matchup order second) := by
  induction order with
  | nil =>
      intro first second same _
      exact same
  | cons mark rest ih =>
      intro first second same rolls
      rcases List.cons.inj rolls with ⟨roll, later⟩
      have swung := same.swing roll matchup mark
      simp only [Simulation.playRound, swung.decided]
      split
      · exact swung
      · apply ih swung
        rw [rolls_swing, rolls_swing]
        exact later

/-! ## The schedule as one round -/

theorem playRound_append (matchup : Matchup) (first second : List Bool) {bout : Bout ρ}
    (undecided : bout.decided = false) :
    playRound matchup (first ++ second) bout =
      if (playRound matchup first bout).decided then playRound matchup first bout
      else playRound matchup second (playRound matchup first bout) := by
  induction first generalizing bout with
  | nil => simp [playRound, undecided]
  | cons mark rest ih =>
      simp only [List.cons_append, playRound]
      by_cases decided : (swing matchup mark bout).decided = true
      · simp only [if_pos decided]
      · simp only [if_neg decided]
        exact ih (Bool.eq_false_iff.mpr decided)

theorem playRounds_eq (matchup : Matchup) (order : List Bool) (rounds : Nat) (bout : Bout ρ) :
    playRounds matchup order rounds bout =
      if bout.decided then bout
      else playRound matchup (List.replicate rounds order).flatten bout := by
  induction rounds generalizing bout with
  | zero => simp [playRounds, playRound]
  | succ rounds ih =>
      rw [playRounds]
      by_cases decided : bout.decided = true
      · rw [if_pos decided, if_pos decided]
      · have undecided := Bool.eq_false_iff.mpr decided
        rw [if_neg decided, if_neg decided, ih, List.replicate_succ, List.flatten_cons,
          playRound_append matchup _ _ undecided]

/-- A simulated exchange is one long round, played in the order of its schedule. -/
theorem run_eq_playRound (matchup : Matchup) (vitals : Role → Vitals) (rolls : ρ) :
    run matchup (vitals .attacker) (vitals .defender) rolls =
      playRound matchup matchup.schedule (.between vitals rolls) := by
  have rounds : max matchup.rounds 1 - 1 = matchup.rounds - 1 := by omega
  rw [Matchup.schedule, Schedule.exchange, playRound_append matchup _ _ rfl, rounds]
  exact playRounds_eq matchup _ _ _

end Simulation

/-- The schedule of a single round is that round, led by whoever strikes first. -/
theorem Matchup.schedule_of_oneRound {matchup : Matchup} (oneRound : matchup.rounds ≤ 1) :
    matchup.schedule = Schedule.round matchup.attacker.strikes matchup.defender.strikes
      (!matchup.defenderStrikesFirst) := by
  have single : max matchup.rounds 1 - 1 = 0 := by omega
  rw [schedule, Schedule.exchange, single]
  exact List.append_nil _

end Hexfield
