import Hexfield.Dice
import Hexfield.Matchup
import Hexfield.Schedule

namespace Hexfield

/-!
Exchanges played out on fixed numbers.

A simulated exchange takes a matchup as given and follows hitpoints only.  Slow is the one thing
that changes the numbers on the way: the damage of a slowed side is halved from then on.
-/

structure Vitals where
  hitpoints : Nat
  maxHitpoints : Nat
deriving DecidableEq

def Combatant.vitals (unit : Combatant) : Vitals :=
  { hitpoints := unit.hitpoints, maxHitpoints := unit.maxHitpoints }

namespace Simulation

/-- One side in the course of a simulated exchange. -/
structure Fighter where
  hitpoints : Nat
  maxHitpoints : Nat
  slowed : Bool := false
  petrified : Bool := false
deriving DecidableEq

def Fighter.ofVitals (vitals : Vitals) : Fighter :=
  { hitpoints := vitals.hitpoints, maxHitpoints := vitals.maxHitpoints }

/-- What a hit of a side does by now. -/
def Fighter.damage (fighter : Fighter) (profile : StrikeProfile) : Nat :=
  if fighter.slowed then roundDamage profile.damage 1 2 else profile.damage

/-- The two sides after a hit of the first on the second.  Damage comes first, then the drain, and
only a target that survives is slowed or petrified. -/
def hit (profile : StrikeProfile) (striker target : Fighter) : Fighter × Fighter :=
  let dealt := min (striker.damage profile) target.hitpoints
  let target := { target with hitpoints := target.hitpoints - dealt }
  let striker :=
    if profile.drains then
      { striker with hitpoints := min (low32 (striker.hitpoints + dealt / 2)) striker.maxHitpoints }
    else
      striker
  if target.hitpoints = 0 then (striker, target)
  else
    (striker,
      { target with
        slowed := target.slowed || profile.slows
        petrified := target.petrified || profile.petrifies })

structure Bout (ρ : Type) where
  attacker : Fighter
  defender : Fighter
  rolls : ρ
  /-- A hit has killed or petrified its target. -/
  decided : Bool := false

variable {ρ : Type} [RollSource ρ]

/-- One swing, of the attacker or of the defender. -/
@[specialize] def swing (matchup : Matchup) (attackerSwings : Bool) (bout : Bout ρ) : Bout ρ :=
  let profile := if attackerSwings then matchup.attacker else matchup.defender
  let (roll, rolls) := RollSource.roll bout.rolls
  if roll.val < profile.chanceToHit then
    if attackerSwings then
      let (attacker, defender) := hit profile bout.attacker bout.defender
      { attacker, defender, rolls
        decided := defender.hitpoints = 0 || profile.petrifies }
    else
      let (defender, attacker) := hit profile bout.defender bout.attacker
      { attacker, defender, rolls
        decided := attacker.hitpoints = 0 || profile.petrifies }
  else
    { bout with rolls }

/-- The swings of a round, until the exchange is over. -/
@[specialize] def playRound (matchup : Matchup) : List Bool → Bout ρ → Bout ρ
  | [], bout => bout
  | attackerSwings :: rest, bout =>
      let bout := swing matchup attackerSwings bout
      if bout.decided then bout else playRound matchup rest bout

/-- A number of rounds, each led by the attacker, until the exchange is over. -/
@[specialize] def playRounds (matchup : Matchup) (order : List Bool) : Nat → Bout ρ → Bout ρ
  | 0, bout => bout
  | rounds + 1, bout =>
      if bout.decided then bout
      else playRounds matchup order rounds (playRound matchup order bout)

/-- The exchange after its last swing, with the rolls that are left. -/
@[specialize] def run (matchup : Matchup) (attacker defender : Vitals) (rolls : ρ) : Bout ρ :=
  let strikes := Schedule.round matchup.attacker.strikes matchup.defender.strikes
  let bout : Bout ρ :=
    { attacker := .ofVitals attacker, defender := .ofVitals defender, rolls }
  let bout := playRound matchup (strikes (!matchup.defenderStrikesFirst)) bout
  playRounds matchup (strikes true) (matchup.rounds - 1) bout

/-- How a simulated exchange ends. -/
structure Outcome where
  attackerHitpoints : Nat
  defenderHitpoints : Nat
  attackerPetrified : Bool
  defenderPetrified : Bool
  attackerSlowed : Bool
  defenderSlowed : Bool
deriving DecidableEq

namespace Outcome

def attackerDied (outcome : Outcome) : Bool :=
  outcome.attackerHitpoints == 0

def defenderDied (outcome : Outcome) : Bool :=
  outcome.defenderHitpoints == 0

end Outcome

def Bout.outcome (bout : Bout ρ) : Outcome :=
  { attackerHitpoints := bout.attacker.hitpoints
    defenderHitpoints := bout.defender.hitpoints
    attackerPetrified := bout.attacker.petrified
    defenderPetrified := bout.defender.petrified
    attackerSlowed := bout.attacker.slowed
    defenderSlowed := bout.defender.slowed }

@[specialize] def play (matchup : Matchup) (attacker defender : Vitals) (rolls : ρ) :
    Outcome × ρ :=
  let bout := run matchup attacker defender rolls
  (bout.outcome, bout.rolls)

structure Summary (α : Type) where
  trials : Nat
  defenderKilled : α
  attackerKilled : α
  averageDamageToDefender : α
  averageDamageToAttacker : α

variable {α : Type} [Scalar α]

/-- The sums with one more exchange.  A defender that ends above where it started counts as
unhurt; an attacker that does counts with negative damage. -/
@[specialize] def Summary.add (attacker defender : Vitals) (summary : Summary α)
    (outcome : Outcome) : Summary α :=
  { trials := summary.trials
    defenderKilled :=
      if outcome.defenderDied then summary.defenderKilled + 1.0 else summary.defenderKilled
    attackerKilled :=
      if outcome.attackerDied then summary.attackerKilled + 1.0 else summary.attackerKilled
    averageDamageToDefender :=
      summary.averageDamageToDefender +
        Scalar.ofNat (defender.hitpoints - outcome.defenderHitpoints)
    averageDamageToAttacker :=
      summary.averageDamageToAttacker +
        (Scalar.ofNat attacker.hitpoints - Scalar.ofNat outcome.attackerHitpoints) }

/-- The sums over a number of exchanges that draw from one source. -/
@[specialize] def accumulate (matchup : Matchup) (attacker defender : Vitals) :
    Nat → Summary α → ρ → Summary α × ρ
  | 0, summary, rolls => (summary, rolls)
  | trials + 1, summary, rolls =>
      let (outcome, rolls) := play matchup attacker defender rolls
      accumulate matchup attacker defender trials (summary.add attacker defender outcome) rolls

/-- The averages over a number of exchanges that draw from one source. -/
@[specialize] def runTrials (matchup : Matchup) (attacker defender : Vitals) (trials : Nat)
    (rolls : ρ) : Summary α × ρ :=
  let start : Summary α :=
    { trials, defenderKilled := 0.0, attackerKilled := 0.0
      averageDamageToDefender := 0.0, averageDamageToAttacker := 0.0 }
  if trials = 0 then (start, rolls)
  else
    let (sums, rolls) := accumulate matchup attacker defender trials start rolls
    let n : α := Scalar.ofNat trials
    ({ trials
       defenderKilled := sums.defenderKilled / n
       attackerKilled := sums.attackerKilled / n
       averageDamageToDefender := sums.averageDamageToDefender / n
       averageDamageToAttacker := sums.averageDamageToAttacker / n }, rolls)

end Simulation

end Hexfield
