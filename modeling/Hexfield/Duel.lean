import Hexfield.Exchange
import Hexfield.Forecast
import Hexfield.Scenario
import Hexfield.Simulation

namespace Hexfield

/-!
The duel that a scenario is about, told in all detail.

Its numbers are explained, its first round is forecast, and it is simulated many times.  Then it is
fought once, and a follower with other rolls of its own fights it again along the published records.
-/

structure Duel where
  matchup : Matchup
  breakdown : Breakdown
  forecast : Forecast Float
  summary : Simulation.Summary Float
  exchange : Report
  /-- What was announced, in words. -/
  events : List String
  /-- The follower's combatants end with the same hitpoints. -/
  replayMatches : Bool

namespace Duel

variable {ρ : Type} [RollSource ρ]

def hitpointsOf (field : Battlefield) (id : UnitId) : Option Nat :=
  (field.roster.get? id).map Combatant.hitpoints

/-- An attack that is recorded, on a field of its own.  There is no report, if it could not
start. -/
@[specialize] def recorded (scenario : Scenario) (attacker defender : UnitId) (weapon : Nat)
    (given : List SwingRecord) (rolls : ρ) :
    Except Fault (Option Report × Scene ρ EventLog) :=
  let scene : Scene ρ EventLog := { field := scenario.field, rolls, memory := {} }
  match scene.resolve Observer.recorder scenario.catalog attacker defender weapon given with
  | (.ok report, scene) => .ok (some report, scene)
  | (.error fault, scene) => if fault.isViolation then .error fault else .ok (none, scene)

/-- The account of an attack.  Simulation and fight begin with the same rolls.  There is none, if
the attack cannot start. -/
@[specialize] def fight (scenario : Scenario) (attacker defender : UnitId) (weapon trials : Nat)
    (rolls followerRolls : ρ) : Except Fault (Option Duel) := do
  let field := scenario.field
  let pairing ← field.pairing attacker defender weapon
  let matchup := pairing.matchup field
  let (fought, lead) ← recorded scenario attacker defender weapon [] rolls
  match fought with
  | none => pure none
  | some exchange =>
      let (replayed, follower) ←
        recorded scenario attacker defender weapon exchange.records followerRolls
      let same (id : UnitId) : Bool :=
        hitpointsOf lead.field id == hitpointsOf follower.field id
      pure (some
        { matchup
          breakdown := pairing.breakdown field
          forecast := Forecast.ofMatchup matchup pairing.attacker.hitpoints
            pairing.defender.hitpoints
          summary := (Simulation.runTrials matchup pairing.attacker.vitals
            pairing.defender.vitals trials rolls).1
          exchange
          events := lead.memory.events.toList.map fun event => event.announcement.describe
          replayMatches := replayed.isSome && same attacker && same defender })

/-- The account of the duel of a scenario, if it has one that can start. -/
@[specialize] def ofScenario (scenario : Scenario) (trials : Nat) (rolls followerRolls : ρ) :
    Except Fault (Option Duel) :=
  match scenario.duel with
  | none => .ok none
  | some (attacker, defender, weapon) =>
      fight scenario attacker defender weapon trials rolls followerRolls

end Duel

end Hexfield
