import Hexfield.CommandLine.Options
import Hexfield.CommandLine.Report
import Hexfield.Dice.Seeded
import Hexfield.Plan.Search

namespace Hexfield
namespace CommandLine

/-!
What the command line does: it loads a scenario, tells of its duel, and looks for attack plans.

Files are read through a function that is passed in, so the whole run is a function of the arguments
and the files.
-/

inductive Outcome where
  /-- The arguments make no sense. -/
  | badArguments
  /-- There is no scenario. -/
  | noScenario
  /-- The duel names a weapon that its attacker does not have. -/
  | violated (fault : Fault)
  /-- There is a report; the flag says whether it is wanted as text. -/
  | told (asText : Bool) (report : FullReport)

namespace Outcome

def exitCode : Outcome → Nat
  | told _ _ => 0
  | noScenario => 1
  | badArguments => 2
  | violated _ => 101

def output : Outcome → String
  | told true report => report.toText
  | told false report => report.toJson.pretty ++ "\n"
  | _ => ""

end Outcome

/-- The personality with which plans are made.  One that cannot be loaded is replaced by the default
one, and a seed of the command line by that seed. -/
def choosePersonality (options : Options) (content : Option String) : Personality Float :=
  let personality :=
    match Personality.load options.personality content with
    | .ok personality => personality
    | .error _ => Personality.ofName "default"
  match options.seed with
  | some seed => { personality with seed }
  | none => personality

/-- The side that the plans are for: the one asked for, or the one that the scenario names, or the
first. -/
def chooseSide (options : Options) (scenario : Scenario) : Side :=
  ((options.side.map Side.mk) <|> scenario.aiSide).getD ⟨1⟩

def bestPlans (scenario : Scenario) (side : Side) (personality : Personality Float) (top : Nat) :
    Except Fault (List (Plan Float)) :=
  let context := Context.begin scenario.field side personality Pathfinder.terrain []
    (SeededDice.ofSeed personality.seed.toUInt64)
  match Search.attacks.run context with
  | .ok plans _ => .ok (plans.take top)
  | .error fault _ => .error fault

/-- A run with the arguments understood and the scenario loaded.  The follower of the duel has the
next seed. -/
def report {m : Type → Type} [Monad m] (read : String → m (Option String)) (options : Options)
    (seed : Nat) (scenario : Scenario) : m Outcome := do
  match Duel.ofScenario scenario options.trials (SeededDice.ofSeed seed.toUInt64)
      (SeededDice.ofSeed (seed.toUInt64 + 1)) with
  | .error fault => pure (.violated fault)
  | .ok duel =>
      let plans ←
        if options.search then do
          let personality :=
            choosePersonality options (← read (Personality.path options.personality))
          pure (bestPlans scenario (chooseSide options scenario) personality options.top)
        else
          pure (.ok [])
      match plans with
      | .error fault => pure (.violated fault)
      | .ok plans =>
          pure (.told (options.format == "text") { scenario := scenario.name, seed, duel, plans })

/-- A run: `read` gives the content of a file, if there is one, and `anySeed` a seed for those who
do not ask for one. -/
def run {m : Type → Type} [Monad m] (read : String → m (Option String)) (anySeed : m Nat)
    (arguments : List String) : m Outcome := do
  match Options.parse? arguments with
  | none => pure .badArguments
  | some options =>
      match Scenario.load (← read options.scenario) with
      | .error _ => pure .noScenario
      | .ok scenario =>
          let seed ←
            match options.seed with
            | some seed => pure seed
            | none => anySeed
          report read options seed scenario

end CommandLine
end Hexfield
