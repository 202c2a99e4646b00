import Hexfield.Duel
import Hexfield.Interchange.Encode

namespace Hexfield
namespace CommandLine

/-!
The report that the command line prints, in both of its forms.
-/

open Text (Json fixedNotation)

structure FullReport where
  scenario : String
  seed : Nat
  duel : Option Duel
  /-- The best attack plans. -/
  plans : List (Plan Float)

/-! ## As data -/

def duelToJson (duel : Duel) : Json :=
  .record
    [("stats", duel.matchup.toJson),
      ("strings", duel.breakdown.toJson),
      ("forecast", duel.forecast.toJson),
      ("summary", duel.summary.toJson),
      ("exchange", duel.exchange.toJson),
      ("events", .listOf .text duel.events),
      ("replay_matches", .boolean duel.replayMatches)]

def FullReport.toJson (report : FullReport) : Json :=
  .record
    [("scenario", .text report.scenario),
      ("seed", .natural report.seed),
      ("duel", .option duelToJson report.duel),
      ("plans", .listOf Plan.toJson report.plans)]

/-! ## As text -/

def padRight (width : Nat) (text : String) : String :=
  text ++ String.ofList (List.replicate (width - text.length) ' ')

def labelledLine (labelled : String × String) : String :=
  "  " ++ padRight 14 labelled.1 ++ " " ++ labelled.2

/-- A fraction in percent with a fixed number of places. -/
def percentage (places : Nat) (fraction : Float) : String :=
  fixedNotation places (fraction * 100.0) ++ "%"

def duelLines (duel : Duel) : List String :=
  ["Attacker:"] ++ duel.breakdown.attacker.map labelledLine ++
  ["Defender:"] ++ duel.breakdown.defender.map labelledLine ++
  ["Forecast: attacker kills " ++ percentage 1 duel.forecast.attackerKills ++
      ", defender kills " ++ percentage 1 duel.forecast.defenderKills,
    "Monte Carlo (" ++ toString duel.summary.trials ++ " trials): defender takes " ++
      fixedNotation 2 duel.summary.averageDamageToDefender ++ ", attacker takes " ++
      fixedNotation 2 duel.summary.averageDamageToAttacker ++ ", kill rate " ++
      percentage 1 duel.summary.defenderKilled,
    "Exchange ended " ++ Named.name duel.exchange.ending ++ " after " ++
      toString duel.exchange.swings.length ++ " swings"] ++
  duel.events.map ("  " ++ ·) ++
  ["Replay matches: " ++ toString duel.replayMatches]

/-- The lines of a plan, which is the `rank`-th best, counted from one. -/
def planLines (plan : Plan Float) (rank : Nat) : List String :=
  ("Plan " ++ toString rank ++ ": target " ++ plan.target.describe ++ " with " ++
    toString plan.movements.length ++ " attacker(s), rating " ++ fixedNotation 3 plan.rating ++
    ", kill chance " ++ percentage 0 plan.chanceToKill) ::
  plan.movements.map fun (unit, hex) =>
    "    " ++ unit.describe ++ " -> (" ++ toString hex.q ++ ", " ++ toString hex.r ++ ")"

def FullReport.lines (report : FullReport) : List String :=
  ["=== " ++ report.scenario ++ " (seed " ++ toString report.seed ++ ") ==="] ++
  (report.duel.map duelLines).getD [] ++
  (report.plans.zipIdx 1).flatMap fun (plan, rank) => planLines plan rank

def FullReport.toText (report : FullReport) : String :=
  String.join (report.lines.map (· ++ "\n"))

end CommandLine
end Hexfield
