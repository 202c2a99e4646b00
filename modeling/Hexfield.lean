import Hexfield.Interchange.Decode
import Hexfield.Loading.Folder
import Hexfield.Main
import Hexfield.Proofs.Board.Ground
import Hexfield.Proofs.Damage.Slowing
import Hexfield.Proofs.Exchange.Contagion
import Hexfield.Proofs.Exchange.Counterstroke
import Hexfield.Proofs.Exchange.Removals
import Hexfield.Proofs.Exchange.Replay
import Hexfield.Proofs.Exchange.Stone
import Hexfield.Proofs.Forecast.Exact
import Hexfield.Proofs.Matchup.Locality
import Hexfield.Proofs.Odds.Binomial
import Hexfield.Proofs.Plan.Armament
import Hexfield.Proofs.Plan.Backtracking
import Hexfield.Proofs.Plan.Exposure
import Hexfield.Proofs.Plan.Memory
import Hexfield.Proofs.Plan.Pruning
import Hexfield.Proofs.Plan.Shortlist
import Hexfield.Proofs.Plan.Stakes
import Hexfield.Proofs.Plan.Stations
import Hexfield.Proofs.Plan.Vantage
import Hexfield.Proofs.Scenario.Duelling
import Hexfield.Proofs.Schedule.Alternation
import Hexfield.Proofs.Simulation.Dominance
import Hexfield.Proofs.Simulation.Mirror
import Hexfield.Proofs.Threat.Rivalry
import Hexfield.Proofs.Weapon.Swarm
