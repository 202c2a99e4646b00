import Hexfield.Matchup
import Hexfield.Plan.Context
import Hexfield.Threat

namespace Hexfield

/-!
The hex from which an attacker should strike, and the weapon.

Of the free neighbours of the target in its reach an attacker takes the one with the best cover; a
backstabber values a hex twice that lets it stab.  Where cover is equal, it goes where the enemy can
bring less and its own side more.

Each of its weapons with a strike is rated by the damage it does on average, less the damage that
the answer to it does.  The bolder the attacker, the less the answer counts.
-/

/-- A hex to strike from. -/
structure Approach (α : Type) where
  /-- Where the hex lies, seen from the target. -/
  place : Direction
  hex : Hex
  /-- What the enemy can bring onto the hex. -/
  vulnerability : α
  /-- What the own side can bring onto the hex. -/
  support : α
  /-- Enemies crowd the hex. -/
  surrounded : Bool

namespace Battlefield

/-- The three pairs of opposite directions. -/
def axes : List (Direction × Direction) :=
  [(.east, .west), (.northEast, .southWest), (.northWest, .southEast)]

/-- Enemies of a side crowd a hex: two of them stand on opposite sides and a third one is near, or
there is at most one neighbour that they do not hold. -/
def isSurrounded (field : Battlefield) (side : Side) (hex : Hex) : Bool :=
  let held (direction : Direction) : Bool :=
    field.board.inBounds (hex.neighbor direction) && field.enemyAt (hex.neighbor direction) side
  let accessible := Direction.all.countP fun direction =>
    field.board.inBounds (hex.neighbor direction)
  let enemies := Direction.all.countP held
  let flanked := axes.any fun (direction, opposite) => held direction && held opposite
  (flanked && 2 < enemies) || accessible ≤ enemies + 1

end Battlefield

namespace Approach

variable {α ρ : Type} [Scalar α]

/-- What divides the vulnerability of a hex that the enemy crowds already. -/
@[specialize] def crowdingDivisor : α := 1.2

/-- How little a unit is hit on a hex; twice as much for one that can stab its target from there. -/
@[specialize] def coverRating (field : Battlefield) (unit : Combatant) (hex targetHex : Hex) : α :=
  let rating : α := Scalar.ofNat (100 - min (unit.chanceToBeHit (field.terrainAt hex)) 100)
  if unit.wields .backstab && field.canBackstab hex targetHex then rating * 2.0 else rating

/-- A unit can strike from a hex: it stands there, or no one does and it can get there. -/
def isOpen (context : Context α ρ) (id : UnitId) (unit : Combatant) (hex : Hex) : Bool :=
  context.field.board.inBounds hex &&
    (context.field.roster.idAt? hex).all (fun occupant => occupant == id) &&
    (unit.hex == hex || context.ownMoves.reaches id hex)

/-- The approach from one side of the target. -/
@[specialize] def ofPlace (context : Context α ρ) (place : Direction) (hex : Hex) : Approach α :=
  let surrounded := context.field.isSurrounded context.side hex
  let threat : α := Threat.onto context.field hex context.enemyMoves true
  { place, hex, surrounded
    vulnerability := if surrounded then threat / crowdingDivisor else threat
    support := Threat.onto context.field hex context.ownMoves false }

/-- The threat on an approach that the own side does not answer. -/
@[specialize] def danger (approach : Approach α) : α :=
  approach.vulnerability - approach.support

/-- The better rated of two approaches, the less dangerous one if they are rated equally, and the
first one if there is still no difference. -/
@[specialize] def prefer (best : Option (Approach α × α)) (candidate : Approach α × α) :
    Option (Approach α × α) :=
  match best with
  | none => some candidate
  | some leader =>
      if leader.2 < candidate.2 ∨ candidate.2 == leader.2 ∧ candidate.1.danger < leader.1.danger
      then some candidate
      else some leader

/-- The best approach of a unit to a target, on a side of it that is not taken. -/
@[specialize] def best? (context : Context α ρ) (id : UnitId) (unit : Combatant) (targetHex : Hex)
    (taken : List Direction) : Option (Approach α) :=
  let candidates := Direction.all.filterMap fun place =>
    let hex := targetHex.neighbor place
    if !taken.contains place && isOpen context id unit hex then
      some (Approach.ofPlace context place hex, coverRating context.field unit hex targetHex)
    else
      none
  (candidates.foldl prefer none).map Prod.fst

end Approach

/-! ## Weapons -/

/-- What an attack is worth: expected damage dealt, less the expected damage taken as far as
aggression does not make light of it. -/
@[specialize] def Matchup.worth {α : Type} [Scalar α] (matchup : Matchup) (aggression : α) : α :=
  matchup.attacker.expectedDamage - (1.0 - aggression) * matchup.defender.expectedDamage

namespace Battlefield

variable {α : Type} [Scalar α]

/-- The weapons of a unit that have a strike, by their indices. -/
def strikingWeapons (unit : Combatant) : List Nat :=
  (unit.weapons.zipIdx.filter fun (weapon, _) => weapon.strikes ≠ 0).map Prod.snd

/-- The weapon for an attack and the numbers of that attack: the first of those worth most; `none`,
if no weapon has a strike. -/
@[specialize] def chooseWeapon (field : Battlefield) (attacker defender : UnitId)
    (aggression : α) : Except Fault (Option (Nat × Matchup)) := do
  let unit ← field.unit attacker
  let candidates ← (strikingWeapons unit).mapM fun index => do
    let matchup ← field.matchup attacker defender index
    pure ((index, matchup), matchup.worth aggression)
  pure ((Choice.best? candidates).map Prod.fst)

end Battlefield

end Hexfield
