import Hexfield.Movement.MoveMaps

namespace Hexfield
namespace Threat

/-!
How much damage a group of units could bring onto one hex in a turn.

Each unit strikes from one hex and each hex holds one unit.  The neighbours of the hex are gone
through in order, and each takes the mover that rates best there; a mover that already stands at an
earlier neighbour comes over only when it rates at least as well, and its place there is then left
empty.
-/

variable {α : Type} [Scalar α]

/-- The damage of a round of strikes with a weapon at the present hour.  The product is a word of
sixty-four bits with a sign. -/
def damageWith (field : Battlefield) (unit : Combatant) (weapon : Weapon) : Nat :=
  let percent : Int :=
    (weapon.damage * unit.strikesWith weapon : Nat) * (100 + field.daylightBonus unit)
  (Int.tdiv (percent.bmod UInt64.size) 100).toNat

/-- The most damage that a unit could do in a round, by any of its weapons. -/
def mostDamage (field : Battlefield) (unit : Combatant) : Nat :=
  ((unit.weapons.map (damageWith field unit)).max?).getD 0

/-- The damage that a unit threatens when it strikes from a hex.  Without regard to terrain, half of
all strikes are taken to hit, and villages count for nothing. -/
@[specialize] def moverRating (field : Battlefield) (unit : Combatant) (origin : Hex)
    (useTerrain : Bool) : α :=
  let terrain := field.terrainAt origin
  let exposure : α :=
    if useTerrain then Scalar.percent (unit.chanceToBeHit terrain) else 0.5
  let village : α := if useTerrain && terrain.isVillage then 1.5 else 1.0
  unit.health * exposure * Scalar.ofNat (mostDamage field unit) * village

/-- The place of a mover around the hex. -/
structure Posting (α : Type) where
  mover : UnitId
  place : Direction
  rating : α

/-- The best mover so far for a place, and a further one.  It has to rate above zero, above the best
so far, and not below its own earlier posting. -/
@[specialize] def prefer (postings : List (Posting α)) (best : Option (UnitId × α))
    (candidate : UnitId × α) : Option (UnitId × α) :=
  let (mover, rating) := candidate
  if best.any (fun leader => rating ≤ leader.2) || rating ≤ 0.0 then best
  else
    match postings.find? (fun posting => posting.mover == mover) with
    | some earlier => if earlier.rating ≤ rating then some candidate else best
    | none => some candidate

/-- The postings with one more, in place of an earlier one of the same mover. -/
@[specialize] def assign (postings : List (Posting α)) (posting : Posting α) :
    List (Posting α) :=
  postings.filter (fun earlier => earlier.mover != posting.mover) ++ [posting]

/-- The movers that could strike from a hex, with their ratings there. -/
@[specialize] def candidates (field : Battlefield) (moves : MoveMaps) (useTerrain : Bool)
    (origin : Hex) : List (UnitId × α) :=
  (moves.movers origin).filterMap fun mover =>
    (field.roster.get? mover).map fun unit =>
      (mover, moverRating field unit origin useTerrain)

/-- The postings after one more neighbour of the hex has been gone through. -/
@[specialize] def post (field : Battlefield) (hex : Hex) (moves : MoveMaps) (useTerrain : Bool)
    (postings : List (Posting α)) (place : Direction) : List (Posting α) :=
  let origin := hex.neighbor place
  if field.board.inBounds origin then
    match (candidates field moves useTerrain origin).foldl (prefer postings) none with
    | some (mover, rating) => assign postings { mover, place, rating }
    | none => postings
  else
    postings

/-- Who would strike from where. -/
@[specialize] def postings (field : Battlefield) (hex : Hex) (moves : MoveMaps)
    (useTerrain : Bool) : List (Posting α) :=
  Direction.all.foldl (post field hex moves useTerrain) []

/-- The rating of the mover posted at a place; zero where no one is. -/
@[specialize] def ratingAt (postings : List (Posting α)) (place : Direction) : α :=
  match postings.find? (fun posting => posting.place == place) with
  | some posting => posting.rating
  | none => 0.0

/-- The damage that the movers together threaten on a hex: the sum over its neighbours, in order. -/
@[specialize] def onto (field : Battlefield) (hex : Hex) (moves : MoveMaps)
    (useTerrain : Bool) : α :=
  let posted := postings field hex moves useTerrain
  Scalar.sum (Direction.all.map (ratingAt posted))

end Threat
end Hexfield
