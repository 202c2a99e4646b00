import Hexfield.Scalar
import Hexfield.Schedule

namespace Hexfield
namespace Odds

/-!
Chances of doing damage with independent strikes.

The formulas are closed: sums of binomial terms, each obtained from the one before.  They know
nothing of units or of the board.
-/

variable {α : Type} [Scalar α]

/-- The number of ways to choose `k` of `n`, as a product of quotients.  It may be larger than any
fixed-width integer, so it is computed as a number. -/
@[specialize] def binomial (n k : Nat) : α :=
  if n < k then 0.0
  else
    let k := min k (n - k)
    (List.range' 1 k).foldl
      (fun product i => product * Scalar.ofNat (n - k + i) / Scalar.ofNat i) 1.0

/-- A number to the power of a count.  Exponents are words of thirty-two bits with a sign, so a
count from `2 ^ 31` on is a negative exponent. -/
@[specialize] def powerOfCount (x : α) (count : Nat) : α :=
  Scalar.integerPower x (signed32 count)

/-- The sum of the binomial terms from `hits` on, `terms` of them; `coefficient` is the number of
ways to choose `hits` of `strikes`. -/
@[specialize] def tailFrom (chance miss : α) (strikes : Nat) :
    (terms hits : Nat) → (coefficient total : α) → α
  | 0, _, _, total => total
  | terms + 1, hits, coefficient, total =>
      let term := coefficient * powerOfCount chance hits * powerOfCount miss (strikes - hits)
      let next := coefficient * Scalar.ofNat (strikes - hits) / Scalar.ofNat (hits + 1)
      tailFrom chance miss strikes terms (hits + 1) next (total + term)

/-- The hits of `damage` each that are needed for `total` damage. -/
def hitsNeeded (total damage : Nat) : Nat :=
  (total + damage - 1) / damage

/-- The chance that strikes with a given chance to hit and damage per hit do at least `least`
damage in total. -/
@[specialize] def atLeast (least : Int) (chance : α) (strikes damage : Nat) : α :=
  if least ≤ 0 then 1.0
  else if damage = 0 then 0.0
  else
    let needed := hitsNeeded least.toNat damage
    if strikes < needed then 0.0
    else
      Scalar.clampUnit
        (tailFrom chance (1.0 - chance) strikes (strikes - needed + 1) needed
          (binomial strikes needed) 0.0)

/-- The chance that strikes do at least `least` and less than `bound` damage in total. -/
@[specialize] def between (least bound : Int) (chance : α) (strikes damage : Nat) : α :=
  Scalar.larger (atLeast least chance strikes damage - atLeast bound chance strikes damage) 0.0

/-- One side of a round, as far as its chances go. -/
structure Striker (α : Type) where
  hitpoints : Nat
  damage : Nat
  chance : α
  strikes : Nat

/-- The chance that the first side kills the second exactly with the `n`-th swing of the round,
counted from zero, without having been killed before.

The last hit that is needed falls on this swing and the others anywhere before it, which makes one
binomial term; the second side's swings before this one must not have added up to the first side's
hitpoints. -/
@[specialize] def killDuringSwing (first second : Striker α) (firstLeads : Bool) (n : Nat) : α :=
  let order := Schedule.round first.strikes second.strikes firstLeads
  if order[n]? ≠ some true ∨ first.damage = 0 then 0.0
  else
    let own := (order.take (n + 1)).count true
    let opponents := (order.take n).count false
    let needed := hitsNeeded (max second.hitpoints 1) first.damage
    if own < needed then 0.0
    else
      let killNow :=
        binomial (own - 1) (needed - 1) * powerOfCount first.chance needed *
          powerOfCount (1.0 - first.chance) (own - needed)
      let survived :=
        1.0 - atLeast (signed32 first.hitpoints) second.chance opponents second.damage
      killNow * survived

end Odds
end Hexfield
