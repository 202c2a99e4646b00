namespace Hexfield

/-!
The number type of chances, weights and ratings, and the words in which counts are kept.

Every formula of the library that is not integer arithmetic is written once, for an arbitrary
`Scalar`.  Binary64 numbers are the type that runs; rational numbers are the type in which the
same formula can be reasoned about without rounding.  The class asks for operations only: laws
belong to the instances, because binary64 addition is not associative and has a value that
differs from itself.

Counts are natural numbers, but those of units and of swings, hitpoints, experience and damage are
kept in words of thirty-two bits.  Where a sum, a product or the number of a slot may outgrow the
word, only its low bits stay; where such a word is read with a sign, its highest bit is the sign.
-/

/-- The operations that a formula over chances and ratings may use. -/
class Scalar (α : Type) extends
    Add α, Sub α, Mul α, Div α, LT α, LE α, BEq α, OfScientific α where
  /-- The nearest number to an integer. -/
  ofInt : Int → α
  /-- The sum of no numbers, which changes no other number when it is added to it. -/
  sumOfNone : α
  decidableLT : DecidableLT α
  decidableLE : DecidableLE α

instance (priority := low) Scalar.instDecidableLT {α : Type} [Scalar α] : DecidableLT α :=
  Scalar.decidableLT

instance (priority := low) Scalar.instDecidableLE {α : Type} [Scalar α] : DecidableLE α :=
  Scalar.decidableLE

/-- The only binary64 number that changes no other when it is added is the negative zero. -/
instance : Scalar Float where
  ofInt := Float.ofInt
  sumOfNone := -0.0
  decidableLT := inferInstance
  decidableLE := inferInstance

instance : Scalar Rat where
  ofInt := fun n => (n : Rat)
  sumOfNone := 0
  decidableLT := inferInstance
  decidableLE := inferInstance

namespace Scalar

variable {α : Type} [Scalar α]

/-- The nearest number to a count. -/
@[specialize] def ofNat (n : Nat) : α :=
  ofInt (n : Int)

/-- The larger of two numbers.  A number that differs from itself yields to the other one. -/
@[specialize] def larger (a b : α) : α :=
  if a < b then b else if a == a then a else b

/-- The smaller of two numbers.  A number that differs from itself yields to the other one. -/
@[specialize] def smaller (a b : α) : α :=
  if b < a then b else if a == a then a else b

/-- The nearest point of the interval from zero to one. -/
@[specialize] def clampUnit (x : α) : α :=
  if x < 0.0 then 0.0 else if 1.0 < x then 1.0 else x

/-- The `k`-th power of `x` times `product`. -/
@[specialize] def powerFrom (x : α) (k : Nat) (product : α) : α :=
  let product := if k % 2 = 1 then product * x else product
  if k / 2 = 0 then product else powerFrom (x * x) (k / 2) product
termination_by k
decreasing_by omega

/-- The `k`-th power by repeated squaring: the low binary digit of `k` is used first, so the order
of the multiplications, and with it the rounding, is fixed. -/
@[specialize] def power (x : α) (k : Nat) : α :=
  powerFrom x k 1.0

/-- The power with an integer as its exponent.  A negative one gives the inverse of the power with
the opposite exponent. -/
@[specialize] def integerPower (x : α) (k : Int) : α :=
  if k < 0 then 1.0 / power x k.natAbs else power x k.natAbs

/-- The sum from left to right. -/
@[specialize] def sum (terms : List α) : α :=
  terms.foldl (· + ·) sumOfNone

/-- The `n`-th part in a hundred. -/
@[specialize] def percent (n : Nat) : α :=
  ofNat n / 100.0

end Scalar

/-! ## Words -/

/-- The number that the low thirty-two bits of a count denote when their highest bit is a sign. -/
def signed32 (count : Nat) : Int :=
  (count : Int).bmod UInt32.size

/-- Below the sign bit the reading changes nothing. -/
theorem signed32_of_lt {count : Nat} (small : 2 * count < UInt32.size) :
    signed32 count = count := by
  unfold signed32
  simp only [UInt32.size] at small ⊢
  rw [Int.bmod_eq_of_le] <;> omega

/-- The number that the low thirty-two bits of a number denote when their highest bit is a sign. -/
def wrap32 (number : Int) : Int :=
  number.bmod UInt32.size

/-- The low thirty-two bits of a count. -/
def low32 (count : Nat) : Nat :=
  count % UInt32.size

theorem low32_of_lt {count : Nat} (small : count < UInt32.size) : low32 count = count :=
  Nat.mod_eq_of_lt small

theorem low32_lt (count : Nat) : low32 count < UInt32.size :=
  Nat.mod_lt count (by decide)

theorem low32_le (count : Nat) : low32 count ≤ count :=
  Nat.mod_le count UInt32.size

end Hexfield
