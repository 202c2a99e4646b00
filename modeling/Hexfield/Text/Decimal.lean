namespace Hexfield
namespace Text

/-!
Binary64 numbers in decimal notation.

A finite number is a natural multiple of a power of two.  Two notations are derived from it, both
in exact arithmetic: the fewest digits that are read back as the same number, and a rounding to a
fixed number of places.  Where a style puts the point, and when it turns to powers of ten, is kept
apart from the digits.
-/

/-! ## Numbers taken apart -/

/-- A binary64 number taken apart; a finite one is `significand * 2 ^ exponent`. -/
inductive Numeral where
  | nan
  | infinite (negative : Bool)
  | finite (negative : Bool) (significand : Nat) (exponent : Int)
deriving DecidableEq

/-- The leading bit of a significand, which the bits of a number leave out. -/
def hiddenBit : Nat :=
  1 <<< 52

def Numeral.ofFloat (x : Float) : Numeral :=
  let bits := x.toBits.toNat
  let negative := bits >>> 63 == 1
  let biased : Nat := (bits >>> 52) % 2048
  let fraction : Nat := bits % hiddenBit
  if biased = 2047 then
    if fraction = 0 then infinite negative else nan
  else if biased = 0 then
    finite negative fraction (-1074)
  else
    finite negative (hiddenBit + fraction) ((biased : Int) - 1075)

/-- The quotient `significand * 2 ^ exponent / 10 ^ unit` as a fraction. -/
def ratio (significand : Nat) (exponent unit : Int) : Nat × Nat :=
  ((significand <<< exponent.toNat) * Nat.pow 10 (-unit).toNat,
    Nat.pow 10 unit.toNat <<< (-exponent).toNat)

/-! ## Rounding -/

/-- Where an exact half goes. -/
inductive HalfRule where
  /-- To the even neighbour. -/
  | even
  /-- To the neighbour that is farther from zero. -/
  | up
deriving DecidableEq

/-- The integer nearest to a fraction. -/
def roundHalf (rule : HalfRule) (numerator denominator : Nat) : Nat :=
  let quotient := numerator / denominator
  let rest := 2 * (numerator % denominator)
  if rest < denominator ∨ rest = denominator ∧ rule = .even ∧ quotient % 2 = 0 then quotient
  else quotient + 1

/-- Rounding errs by half a unit at most. -/
theorem roundHalf_near (rule : HalfRule) (numerator : Nat) {denominator : Nat}
    (positive : 0 < denominator) :
    2 * numerator ≤ (2 * roundHalf rule numerator denominator + 1) * denominator ∧
      2 * (roundHalf rule numerator denominator * denominator) ≤
        2 * numerator + denominator := by
  have parts := Nat.div_add_mod numerator denominator
  have commuted : numerator / denominator * denominator =
      denominator * (numerator / denominator) := Nat.mul_comm _ _
  simp only [roundHalf]
  split
  · rename_i down
    rw [Nat.add_mul, Nat.mul_assoc, commuted, Nat.one_mul]
    omega
  · rename_i up
    have small := Nat.mod_lt numerator positive
    simp only [Nat.mul_add, Nat.add_mul, Nat.mul_assoc, commuted, Nat.one_mul]
    omega

/-! ## The fewest digits -/

private def digitCount (n : Nat) : Nat :=
  (Nat.toDigits 10 n).length

/-- The exponent of the leading decimal digit of a positive number. -/
def leadingExponent (significand : Nat) (exponent : Int) : Int :=
  let (numerator, denominator) := ratio significand exponent 0
  if denominator ≤ numerator then (digitCount (numerator / denominator) : Int) - 1
  else -(digitCount ((numerator + denominator - 1) / numerator - 1) : Int)

/-- Whether `digits * 10 ^ unit` is read as the number `significand * 2 ^ exponent`: it lies between
the midpoints to both neighbours, or on one of them and the significand is even. -/
def readsAs (significand : Nat) (exponent : Int) (digits : Nat) (unit : Int) : Bool :=
  let below := if significand = hiddenBit ∧ -1074 < exponent then 1 else 2
  let (_, denominator) := ratio 1 (exponent - 2) unit
  let (low, _) := ratio (4 * significand - below) (exponent - 2) unit
  let (high, _) := ratio (4 * significand + 2) (exponent - 2) unit
  let scaled := digits * denominator
  if significand % 2 = 0 then low ≤ scaled && scaled ≤ high else low < scaled && scaled < high

/-- The multiple of a power of ten that is nearest to a number among those that are read as it. -/
def nearestAt? (rule : HalfRule) (significand : Nat) (exponent unit : Int) : Option Nat :=
  let (numerator, denominator) := ratio significand exponent unit
  let nearest := roundHalf rule numerator denominator
  let floor := numerator / denominator
  ([nearest, floor, floor + 1].filter fun digits => readsAs significand exponent digits unit).head?

private def withoutTrailingZeros (digits : Nat) (unit : Int) : Nat × Int :=
  if digits = 0 ∨ digits % 10 ≠ 0 then (digits, unit)
  else withoutTrailingZeros (digits / 10) (unit + 1)
termination_by digits
decreasing_by omega

/-- The fewest digits that are read as a number, and the exponent of the last of them.  Seventeen
digits are always enough. -/
def shortest (rule : HalfRule) (significand : Nat) (exponent : Int) : Nat × Int :=
  if significand = 0 then (0, 0)
  else
    let leading := leadingExponent significand exponent
    let found := (List.range 17).findSome? fun (more : Nat) =>
      let unit := leading - more
      (nearestAt? rule significand exponent unit).map fun digits => (digits, unit)
    match found with
    | some (digits, unit) => withoutTrailingZeros digits unit
    | none => (significand, exponent)

/-! ## Notation -/

/-- How numbers with few digits are written. -/
structure NumeralStyle where
  /-- Which of two equally near numbers with the fewest digits is written. -/
  half : HalfRule
  /-- What stands behind a whole number. -/
  wholeMark : String
  /-- Whether a number is written out, and not with a power of ten, when its point stands behind
  this many of its digits. -/
  writtenOut : Int → Bool

namespace NumeralStyle

/-- Always written out, and whole numbers without a point. -/
def plain : NumeralStyle :=
  { half := .up, wholeMark := "", writtenOut := fun _ => true }

/-- Whole numbers end in a zero behind the point, and numbers from `10 ^ 16` on or below `10 ^ -5`
have a power of ten. -/
def interchange : NumeralStyle :=
  { half := .even, wholeMark := ".0", writtenOut := fun point => -5 < point && point ≤ 16 }

end NumeralStyle

private def zeros (count : Nat) : String :=
  String.ofList (List.replicate count '0')

/-- The digits of a number, with a point before the last `places` of them. -/
private def withPoint (digits : Nat) (places : Nat) : String :=
  let text := toString digits
  let padded := zeros (places + 1 - text.length) ++ text
  if places = 0 then padded
  else
    let whole := padded.length - places
    String.ofList (padded.toList.take whole) ++ "." ++ String.ofList (padded.toList.drop whole)

/-- A number without its sign: `digits * 10 ^ unit`. -/
private def writeDigits (style : NumeralStyle) (digits : Nat) (unit : Int) : String :=
  let text := toString digits
  let point := (text.length : Int) + unit
  if digits = 0 then "0" ++ style.wholeMark
  else if style.writtenOut point then
    if 0 ≤ unit then text ++ zeros unit.toNat ++ style.wholeMark
    else withPoint digits (-unit).toNat
  else
    let first := String.ofList (text.toList.take 1)
    let others := String.ofList (text.toList.drop 1)
    (if others.isEmpty then first else first ++ "." ++ others) ++ "e" ++ toString (point - 1)

private def withSign (negative : Bool) (text : String) : String :=
  if negative then "-" ++ text else text

/-- A number that is infinite or none at all. -/
private def writeSpecial (negative : Bool) : String :=
  withSign negative "inf"

/-- A number with the fewest digits that are read back as it. -/
def shortestNotation (style : NumeralStyle) (x : Float) : String :=
  match Numeral.ofFloat x with
  | .nan => "NaN"
  | .infinite negative => writeSpecial negative
  | .finite negative significand exponent =>
      let (digits, unit) := shortest style.half significand exponent
      withSign negative (writeDigits style digits unit)

/-- A number with a fixed number of places behind the point; a half goes to the even neighbour. -/
def fixedNotation (places : Nat) (x : Float) : String :=
  match Numeral.ofFloat x with
  | .nan => "NaN"
  | .infinite negative => writeSpecial negative
  | .finite negative significand exponent =>
      let (numerator, denominator) := ratio significand exponent (-(places : Int))
      withSign negative (withPoint (roundHalf .even numerator denominator) places)

end Text
end Hexfield
