import Hexfield.Toml.Quoted
import Hexfield.Toml.Value

namespace Hexfield
namespace Toml
namespace Number

/-!
Numbers and moments in time.

Digits may be grouped by single underscores.  Integers have sixty-four bits; decimal ones may have a
sign, but no zeros in front.  Dates and times must exist.
-/

open Hexfield.Toml.Parser

/-! ## Digits -/

/-- More digits of a number, each of which may have an underscore before it. -/
def moreDigits (isDigit : Char → Bool) : List Char → List Char × List Char
  | '_' :: c :: rest =>
      if isDigit c then
        let (digits, rest) := moreDigits isDigit rest
        (c :: digits, rest)
      else
        ([], '_' :: c :: rest)
  | c :: rest =>
      if isDigit c then
        let (digits, rest) := moreDigits isDigit rest
        (c :: digits, rest)
      else
        ([], c :: rest)
  | [] => ([], [])

/-- Digits, the first of them without an underscore. -/
def digits (isDigit : Char → Bool) : Parser (List Char)
  | c :: rest =>
      if isDigit c then
        let (more, rest) := moreDigits isDigit rest
        some (c :: more, rest)
      else
        none
  | [] => none

/-- The value of digits in a base. -/
def valueOf (base : Nat) (digits : List Char) : Nat :=
  digits.foldl (fun value c =>
    base * value +
      (if c.isDigit then c.toNat - '0'.toNat
       else if 'a' ≤ c then c.toNat - 'a'.toNat + 10
       else c.toNat - 'A'.toNat + 10)) 0

/-- A sign; whether it is a minus. -/
def sign : Parser Bool := do
  match ← attempt (one fun c => c == '+' || c == '-') with
  | some c => pure (c == '-')
  | none => pure false

/-- A decimal number without superfluous zeros: its sign and its digits. -/
def decimal : Parser (Bool × List Char) := do
  let negative ← sign
  let found ← orElse
    (do
      let _ ← ahead (one fun c => c.isDigit && c != '0')
      digits Char.isDigit)
    (do pure [← one Char.isDigit])
  pure (negative, found)

/-! ## Integers -/

/-- An integer of sixty-four bits. -/
def bounded (n : Int) : Option Int :=
  if Int64.minValue.toInt ≤ n ∧ n ≤ Int64.maxValue.toInt then some n else none

/-- An integer in another base, behind the mark of that base. -/
def inBase (mark : String) (base : Nat) (isDigit : Char → Bool) : Parser Int := do
  exactly mark
  let found ← digits isDigit
  bounded (valueOf base found)

def integer : Parser Int :=
  orElse (inBase "0x" 16 Quoted.isHexDigit)
    (orElse (inBase "0o" 8 fun c => '0' ≤ c && c ≤ '7')
      (orElse (inBase "0b" 2 fun c => c == '0' || c == '1')
        (do
          let (negative, found) ← decimal
          let size : Int := valueOf 10 found
          bounded (if negative then -size else size))))

/-! ## Floating-point numbers -/

/-- The number nearest to `significand * 10 ^ exponent`.  Beyond the bounds it is infinite or zero
without further computing. -/
def nearest (significand : Nat) (exponent : Int) : Float :=
  let leading := ((Nat.toDigits 10 significand).length : Int) + exponent
  if significand = 0 ∨ leading < -400 then 0.0
  else if 400 < leading then 1.0 / 0.0
  else Float.ofScientific (significand * Nat.pow 10 exponent.toNat) true (-exponent).toNat

def fraction : Parser (List Char) := do
  exactly "."
  digits Char.isDigit

/-- The power of ten behind its mark. -/
def power : Parser Int := do
  let _ ← one fun c => c == 'e' || c == 'E'
  let negative ← sign
  let found ← digits Char.isDigit
  let size : Int := valueOf 10 found
  pure (if negative then -size else size)

/-- A number with a fraction, a power of ten or both.  It must not be too large to be finite. -/
def floatingPoint : Parser Float := do
  let (negative, before) ← decimal
  let behind ← attempt fraction
  let exponent ← attempt power
  if behind.isNone && exponent.isNone then failure
  let behind := behind.getD []
  let value := nearest (valueOf 10 (before ++ behind)) (exponent.getD 0 - behind.length)
  if negative then pure (-value)
  else if value == 1.0 / 0.0 then failure
  else pure value

/-- Infinity, and what is no number. -/
def special : Parser Float := do
  let negative ← sign
  let value ← orElse (do exactly "inf"; pure (1.0 / 0.0 : Float))
    (do exactly "nan"; pure (0.0 / 0.0 : Float))
  pure (if negative then -value else value)

/-! ## Moments -/

/-- A number of exactly so many digits between two bounds. -/
def field (count least greatest : Nat) : Parser Nat := do
  let found ← repeatUpTo (one Char.isDigit) count
  let value := valueOf 10 found
  if found.length = count ∧ least ≤ value ∧ value ≤ greatest then pure value else failure

/-- The days of a month. -/
def daysIn (year month : Nat) : Nat :=
  if month = 2 then
    if year % 4 = 0 ∧ (year % 100 ≠ 0 ∨ year % 400 = 0) then 29 else 28
  else if month = 4 ∨ month = 6 ∨ month = 9 ∨ month = 11 then 30
  else 31

def date : Parser Unit := do
  let year ← field 4 0 9999
  exactly "-"
  let month ← field 2 1 12
  exactly "-"
  let _ ← field 2 1 (daysIn year month)

def time : Parser Unit := do
  let _ ← field 2 0 23
  exactly ":"
  let _ ← field 2 0 59
  exactly ":"
  let _ ← field 2 0 60
  let _ ← attempt (do exactly "."; someOf Char.isDigit)

/-- The distance from universal time. -/
def zone : Parser Unit :=
  orElse (do let _ ← one fun c => c == 'Z' || c == 'z')
    (do
      let _ ← one fun c => c == '+' || c == '-'
      let _ ← field 2 0 23
      exactly ":"
      let _ ← field 2 0 59)

/-- A date, a date with a time, or a time. -/
def moment : Parser Unit :=
  orElse
    (do
      date
      let _ ← attempt (do
        let _ ← one fun c => c == 'T' || c == 't' || c == ' '
        time
        attempt zone))
    time

/-- What a parser took. -/
def written (parser : Parser Unit) : Parser String := fun text =>
  (parser text).map fun (_, rest) =>
    (String.ofList (text.take (text.length - rest.length)), rest)

/-- A value that begins with a sign or a digit, or one of the special numbers. -/
def value : Parser Value :=
  orElse (do pure (.moment (← written moment)))
    (orElse (do pure (.float (← orElse floatingPoint special)))
      (do pure (.integer (← integer))))

end Number
end Toml
end Hexfield
