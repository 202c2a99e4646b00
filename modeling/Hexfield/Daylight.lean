import Hexfield.Text

namespace Hexfield

/-!
The six phases of the day and how they help or hinder units of each alignment.
-/

/-- Which part of the day suits a unit. -/
inductive Alignment where
  | lawful
  | neutral
  | chaotic
deriving DecidableEq

inductive TimeOfDay where
  | dawn
  | morning
  | afternoon
  | dusk
  | firstWatch
  | secondWatch
deriving DecidableEq

instance : Named Alignment where
  all := [.lawful, .neutral, .chaotic]
  name
    | .lawful => "lawful"
    | .neutral => "neutral"
    | .chaotic => "chaotic"

namespace TimeOfDay

instance : Named TimeOfDay where
  all := [dawn, morning, afternoon, dusk, firstWatch, secondWatch]
  name
    | dawn => "dawn"
    | morning => "morning"
    | afternoon => "afternoon"
    | dusk => "dusk"
    | firstWatch => "first_watch"
    | secondWatch => "second_watch"

/-- The phase of a turn.  Turns are counted from one; turn zero counts as the first. -/
def ofTurn (turn : Nat) : TimeOfDay :=
  match (turn - 1) % 6 with
  | 0 => dawn
  | 1 => morning
  | 2 => afternoon
  | 3 => dusk
  | 4 => firstWatch
  | _ => secondWatch

/-- The damage bonus of lawful units, in percent. -/
def lawfulBonus : TimeOfDay → Int
  | morning | afternoon => 25
  | dawn | dusk => 0
  | firstWatch | secondWatch => -25

/-- The damage bonus of units of an alignment, in percent: what helps the lawful hinders the
chaotic. -/
def bonus (time : TimeOfDay) : Alignment → Int
  | .lawful => time.lawfulBonus
  | .neutral => 0
  | .chaotic => -time.lawfulBonus

end TimeOfDay

end Hexfield
