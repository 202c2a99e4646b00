import Hexfield.Text

namespace Hexfield

/-!
The special abilities that a weapon can carry.

Names are read leniently: white space around a name is ignored, some abilities have a second name,
and a name that means nothing here is kept as it stands, so that a weapon never loses one.
-/

/-- A special ability of a weapon. -/
inductive Special where
  /-- The wielder strikes first, also when it defends. -/
  | firstStrike
  /-- Half of the damage dealt to the living heals the wielder. -/
  | drain
  /-- The living that it kills rise as a new unit; as one of the wielder's own type, if no type is
  named. -/
  | contagion (spawnType : Option String)
  | poison
  /-- The target's damage is divided from then on. -/
  | slow
  /-- The target turns to stone, which ends the exchange. -/
  | petrify
  /-- The chance to hit is fixed, whatever the terrain. -/
  | magical
  /-- The chance to hit has a lower bound on the attack. -/
  | marksman
  /-- On the attack, damage dealt and damage taken are doubled. -/
  | charge
  /-- On the attack, damage is doubled when an enemy of the target stands behind it. -/
  | backstab
  /-- The exchange is repeated until one side dies or the rounds run out. -/
  | berserk
  /-- The number of strikes shrinks with the wielder's hitpoints. -/
  | swarm
  /-- An ability without any effect here. -/
  | unrecognized (name : String)
deriving DecidableEq

namespace Special

def ofName (text : String) : Special :=
  let name := Text.trim text
  match Text.after? "contagion:" name with
  | some spawnType => contagion (some (Text.trim spawnType))
  | none =>
      match name with
      | "first_strike" | "firststrike" => firstStrike
      | "drain" | "lifedrain" => drain
      | "contagion" | "plague" => contagion none
      | "poison" => poison
      | "slow" => slow
      | "petrify" | "stones" => petrify
      | "magical" => magical
      | "marksman" => marksman
      | "charge" => charge
      | "backstab" => backstab
      | "berserk" => berserk
      | "swarm" => swarm
      | _ => unrecognized name

/-- Two abilities are of one kind, whatever unit type or name they carry. -/
def sameKind : Special → Special → Bool
  | contagion _, contagion _ => true
  | unrecognized _, unrecognized _ => true
  | a, b => a == b

@[simp] theorem sameKind_self (special : Special) : special.sameKind special = true := by
  cases special <;> simp [sameKind]

end Special

end Hexfield
