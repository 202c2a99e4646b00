import Hexfield.Choice
import Hexfield.Damage
import Hexfield.Schedule

namespace Hexfield

/-!
The numbers of one attack: who hits whom how hard and how often.

`Battlefield.matchup` reads everything an exchange depends on off the field as it stands.  Nothing
is remembered between calls: what slow, drain or a death changes shows in the next matchup.
-/

/-- What one side brings to an exchange. -/
structure StrikeProfile where
  /-- The index of its weapon; `none` when it cannot strike. -/
  weapon : Option Nat := none
  /-- The chance that a strike hits, in percent. -/
  chanceToHit : Nat := 0
  /-- The damage of a strike that hits. -/
  damage : Nat := 0
  strikes : Nat := 0
  drains : Bool := false
  slows : Bool := false
  poisons : Bool := false
  petrifies : Bool := false
  firstStrike : Bool := false
  backstab : Bool := false
  /-- The type of unit that a victim rises as. -/
  contagion : Option String := none
deriving DecidableEq

namespace StrikeProfile

/-- The chance that a strike hits, as a fraction. -/
@[specialize] def hitProbability {α : Type} [Scalar α] (profile : StrikeProfile) : α :=
  Scalar.percent profile.chanceToHit

/-- The damage that a round of strikes does on average, if no one dies. -/
@[specialize] def expectedDamage {α : Type} [Scalar α] (profile : StrikeProfile) : α :=
  profile.hitProbability * Scalar.ofNat (low32 (profile.damage * profile.strikes))

end StrikeProfile

structure Matchup where
  attacker : StrikeProfile := {}
  defender : StrikeProfile := {}
  /-- How many rounds the exchange may last. -/
  rounds : Nat := 0
  toTheDeath : Bool := false
  defenderStrikesFirst : Bool := false
deriving DecidableEq

/-- The schedule of a matchup: its first round, led by whoever strikes first, and then the other
rounds, led by the attacker. -/
def Matchup.schedule (matchup : Matchup) : List Bool :=
  Schedule.exchange matchup.attacker.strikes matchup.defender.strikes (max matchup.rounds 1)
    matchup.defenderStrikesFirst

theorem Matchup.length_schedule (matchup : Matchup) :
    matchup.schedule.length =
      max matchup.rounds 1 * (matchup.attacker.strikes + matchup.defender.strikes) := by
  rcases Nat.exists_eq_add_of_le (Nat.le_max_right matchup.rounds 1) with ⟨rounds, count⟩
  simp [schedule, Schedule.exchange, Schedule.length_round, count, Nat.add_mul]

/-- The expected damage of an answer with a weapon, by which a defender chooses: damage, times what
the attacker's resistance leaves of it, times strikes, times the weapon's weight. -/
def counterRating (attacker defender : Combatant) (weapon : Weapon) : Float :=
  let modifier : Float :=
    Scalar.percent (wrap32 (100 - attacker.resistances.get weapon.damageType)).toNat
  Scalar.ofNat weapon.damage * modifier * Scalar.ofNat (defender.strikesWith weapon) *
    weapon.defenseWeight

/-- A weapon that a defender may answer with: of the attacking weapon's range, and of positive
weight.  A weight that is not a number counts as positive. -/
def canCounter (attacking weapon : Weapon) : Bool :=
  weapon.range == attacking.range && !(weapon.defenseWeight ≤ 0.0)

/-- The index of the weapon with which a defender answers: the first of those with the highest
rating. -/
def chooseCounter (attacker defender : Combatant) (attacking : Weapon) : Option Nat :=
  if defender.incapacitated then none
  else
    let candidates := defender.weapons.zipIdx.filterMap fun (weapon, index) =>
      if canCounter attacking weapon then some (index, counterRating attacker defender weapon)
      else none
    (Choice.best? candidates).map Prod.fst

/-- Two units about to fight, with the weapons they use. -/
structure Pairing where
  attacker : Combatant
  defender : Combatant
  weaponIndex : Nat
  weapon : Weapon
  /-- The weapon of the defender and its index. -/
  counter : Option (Nat × Weapon)
  /-- The attacker stabs the defender in the back. -/
  backstab : Bool

namespace Battlefield

/-- An attack from one hex on another is a stab in the back: the hex behind the target holds an
active unit that is the target's enemy, or one of these two belongs to no side of the battle. -/
def canBackstab (field : Battlefield) (attackerHex defenderHex : Hex) : Bool :=
  match field.roster.unitAt? defenderHex with
  | none => false
  | some defender =>
      match (defenderHex.oppositeOf attackerHex).bind field.roster.unitAt? with
      | none => false
      | some flanker =>
          !flanker.incapacitated &&
            (!field.teams.isValid defender.side || !field.teams.isValid flanker.side ||
              field.isEnemy flanker.side defender.side)

/-- The pairing of two units when the first attacks with one of its weapons. -/
def pair (field : Battlefield) (attacker defender : Combatant) (weaponIndex : Nat)
    (weapon : Weapon) : Pairing :=
  { attacker, defender, weaponIndex, weapon
    counter := (chooseCounter attacker defender weapon).bind fun index =>
      (defender.weapons[index]?).map fun counter => (index, counter)
    backstab := weapon.hasSpecial .backstab && field.canBackstab attacker.hex defender.hex }

/-- The pairing of two units named by their numbers. -/
def pairing (field : Battlefield) (attacker defender : UnitId) (weapon : Nat) :
    Except Fault Pairing := do
  let attackerUnit ← field.unit attacker
  let defenderUnit ← field.unit defender
  let chosen ← attackerUnit.weapon weapon
  pure (field.pair attackerUnit defenderUnit weapon chosen)

/-- The type of unit that a victim of a blow would rise as.  Only the living rise, and no one does
in a village, if the rules protect villages. -/
def contagionAgainst (field : Battlefield) (striker target : Combatant) (weapon : Weapon) :
    Option String :=
  if ¬ target.living then none
  else if field.rules.villageBlocksContagion ∧ field.board.isVillage target.hex then none
  else weapon.spawnType? striker.unitType

end Battlefield

namespace Pairing

/-- The attacker's weapon charges, which doubles the damage of both sides. -/
def charges (pairing : Pairing) : Bool :=
  pairing.weapon.hasSpecial .charge

def attackerBlow (pairing : Pairing) : Blow :=
  { striker := pairing.attacker, target := pairing.defender, weapon := pairing.weapon
    doublings := pairing.charges.toNat + pairing.backstab.toNat
    targetDefends := true }

def defenderBlow (pairing : Pairing) (weapon : Weapon) : Blow :=
  { striker := pairing.defender, target := pairing.attacker, weapon
    doublings := pairing.charges.toNat
    targetDefends := false }

/-- The chance that the attacker hits, in percent.  A marksman's lower bound comes after the fixed
chance of magic. -/
def attackerChance (pairing : Pairing) (field : Battlefield) : Nat :=
  let terrainChance := field.chanceToBeHit pairing.defender
  let chance :=
    if pairing.weapon.hasSpecial .magical then field.rules.magicalChance else terrainChance
  let chance :=
    if pairing.weapon.hasSpecial .marksman then max chance field.rules.marksmanFloor else chance
  min chance 100

/-- The chance that the defender hits, in percent; also known when it has no weapon. -/
def defenderChance (pairing : Pairing) (field : Battlefield) : Nat :=
  let terrainChance := field.chanceToBeHit pairing.attacker
  let chance :=
    if pairing.counter.any (fun (_, weapon) => weapon.hasSpecial .magical) then
      field.rules.magicalChance
    else
      terrainChance
  min chance 100

/-- What a striker brings to the exchange against a target. -/
def profile (field : Battlefield) (blow : Blow) (index chance : Nat) (backstab : Bool) :
    StrikeProfile :=
  let contagion := field.contagionAgainst blow.striker blow.target blow.weapon
  { weapon := some index
    chanceToHit := chance
    damage := (field.damageFigure blow).total
    strikes := blow.striker.strikesWith blow.weapon
    drains := blow.weapon.hasSpecial .drain && blow.target.living
    slows := blow.weapon.hasSpecial .slow
    poisons := blow.target.living && (blow.weapon.hasSpecial .poison || contagion.isSome)
    petrifies := blow.weapon.hasSpecial .petrify
    firstStrike := blow.weapon.hasSpecial .firstStrike
    backstab, contagion }

def attackerProfile (pairing : Pairing) (field : Battlefield) : StrikeProfile :=
  profile field pairing.attackerBlow pairing.weaponIndex (pairing.attackerChance field)
    pairing.backstab

def defenderProfile (pairing : Pairing) (field : Battlefield) : StrikeProfile :=
  match pairing.counter with
  | some (index, weapon) =>
      profile field (pairing.defenderBlow weapon) index (pairing.defenderChance field) false
  | none => { chanceToHit := pairing.defenderChance field }

/-- Someone goes berserk. -/
def berserk (pairing : Pairing) : Bool :=
  pairing.weapon.hasSpecial .berserk ||
    pairing.counter.any (fun (_, weapon) => weapon.hasSpecial .berserk)

def matchup (pairing : Pairing) (field : Battlefield) : Matchup :=
  let attacker := pairing.attackerProfile field
  let defender := pairing.defenderProfile field
  let rounds := if pairing.berserk then max field.rules.berserkRounds 1 else 1
  { attacker, defender, rounds
    toTheDeath := 1 < rounds
    defenderStrikesFirst := defender.firstStrike && !attacker.firstStrike }

end Pairing

/-- How each side's numbers come about, as labelled lines. -/
structure Breakdown where
  attacker : List (String × String) := []
  defender : List (String × String) := []
deriving DecidableEq

def Pairing.breakdown (pairing : Pairing) (field : Battlefield) : Breakdown :=
  let attacker := pairing.attackerProfile field
  let defender := pairing.defenderProfile field
  let closing (profile : StrikeProfile) : List (String × String) :=
    [("strikes", toString profile.strikes), ("chance to hit", toString profile.chanceToHit ++ "%")]
  let answer :=
    match pairing.counter with
    | some (_, weapon) => (field.damageFigure (pairing.defenderBlow weapon)).lines
    | none => []
  { attacker := (field.damageFigure pairing.attackerBlow).lines ++ closing attacker
    defender := answer ++ closing defender }

def Battlefield.matchup (field : Battlefield) (attacker defender : UnitId) (weapon : Nat) :
    Except Fault Matchup :=
  (field.pairing attacker defender weapon).map fun pairing => pairing.matchup field

end Hexfield
